import EtcdRoster.Json.Decoder

/-!
# Documents as parts of values

A value can have a part of which nothing is known but that it is a document. It is kept in its
canonical form, so that equal parts are equal values.

Main facts: `tidy` puts a document into this form (`canonical_tidy`) and changes none that has it
(`tidy_eq_self`).
-/

namespace EtcdRoster.Json

/-! ## Canonical forms -/

mutual

/-- Puts the members of every object in key order. -/
def tidy : Json → Json
  | .arr items => .arr (tidyItems items)
  | .obj members => .obj (Entries.ofList (tidyMembers members))
  | .null => .null
  | .bool b => .bool b
  | .int n => .int n
  | .real r => .real r
  | .str s => .str s

def tidyItems : List Json → List Json
  | [] => []
  | item :: rest => tidy item :: tidyItems rest

def tidyMembers : List (String × Json) → List (String × Json)
  | [] => []
  | (key, value) :: rest => (key, tidy value) :: tidyMembers rest

end

mutual

theorem canonical_tidy : (j : Json) → j.tidy.Canonical
  | .arr items => canonicalItems_tidyItems items
  | .obj members =>
    ⟨Entries.sorted_ofList _, canonicalMembers_iff.mpr fun _ he =>
      canonicalMembers_iff.mp (canonicalMembers_tidyMembers members) _ (Entries.mem_ofList he)⟩
  | .null | .bool _ | .int _ | .real _ | .str _ => trivial

theorem canonicalItems_tidyItems : (items : List Json) → CanonicalItems (tidyItems items)
  | [] => trivial
  | item :: rest => ⟨canonical_tidy item, canonicalItems_tidyItems rest⟩

theorem canonicalMembers_tidyMembers :
    (members : List (String × Json)) → CanonicalMembers (tidyMembers members)
  | [] => trivial
  | (_, value) :: rest => ⟨canonical_tidy value, canonicalMembers_tidyMembers rest⟩

end

mutual

theorem tidy_eq_self : {j : Json} → j.Canonical → j.tidy = j
  | .arr _, h => congrArg Json.arr (tidyItems_eq_self h)
  | .obj members, h => by
    rw [tidy, tidyMembers_eq_self h.2]
    exact congrArg Json.obj (Entries.eq_of_get?_eq (Entries.sorted_ofList members) h.1 fun key =>
      Entries.get?_ofList key members)
  | .null, _ | .bool _, _ | .int _, _ | .real _, _ | .str _, _ => rfl

theorem tidyItems_eq_self : {items : List Json} → CanonicalItems items → tidyItems items = items
  | [], _ => rfl
  | _ :: _, h => by rw [tidyItems, tidy_eq_self h.1, tidyItems_eq_self h.2]

theorem tidyMembers_eq_self :
    {members : List (String × Json)} → CanonicalMembers members → tidyMembers members = members
  | [], _ => rfl
  | (_, _) :: _, h => by rw [tidyMembers, tidy_eq_self h.1, tidyMembers_eq_self h.2]

end

/-! ## Parts of values -/

/-- A document in canonical form. -/
structure Document where
  json : Json
  canonical : json.Canonical

namespace Document

instance : Inhabited Document := ⟨.null, trivial⟩

instance : DecidableEq Document := fun a b =>
  if h : a.json = b.json then isTrue (by cases a; cases b; cases h; rfl)
  else isFalse fun hab => h (by rw [hab])

def ofJson (j : Json) : Document := ⟨j.tidy, j.canonical_tidy⟩

theorem ofJson_json (d : Document) : ofJson d.json = d := by
  obtain ⟨j, canonical⟩ := d
  simp only [ofJson, tidy_eq_self canonical]

/-- Every document is taken as it is. -/
def decode : Decoder Document := fun j => .ok (ofJson j)

end Document

end EtcdRoster.Json
