import EtcdRoster.Data.Entries

/-!
# Dictionaries

A dictionary from strings is a list of entries together with the proof that its keys increase, so
equal dictionaries are equal as values: `Dict.ext_get?`.
-/

namespace EtcdRoster

/-- A finite map from strings, held in key order. -/
structure Dict (α : Type) where
  entries : List (String × α)
  sorted : Entries.Sorted entries

namespace Dict

variable {α : Type}

def empty : Dict α := ⟨[], List.Pairwise.nil⟩

instance : Inhabited (Dict α) := ⟨empty⟩

instance [DecidableEq α] : DecidableEq (Dict α) := fun a b =>
  if h : a.entries = b.entries then isTrue (by cases a; cases b; cases h; rfl)
  else isFalse fun hab => h (by rw [hab])

def get? (d : Dict α) (key : String) : Option α := Entries.get? key d.entries

def contains (d : Dict α) (key : String) : Bool := (d.get? key).isSome

def insert (d : Dict α) (key : String) (value : α) : Dict α :=
  ⟨Entries.insert key value d.entries, Entries.sorted_insert d.sorted⟩

def erase (d : Dict α) (key : String) : Dict α :=
  ⟨Entries.erase key d.entries, Entries.sorted_erase d.sorted⟩

/-- The first entry of a key counts. -/
def ofList (entries : List (String × α)) : Dict α :=
  ⟨Entries.ofList entries, Entries.sorted_ofList entries⟩

def toList (d : Dict α) : List (String × α) := d.entries

def keys (d : Dict α) : List String := d.entries.map Prod.fst

/-- Replaces the value of a key by a function of what was there. -/
def alter (d : Dict α) (key : String) (f : Option α → α) : Dict α :=
  d.insert key (f (d.get? key))

@[simp] theorem get?_empty (key : String) : (empty : Dict α).get? key = none := rfl

theorem get?_insert (d : Dict α) (key other : String) (value : α) :
    (d.insert key value).get? other = if other = key then some value else d.get? other :=
  Entries.get?_insert key other value d.entries

theorem get?_erase (d : Dict α) (key other : String) :
    (d.erase key).get? other = if other = key then none else d.get? other :=
  Entries.get?_erase key other d.entries

theorem get?_ofList (entries : List (String × α)) (key : String) :
    (ofList entries).get? key = Entries.get? key entries :=
  Entries.get?_ofList key entries

/-- Dictionaries that agree on every key are equal. -/
theorem ext_get? {a b : Dict α} (h : ∀ key, a.get? key = b.get? key) : a = b := by
  have := Entries.eq_of_get?_eq a.sorted b.sorted h
  cases a; cases b; cases this; rfl

theorem get?_alter (d : Dict α) (key other : String) (f : Option α → α) :
    (d.alter key f).get? other = if other = key then some (f (d.get? key)) else d.get? other :=
  get?_insert d key other _

end Dict

end EtcdRoster
