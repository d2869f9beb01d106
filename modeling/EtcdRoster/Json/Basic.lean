import EtcdRoster.Data.Entries
import EtcdRoster.Number.Decimal

/-!
# JSON values

Objects are lists of members. A value is *canonical* when every object in it lists its members in
key order, each key once; the parser and the writers of this library build only such values, and on
them equality of values is equality of documents.
-/

namespace EtcdRoster

/-- A JSON document. Whole numbers are kept apart from numbers with a fraction or an exponent. -/
inductive Json
  | null
  | bool (b : Bool)
  | int (n : Int)
  | real (r : Decimal)
  | str (s : String)
  | arr (items : List Json)
  | obj (members : List (String × Json))
deriving Inhabited

namespace Json

/-! ## Equality -/

mutual

/-- Equality of documents is decidable. -/
def decEq : (a b : Json) → Decidable (a = b)
  | .null, .null => isTrue rfl
  | .bool a, .bool b =>
    if h : a = b then isTrue (by rw [h]) else isFalse (by simp [h])
  | .int a, .int b =>
    if h : a = b then isTrue (by rw [h]) else isFalse (by simp [h])
  | .real a, .real b =>
    if h : a = b then isTrue (by rw [h]) else isFalse (by simp [h])
  | .str a, .str b =>
    if h : a = b then isTrue (by rw [h]) else isFalse (by simp [h])
  | .arr a, .arr b =>
    match decEqItems a b with
    | isTrue h => isTrue (by rw [h])
    | isFalse h => isFalse (by simpa using h)
  | .obj a, .obj b =>
    match decEqMembers a b with
    | isTrue h => isTrue (by rw [h])
    | isFalse h => isFalse (by simpa using h)
  | .null, .bool _ | .null, .int _ | .null, .real _ | .null, .str _ | .null, .arr _
  | .null, .obj _ => isFalse nofun
  | .bool _, .null | .bool _, .int _ | .bool _, .real _ | .bool _, .str _ | .bool _, .arr _
  | .bool _, .obj _ => isFalse nofun
  | .int _, .null | .int _, .bool _ | .int _, .real _ | .int _, .str _ | .int _, .arr _
  | .int _, .obj _ => isFalse nofun
  | .real _, .null | .real _, .bool _ | .real _, .int _ | .real _, .str _ | .real _, .arr _
  | .real _, .obj _ => isFalse nofun
  | .str _, .null | .str _, .bool _ | .str _, .int _ | .str _, .real _ | .str _, .arr _
  | .str _, .obj _ => isFalse nofun
  | .arr _, .null | .arr _, .bool _ | .arr _, .int _ | .arr _, .real _ | .arr _, .str _
  | .arr _, .obj _ => isFalse nofun
  | .obj _, .null | .obj _, .bool _ | .obj _, .int _ | .obj _, .real _ | .obj _, .str _
  | .obj _, .arr _ => isFalse nofun

def decEqItems : (a b : List Json) → Decidable (a = b)
  | [], [] => isTrue rfl
  | [], _ :: _ => isFalse nofun
  | _ :: _, [] => isFalse nofun
  | x :: a, y :: b =>
    match decEq x y, decEqItems a b with
    | isTrue h, isTrue h' => isTrue (by rw [h, h'])
    | isFalse h, _ => isFalse (by simp [h])
    | _, isFalse h => isFalse (by simp [h])

def decEqMembers : (a b : List (String × Json)) → Decidable (a = b)
  | [], [] => isTrue rfl
  | [], _ :: _ => isFalse nofun
  | _ :: _, [] => isFalse nofun
  | (k, x) :: a, (l, y) :: b =>
    if hk : k = l then
      match decEq x y, decEqMembers a b with
      | isTrue h, isTrue h' => isTrue (by rw [hk, h, h'])
      | isFalse h, _ => isFalse (by simp [h])
      | _, isFalse h => isFalse (by simp [h])
    else isFalse (by simp [hk])

end

instance : DecidableEq Json := decEq

/-! ## Canonical values -/

mutual

/-- Every object lists its members in key order. -/
def Canonical : Json → Prop
  | .arr items => CanonicalItems items
  | .obj members => Entries.Sorted members ∧ CanonicalMembers members
  | _ => True

def CanonicalItems : List Json → Prop
  | [] => True
  | item :: rest => Canonical item ∧ CanonicalItems rest

def CanonicalMembers : List (String × Json) → Prop
  | [] => True
  | (_, value) :: rest => Canonical value ∧ CanonicalMembers rest

end

theorem canonicalMembers_iff {members : List (String × Json)} :
    CanonicalMembers members ↔ ∀ e ∈ members, e.2.Canonical := by
  induction members with
  | nil => simp [CanonicalMembers]
  | cons e rest ih => simp [CanonicalMembers, ih]

theorem canonicalItems_iff {items : List Json} :
    CanonicalItems items ↔ ∀ item ∈ items, item.Canonical := by
  induction items with
  | nil => simp [CanonicalItems]
  | cons item rest ih => simp [CanonicalItems, ih]

/-! ## Objects -/

/-- The value of a member; nothing for a value that is no object. -/
def get? (key : String) : Json → Option Json
  | .obj members => Entries.get? key members
  | _ => none

/-- The object of the members that are present, in key order. -/
def record (fields : List (String × Option Json)) : Json :=
  .obj (Entries.ofList (fields.filterMap fun field => field.2.map (field.1, ·)))

/-- The object of these members, in key order. -/
def object (members : List (String × Json)) : Json := .obj (Entries.ofList members)

@[simp] theorem get?_record_nil (key : String) : (record []).get? key = none := rfl

theorem get?_record_cons (key : String) (field : String × Option Json)
    (fields : List (String × Option Json)) :
    (record (field :: fields)).get? key =
      match field.2 with
      | some value => if key = field.1 then some value else (record fields).get? key
      | none => (record fields).get? key := by
  obtain ⟨k, v⟩ := field
  cases v <;> simp [record, get?, Entries.get?_ofList, Entries.get?_cons]

/-- Puts a member into an object; any other value becomes an object of this member alone. -/
def set (j : Json) (key : String) (value : Json) : Json :=
  match j with
  | .obj members => .obj (Entries.insert key value members)
  | _ => .obj [(key, value)]

/-- The text that a document is, if it is one. -/
def string? : Json → Option String
  | .str s => some s
  | _ => none

/-- The value reached along a path of member names. -/
def path? : List String → Json → Option Json
  | [], j => some j
  | key :: rest, j => (j.get? key).bind (path? rest)

end Json

end EtcdRoster
