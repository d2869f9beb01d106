import EtcdRoster.Data.Dict
import EtcdRoster.Json.Printer
import EtcdRoster.Text.Bytes
import EtcdRoster.Text.Quoted

/-!
# Decoders

A decoder takes a document to a value, or tells what does not fit and where: after how many bytes of
the compact text of the document. Of several misfits the one that comes first in the text is told.

A `Record` describes the members of an object by name and, for records that may also be given as a
list, by their order. The members differ in what an absent member and `null` mean: `required`,
`optional`, `defaulted`, `lenient` and `constant`.
-/

namespace EtcdRoster.Json

variable {α β : Type}

/-! ## Misfits -/

/-- What does not fit, and how many bytes of the text come before it is noticed. -/
structure Misfit where
  complaint : String
  offset : Nat
deriving DecidableEq, Inhabited, Repr

namespace Misfit

/-- The same misfit seen from a text in which the document begins after so many bytes. -/
def shift (start : Nat) (m : Misfit) : Misfit := { m with offset := start + m.offset }

/-- The complaint with its place in a text of one line. -/
def message (m : Misfit) : String := m.complaint ++ " at line 1 column " ++ Nat.repr m.offset

end Misfit

abbrev Decoder (α : Type) := Json → Except Misfit α

/-- The bytes of the compact text. -/
def size (j : Json) : Nat := Text.byteLength j.print.toList

/-- What a document is, in a complaint. -/
def described : Json → String
  | .null => "null"
  | .bool b => "boolean " ++ tick ++ (if b then "true" else "false") ++ tick
  | .int n => "integer " ++ tick ++ Int.repr n ++ tick
  | .real r => "floating point " ++ tick ++ printReal r ++ tick
  | .str s => "string " ++ Text.quoted s
  | .arr _ => "sequence"
  | .obj _ => "map"
where
  tick : String := "\x60"

/-- Whether a document has others in it. -/
def isCompound : Json → Bool
  | .arr _ => true
  | .obj _ => true
  | _ => false

/-- A scalar of a wrong type is noticed behind it, a list or an object in front of it. -/
def wrongType (expected : String) (j : Json) : Misfit :=
  ⟨"invalid type: " ++ described j ++ ", expected " ++ expected,
    if j.isCompound then 0 else j.size⟩

def wrongValue (expected : String) (j : Json) : Misfit :=
  ⟨"invalid value: " ++ described j ++ ", expected " ++ expected, j.size⟩

/-! ## Scalars and lists -/

def text : Decoder String
  | .str s => .ok s
  | j => .error (wrongType "a string" j)

def flag : Decoder Bool
  | .bool b => .ok b
  | j => .error (wrongType "a boolean" j)

/-- A whole number of a type that ranges from `low` to `high`. -/
def whole (expected : String) (low high : Int) (make : Int → α) : Decoder α
  | .int n => if low ≤ n ∧ n ≤ high then .ok (make n) else .error (wrongValue expected (.int n))
  | j => .error (wrongType expected j)

def int32 : Decoder Int32 := whole "i32" Int32.minValue.toInt Int32.maxValue.toInt Int32.ofInt

def int64 : Decoder Int64 := whole "i64" Int64.minValue.toInt Int64.maxValue.toInt Int64.ofInt

def uint16 : Decoder UInt16 := whole "u16" 0 (UInt16.size - 1) fun n => UInt16.ofNat n.toNat

def uint32 : Decoder UInt32 := whole "u32" 0 (UInt32.size - 1) fun n => UInt32.ofNat n.toNat

/-- `null` stands for nothing. -/
def nullable (decode : Decoder α) : Decoder (Option α)
  | .null => .ok none
  | j => (decode j).map some

/-- Where the text of the item with this number begins. -/
def itemStart (items : List Json) (i : Nat) : Nat :=
  (items.take i).foldl (fun n item => n + item.size + 1) 1

/-- Where the text of the member with this key begins. -/
def memberStart (key : String) : List (String × Json) → Nat
  | [] => 0
  | (other, value) :: rest =>
    let here := 1 + (Json.str other).size + 1
    if key = other then here else here + value.size + memberStart key rest

def list (decode : Decoder α) : Decoder (List α)
  | .arr items =>
    items.zipIdx.mapM fun (item, i) =>
      (decode item).mapError fun m => m.shift (itemStart items i)
  | j => .error (wrongType "a sequence" j)

def dict (decode : Decoder α) : Decoder (Dict α)
  | .obj members => do
    let entries ← members.mapM fun (key, value) =>
      ((decode value).mapError fun m => m.shift (memberStart key members)).map (key, ·)
    return Dict.ofList entries
  | j => .error (wrongType "a map" j)

/-! ## Records -/

/-- What a record is decoded from. -/
inductive Source
  /-- An object has its members by name. -/
  | named (members : List (String × Json))
  /-- A list has the members of a record of this name, which has so many, in their order. -/
  | listed (name : String) (width : Nat) (items : List Json)

namespace Source

def find? (s : Source) (key : String) (i : Nat) : Option Json :=
  match s with
  | .named members => Entries.get? key members
  | .listed _ _ items => items[i]?

def start (s : Source) (key : String) (i : Nat) : Nat :=
  match s with
  | .named members => memberStart key members
  | .listed _ _ items => itemStart items i

/-- How a record is described by its name and width. -/
def shape (name : String) (width : Nat) : String :=
  "struct " ++ name ++ " with " ++ Nat.repr width ++ (if width = 1 then " element" else " elements")

/-- A member that is not there is noticed at the end. -/
def lacks (s : Source) (key : String) (i : Nat) : Misfit :=
  match s with
  | .named members => ⟨"missing field \x60" ++ key ++ "\x60", (Json.obj members).size⟩
  | .listed name width items =>
    ⟨"invalid length " ++ Nat.repr i ++ ", expected " ++ shape name width, (Json.arr items).size⟩

/-- Whether the members have names. -/
def isNamed : Source → Bool
  | .named _ => true
  | .listed .. => false

end Source

/-- Some members of a record, one after the other: how many they are, and how they are decoded from
a source in which the first of them has a given number. -/
structure Record (α : Type) where
  width : Nat
  run : Source → Nat → Except Misfit α

namespace Record

/-- Both results, or the misfit that comes first. -/
def both (f : Except Misfit (α → β)) (a : Except Misfit α) : Except Misfit β :=
  match f, a with
  | .ok f, .ok a => .ok (f a)
  | .ok _, .error m => .error m
  | .error m, .ok _ => .error m
  | .error m, .error n => .error (if n.offset < m.offset then n else m)

instance : Applicative Record where
  pure a := ⟨0, fun _ _ => .ok a⟩
  seq f a := ⟨f.width + (a ()).width, fun s i => both (f.run s i) ((a ()).run s (i + f.width))⟩

/-- A member, and what it is if it is not there. -/
def member (absent : Source → Option α) (decode : Decoder α) (key : String) : Record α :=
  ⟨1, fun s i =>
    match s.find? key i with
    | some value => (decode value).mapError fun m => m.shift (s.start key i)
    | none =>
      match absent s with
      | some a => .ok a
      | none => .error (s.lacks key i)⟩

/-- The member must be there. -/
def required (decode : Decoder α) (key : String) : Record α := member (fun _ => none) decode key

/-- The member may be `null`, and an object need not have it. -/
def optional (decode : Decoder α) (key : String) : Record (Option α) :=
  member (fun s => if s.isNamed then some none else none) (nullable decode) key

/-- An absent member has a default, but `null` is refused like any other wrong value. -/
def defaulted (default : α) (decode : Decoder α) (key : String) : Record α :=
  member (fun _ => some default) decode key

/-- An absent member and `null` have a default. -/
def lenient (default : α) (decode : Decoder α) (key : String) : Record α :=
  (·.getD default) <$> optional decode key

/-- A present member must be this text. -/
def constant (expected key : String) : Record Unit :=
  member (fun _ => some ()) (fun j => do
    if (← text j) = expected then .ok () else .error (wrongValue expected j)) key

/-- Decodes an object of a type. -/
def decoder (name : String) (r : Record α) : Decoder α
  | .obj members => r.run (.named members) 0
  | j => .error (wrongType name j)

/-- Decodes an object, or the list of its members. -/
def listDecoder (name : String) (r : Record α) : Decoder α
  | .obj members => r.run (.named members) 0
  | .arr items => do
    let a ← r.run (.listed name r.width items) 0
    if r.width < items.length then
      .error ⟨"trailing characters", itemStart items r.width + 1⟩
    else .ok a
  | j => .error (wrongType ("struct " ++ name) j)

end Record

end EtcdRoster.Json
