import EtcdRoster.Text.Bytes
import EtcdRoster.Text.Numeric
import EtcdRoster.Text.Split

/-!
# Domain names

A name is a row of labels. In its text form labels end at dots, and a backslash takes the next
character literally or starts the code of a character in three octal digits. A label is a lone `*`
or consists of ASCII letters, digits, `_`, `.` and `-`, where `-` may not come first and `*` only
first; it has at most 63 bytes, and all labels together, with one more byte each, at most 255.
-/

namespace EtcdRoster.Dns

/-- A name; an absolute one ends at the root. -/
structure Name where
  labels : List (List Char)
  absolute : Bool
deriving DecidableEq, Inhabited

/-- What makes a text no name. -/
inductive NameError
  | unrecognized (c : Char)
  | illegal (c : Char)
  | labelTooLong (bytes : Nat)
  | malformed (label : List Char)
  /-- The label has characters that have no place in a name in any script. -/
  | foreignCharacters
  | nameTooLong (bytes : Nat)
deriving DecidableEq, Inhabited

def NameError.message : NameError → String
  | unrecognized c => "unrecognized char: " ++ String.singleton c
  | illegal c => "illegal char: " ++ String.singleton c
  | labelTooLong bytes => "label bytes exceed 63: " ++ Nat.repr bytes
  | malformed label => "Malformed label: " ++ String.ofList label
  | foreignCharacters => "Label contains invalid characters: Err(Errors)"
  | nameTooLong bytes => "name label data exceed 255: " ++ Nat.repr bytes

namespace Name

/-! ## Labels -/

def maxLabelBytes : Nat := 63

def maxNameBytes : Nat := 255

/-- The characters of a label. -/
def isLabelChar (isFirst : Bool) (c : Char) : Bool :=
  c.isAlphanum || c = '_' || c = '.' || (c = '-' && !isFirst) || (c = '*' && isFirst)

def isLabel (label : List Char) : Bool :=
  match label with
  | [] => false
  | c :: rest => isLabelChar true c && rest.all (isLabelChar false)

def checkLabel (label : List Char) : Except NameError Unit :=
  if Text.byteLength label > maxLabelBytes then .error (.labelTooLong (Text.byteLength label))
  else if isLabel label then .ok ()
  else .error (.malformed label)

/-- The bytes that labels take: their own and one more for each. -/
def dataLength (labels : List (List Char)) : Nat :=
  labels.foldr (fun label n => Text.byteLength label + 1 + n) 0

/-- Brings a label into the form in which it is kept. -/
abbrev Keep := List Char → Except NameError (List Char)

/-- Adds a label at the end. -/
def append (keep : Keep) (labels : List (List Char)) (label : List Char) :
    Except NameError (List (List Char)) := do
  let label ← keep label
  checkLabel label
  let labels := labels ++ [label]
  if dataLength labels > maxNameBytes then .error (.nameTooLong (dataLength labels))
  else .ok labels

/-! ## Reading -/

/-- Where the reader stands: in a label, after a backslash, or inside an octal code. -/
inductive Place
  | label
  | escape
  | code (digits value : Nat)
deriving DecidableEq

/-- The labels read so far and the characters of the label at hand. -/
structure Reader where
  labels : List (List Char) := []
  label : List Char := []
  place : Place := .label

def octalDigit? (c : Char) : Option Nat :=
  if '0' ≤ c ∧ c ≤ '7' then some (c.toNat - '0'.toNat) else none

/-- Consumes one character. -/
def Reader.step (keep : Keep) (r : Reader) (c : Char) : Except NameError Reader :=
  match r.place with
  | .label =>
    if c = '.' then do return { labels := ← append keep r.labels r.label }
    else if c = '\\' then .ok { r with place := .escape }
    else if Text.isControl c || Text.isBlank c then .error (.unrecognized c)
    else .ok { r with label := r.label ++ [c] }
  | .escape =>
    if Text.isNumeric c then
      match octalDigit? c with
      | some digit => .ok { r with place := .code 1 digit }
      | none => .error (.illegal c)
    else .ok { r with label := r.label ++ [c], place := .label }
  | .code digits value =>
    if Text.isNumeric c then
      match octalDigit? c with
      | some digit =>
        let value := 8 * value + digit
        if digits < 2 then .ok { r with place := .code (digits + 1) value }
        else .ok { r with label := r.label ++ [Char.ofNat value], place := .label }
      | none => .error (.illegal c)
    else .error (.unrecognized c)

/-- An empty last label stands for the root. An escape that is still open counts for nothing. -/
def Reader.finish (keep : Keep) (r : Reader) : Except NameError Name :=
  if r.label.isEmpty then .ok ⟨r.labels, true⟩
  else do return ⟨← append keep r.labels r.label, false⟩

/-- The name that a text stands for, each label in the form in which it is kept. -/
def read (keep : Keep) (text : List Char) : Except NameError Name :=
  if text = ['.'] then .ok ⟨[], true⟩
  else if text = [] then .ok ⟨[], false⟩
  else do (← text.foldlM (Reader.step keep) {}).finish keep

/-- The name that a text stands for, with the labels as they are. -/
def ofText (text : List Char) : Except NameError Name := read .ok text

/-! ## Writing -/

/-- A dot inside a label is escaped. -/
def labelText (label : List Char) : List Char :=
  label.flatMap fun c => if c = '.' then ['\\', '.'] else [c]

/-- The text of a name; an absolute one ends in a dot. -/
def text (name : Name) : List Char :=
  if name.labels = [] then (if name.absolute then ['.'] else [])
  else
    let labels := List.intercalate ['.'] (name.labels.map labelText)
    if name.absolute then labels ++ ['.'] else labels

end Name

end EtcdRoster.Dns
