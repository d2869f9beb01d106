import EtcdRoster.Dns.Name
import EtcdRoster.Text.Insertions
import EtcdRoster.Text.Unprintable

/-!
# Labels in any script

Names that people write have labels in any script and case. Such a label is kept in an ASCII form:
letters are lowered, and a part with characters beyond ASCII becomes `xn--` and their code. In this
form it has letters, digits and hyphens only. A label that begins with `_` names a service and is
kept as it is, and so is a lone `*`.

Capital letters are lowered in the Latin, Greek, Cyrillic and Armenian scripts; accents that stand
alone are not joined to their letters.
-/

namespace EtcdRoster.Dns.Label

/-! ## Letters -/

/-- Ranges of capital letters and how far away their small letters are. -/
def capitals : List (Nat × Nat × Nat) :=
  [(0x41, 0x5A, 32), (0xC0, 0xD6, 32), (0xD8, 0xDE, 32), (0x386, 0x386, 38), (0x388, 0x38A, 37),
   (0x38C, 0x38C, 64), (0x38E, 0x38F, 63), (0x391, 0x3A1, 32), (0x3A3, 0x3AB, 32),
   (0x400, 0x40F, 80), (0x410, 0x42F, 32), (0x531, 0x556, 48)]

/-- Ranges in which capital and small letters alternate, from a capital letter on. -/
def alternating : List (Nat × Nat) :=
  [(0x100, 0x12F), (0x134, 0x137), (0x139, 0x13E), (0x141, 0x148), (0x14A, 0x177), (0x179, 0x17E),
   (0x1CD, 0x1DC), (0x1DE, 0x1EF), (0x1F8, 0x21F), (0x222, 0x233), (0x370, 0x373), (0x3D8, 0x3EF),
   (0x460, 0x481), (0x48A, 0x4BF), (0x4C1, 0x4CE), (0x4D0, 0x52F), (0x1E00, 0x1E95),
   (0x1EA0, 0x1EFF)]

/-- The small letter of a capital letter, and every other character itself. -/
def lower (c : Char) : Char :=
  match capitals.find? fun range => range.1 ≤ c.toNat && c.toNat ≤ range.2.1 with
  | some range => Char.ofNat (c.toNat + range.2.2)
  | none =>
    match alternating.find? fun range => range.1 ≤ c.toNat && c.toNat ≤ range.2 with
    | some range => if (c.toNat - range.1) % 2 = 0 then Char.ofNat (c.toNat + 1) else c
    | none => c

/-- The dots of other scripts, which end a part of a label like the dot itself. -/
def isDot (c : Char) : Bool := ['.', '\u3002', '\uFF0E', '\uFF61'].contains c

/-- The plain form of a full-width character of ASCII. -/
def narrow (c : Char) : Char :=
  if 0xFF01 ≤ c.toNat ∧ c.toNat ≤ 0xFF5E then Char.ofNat (c.toNat - 0xFEE0) else c

def fold (c : Char) : Char := if isDot c then '.' else lower (narrow c)

/-! ## Parts -/

/-- The small letters, the digits and the hyphen. -/
def isPlain (c : Char) : Bool := c.isLower || c.isDigit || c = '-'

/-- Whether a character may stand in a part of a label beyond ASCII. -/
def isForeign (c : Char) : Bool := isPlain c || (!Text.Insertions.isAscii c && fold c = c)

/-- Whether a text beyond ASCII is a part of a label. No mark stands first. -/
def isForeignPart (part : List Char) : Bool :=
  part.all isForeign && !part.all Text.Insertions.isAscii
    && !part.head?.any Text.isUnprintable

/-- What a part in ASCII form begins with when it stands for one beyond ASCII. -/
def mark : List Char := "xn--".toList

/-- The part that an ASCII form stands for, if it has a code. -/
def foreign? (part : List Char) : Option (List Char) := do
  let text ← Text.Insertions.decode? (← Text.dropBeginning? mark part)
  if isForeignPart text then some text else none

/-- The ASCII form of a part. -/
def asciiPart? (part : List Char) : Option (List Char) :=
  if part.all isPlain then
    if mark.isPrefixOf part && (foreign? part).isNone then none else some part
  else if isForeignPart part then some (mark ++ Text.Insertions.encode part)
  else none

/-! ## Labels -/

def joinDots (parts : List (List Char)) : List Char := List.intercalate ['.'] parts

/-- The ASCII form of a label. -/
def ascii? (label : List Char) : Option (List Char) :=
  joinDots <$> (Text.splitOn '.' (label.map fold)).mapM asciiPart?

/-- The form in which a label is kept. -/
def keep (label : List Char) : Except NameError (List Char) :=
  if label = ['*'] || label.head? = some '_' then .ok label
  else match ascii? label with
    | some label => .ok label
    | none => .error .foreignCharacters

/-- The text of a label in its own script. -/
def shown (label : List Char) : List Char :=
  joinDots ((Text.splitOn '.' label).map fun part => (foreign? part).getD part)

end EtcdRoster.Dns.Label
