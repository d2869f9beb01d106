import EtcdRoster.Ip.Basic
import EtcdRoster.Text.Digits
import EtcdRoster.Text.Split

/-!
# Addresses as text

An IPv4 address is four decimal octets without leading zeros. An IPv6 address is eight groups of one
to four hexadecimal digits; one `::` may stand for a run of zero groups, and a dotted IPv4 address
for the last two groups. There are no brackets and no zones.

An address is written in its shortest form: the first longest run of at least two zero groups is
left out, and an address that embeds an IPv4 address shows it.
-/

namespace EtcdRoster.IpAddress

/-- One to three digits, at most 255, and no zero in front. -/
def octet? (digits : List Char) : Option UInt8 :=
  if digits.isEmpty || digits.length > 3 then none
  else if digits.length > 1 && digits.head? == some '0' then none
  else (Text.natOfDigits? 10 digits).bind fun n => if n < 256 then some (UInt8.ofNat n) else none

/-- One to four hexadecimal digits. -/
def group? (digits : List Char) : Option UInt16 :=
  if digits.isEmpty || digits.length > 4 then none
  else (Text.natOfDigits? 16 digits).map UInt16.ofNat

/-- Four octets between dots. -/
def quad? (text : List Char) : Option (UInt8 × UInt8 × UInt8 × UInt8) :=
  match Text.splitOn '.' text with
  | [a, b, c, d] => do return (← octet? a, ← octet? b, ← octet? c, ← octet? d)
  | _ => none

def joinOctets (high low : UInt8) : UInt16 := high.toUInt16 * 256 + low.toUInt16

/-- The groups between colons; the last piece may be a dotted address if `mayEmbed`. -/
def groupsOfPieces? (mayEmbed : Bool) : List (List Char) → Option (List UInt16)
  | [] => some []
  | [last] =>
    match group? last with
    | some g => some [g]
    | none =>
      if mayEmbed then (quad? last).map fun (a, b, c, d) => [joinOctets a b, joinOctets c d]
      else none
  | piece :: rest => do return (← group? piece) :: (← groupsOfPieces? mayEmbed rest)

/-- The groups of a text between colons; an empty text has none. -/
def groups? (mayEmbed : Bool) (text : List Char) : Option (List UInt16) :=
  if text.isEmpty then some [] else groupsOfPieces? mayEmbed (Text.splitOn ':' text)

def ofGroups? (groups : List UInt16) : Option IpAddress :=
  if h : groups.length = 8 then some (.v6 ⟨groups.toArray, by simpa using h⟩) else none

/-- Reads an IPv6 address. A `::` stands for at least one group. -/
def parseV6? (text : List Char) : Option IpAddress :=
  match Text.cut? [':', ':'] text with
  | none => (groups? true text).bind ofGroups?
  | some (front, back) => do
    let head ← groups? false front
    let tail ← groups? true back
    if head.length + tail.length < 8 then
      ofGroups? (head ++ List.replicate (8 - (head.length + tail.length)) 0 ++ tail)
    else none

/-- Reads an address of either family. -/
def parse? (text : String) : Option IpAddress :=
  match quad? text.toList with
  | some (a, b, c, d) => some (.v4 a b c d)
  | none => parseV6? text.toList

/-! ## Writing -/

def quadText (a b c d : UInt8) : String :=
  String.intercalate "." ([a, b, c, d].map fun o => Nat.repr o.toNat)

def groupText (g : UInt16) : String := String.ofList (Nat.toDigits 16 g.toNat)

/-- The length of the run of zero groups at the front. -/
def zeroRun (groups : List UInt16) : Nat := (groups.takeWhile (· == 0)).length

/-- The first longest run of zero groups: where it starts and how long it is. -/
def longestZeroRun : (position : Nat) → List UInt16 → Nat × Nat
  | _, [] => (0, 0)
  | position, g :: rest =>
    let here := zeroRun (g :: rest)
    let (start, length) := longestZeroRun (position + 1) rest
    if here ≥ length && here > 0 then (position, here) else (start, length)

def groupsText (groups : List UInt16) : String :=
  String.intercalate ":" (groups.map groupText)

def v6Text (groups : List UInt16) : String :=
  let (start, length) := longestZeroRun 0 groups
  if length > 1 then
    groupsText (groups.take start) ++ "::" ++ groupsText (groups.drop (start + length))
  else groupsText groups

/-- The octets of an IPv4 address embedded as `::ffff:a.b.c.d`. -/
def embedded? (groups : List UInt16) : Option (UInt8 × UInt8 × UInt8 × UInt8) :=
  match groups with
  | [0, 0, 0, 0, 0, 0xffff, g, h] =>
    some ((g / 256).toUInt8, (g % 256).toUInt8, (h / 256).toUInt8, (h % 256).toUInt8)
  | _ => none

def text : IpAddress → String
  | .v4 a b c d => quadText a b c d
  | .v6 groups =>
    match embedded? groups.toList with
    | some (a, b, c, d) => "::ffff:" ++ quadText a b c d
    | none => v6Text groups.toList

/-- Address and port of a socket; an IPv6 address stands in brackets. -/
def withPort (ip : IpAddress) (port : UInt16) : String :=
  match ip.family with
  | .v4 => ip.text ++ ":" ++ Nat.repr port.toNat
  | .v6 => "[" ++ ip.text ++ "]:" ++ Nat.repr port.toNat

end EtcdRoster.IpAddress
