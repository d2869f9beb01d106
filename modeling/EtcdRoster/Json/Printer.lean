import EtcdRoster.Json.Basic
import EtcdRoster.Number.Shortest

/-!
# Writing JSON

Documents are written without blanks. In a text only the quote, the backslash and the characters
below the space are escaped.
-/

namespace EtcdRoster.Json

def hexDigit (n : Nat) : Char :=
  if n < 10 then Char.ofNat ('0'.toNat + n) else Char.ofNat ('a'.toNat + (n - 10))

/-- How one character is written inside a text. -/
def escape (c : Char) : List Char :=
  if c = '"' then ['\\', '"']
  else if c = '\\' then ['\\', '\\']
  else if c = '\x08' then ['\\', 'b']
  else if c = '\t' then ['\\', 't']
  else if c = '\n' then ['\\', 'n']
  else if c = '\x0c' then ['\\', 'f']
  else if c = '\r' then ['\\', 'r']
  else if c.toNat < 0x20 then
    ['\\', 'u', '0', '0', hexDigit (c.toNat / 16), hexDigit (c.toNat % 16)]
  else [c]

def quote (s : String) : String := "\"" ++ String.ofList (s.toList.flatMap escape) ++ "\""

def printReal (r : Decimal) : String :=
  (if r.negative then "-" else "") ++ Number.pointedText r.magnitude

mutual

/-- The compact text of a document. -/
def print : Json → String
  | .null => "null"
  | .bool b => if b then "true" else "false"
  | .int n => Int.repr n
  | .real r => printReal r
  | .str s => quote s
  | .arr items => "[" ++ String.intercalate "," (printItems items) ++ "]"
  | .obj members => "\x7b" ++ String.intercalate "," (printMembers members) ++ "\x7d"

def printItems : List Json → List String
  | [] => []
  | item :: rest => print item :: printItems rest

def printMembers : List (String × Json) → List String
  | [] => []
  | (key, value) :: rest => (quote key ++ ":" ++ print value) :: printMembers rest

end

end EtcdRoster.Json
