import EtcdRoster.Text.Unprintable

/-!
# Quoted texts

A quoted text stands between double quotes. Quotes and backslashes are escaped, the common controls
have short names, and every other character without a glyph of its own is written as its code point
in braces.
-/

namespace EtcdRoster.Text

/-- The escape of a character by its code point, in hexadecimal. -/
def codeEscape (c : Char) : List Char :=
  ['\\', 'u', '\x7b'] ++ Nat.toDigits 16 c.toNat ++ ['\x7d']

def quoteChar (c : Char) : List Char :=
  if c = '\x00' then ['\\', '0']
  else if c = '\t' then ['\\', 't']
  else if c = '\r' then ['\\', 'r']
  else if c = '\n' then ['\\', 'n']
  else if c = '"' then ['\\', '"']
  else if c = '\\' then ['\\', '\\']
  else if isUnprintable c then codeEscape c
  else [c]

def quoted (s : String) : String :=
  String.ofList ('"' :: s.toList.flatMap quoteChar ++ ['"'])

end EtcdRoster.Text
