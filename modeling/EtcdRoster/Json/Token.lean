import EtcdRoster.Json.Basic

/-!
# Tokens of a JSON text

The lexer is a machine over characters: `Lexer.step` consumes one character, and a text is read by
folding it, so it takes one pass and always ends.
-/

namespace EtcdRoster.Json

inductive Token
  | openArr
  | closeArr
  | openObj
  | closeObj
  | comma
  | colon
  | null
  | bool (b : Bool)
  | int (n : Int)
  | real (r : Decimal)
  | str (s : String)
deriving DecidableEq, Inhabited

/-! ## Numbers -/

/-- The number that a row of decimal digits stands for. -/
def natOfDigits (digits : List Char) : Nat :=
  digits.foldl (fun n c => 10 * n + (c.toNat - '0'.toNat)) 0

/-- The exponent after `e` or `E`: an optional sign and at least one digit. -/
def exponentOf? (chars : List Char) : Option Int :=
  let (negative, digits) := match chars with
    | '-' :: rest => (true, rest)
    | '+' :: rest => (false, rest)
    | rest => (false, rest)
  if digits.isEmpty || !digits.all Char.isDigit then none
  else some (if negative then -(natOfDigits digits : Int) else natOfDigits digits)

/-- A whole number is an integer token if it fits 64 bits, and otherwise, like `-0`, a real. -/
def wholeToken (negative : Bool) (n : Nat) : Token :=
  if negative then
    if n = 0 || n > UInt64.size / 2 then .real ⟨true, n, 0⟩ else .int (-(n : Int))
  else if n ≥ UInt64.size then .real ⟨false, n, 0⟩ else .int n

/-- A real is refused when it exceeds the range of a double. -/
def realToken? (negative : Bool) (digits : Nat) (exponent : Int) : Option Token :=
  if digits = 0 then some (.real ⟨negative, 0, 0⟩)
  else if ((Nat.repr digits).length : Int) + exponent > 309 then none
  else some (.real ⟨negative, digits, exponent⟩)

/-- A number: sign, whole part without leading zeros, fraction, exponent. -/
def numberOf? (chars : List Char) : Option Token :=
  let (negative, rest) := match chars with
    | '-' :: rest => (true, rest)
    | rest => (false, rest)
  let whole := rest.takeWhile Char.isDigit
  let rest := rest.dropWhile Char.isDigit
  if whole.isEmpty || (whole.length > 1 && whole.head? == some '0') then none
  else match rest with
    | [] => some (wholeToken negative (natOfDigits whole))
    | '.' :: rest =>
      let fraction := rest.takeWhile Char.isDigit
      let digits := natOfDigits (whole ++ fraction)
      let scale := -(fraction.length : Int)
      if fraction.isEmpty then none
      else match rest.dropWhile Char.isDigit with
        | [] => realToken? negative digits scale
        | c :: rest =>
          if c = 'e' || c = 'E' then
            (exponentOf? rest).bind fun e => realToken? negative digits (scale + e)
          else none
    | c :: rest =>
      if c = 'e' || c = 'E' then
        (exponentOf? rest).bind fun e => realToken? negative (natOfDigits whole) e
      else none

/-- A bare word is a literal or a number. -/
def wordToken? (chars : List Char) : Option Token :=
  if chars = "null".toList then some .null
  else if chars = "true".toList then some (.bool true)
  else if chars = "false".toList then some (.bool false)
  else numberOf? chars

/-! ## The machine -/

/-- Where the lexer stands. Texts read so far are kept in reverse. -/
inductive Lexer.Place
  | between
  | word (chars : List Char)
  | text (chars : List Char)
  | escape (chars : List Char)
  | code (chars : List Char) (lead : Option Nat) (digits value : Nat)
  | afterLead (chars : List Char) (lead : Nat)
  | afterLeadEscape (chars : List Char) (lead : Nat)

structure Lexer where
  place : Lexer.Place := .between
  tokens : List Token := []

namespace Lexer

def isSpace (c : Char) : Bool := c = ' ' || c = '\t' || c = '\n' || c = '\r'

def punctuation? : Char → Option Token
  | '[' => some .openArr
  | ']' => some .closeArr
  | '{' => some .openObj
  | '}' => some .closeObj
  | ',' => some .comma
  | ':' => some .colon
  | _ => none

/-- Begins whatever this character begins between tokens. -/
def begin (tokens : List Token) (c : Char) : Lexer :=
  if isSpace c then ⟨.between, tokens⟩
  else if c = '"' then ⟨.text [], tokens⟩
  else match punctuation? c with
    | some token => ⟨.between, token :: tokens⟩
    | none => ⟨.word [c], tokens⟩

def simpleEscape? : Char → Option Char
  | '"' => some '"'
  | '\\' => some '\\'
  | '/' => some '/'
  | 'b' => some '\x08'
  | 'f' => some '\x0c'
  | 'n' => some '\n'
  | 'r' => some '\r'
  | 't' => some '\t'
  | _ => none

def hexDigit? (c : Char) : Option Nat :=
  if '0' ≤ c ∧ c ≤ '9' then some (c.toNat - '0'.toNat)
  else if 'a' ≤ c ∧ c ≤ 'f' then some (c.toNat - 'a'.toNat + 10)
  else if 'A' ≤ c ∧ c ≤ 'F' then some (c.toNat - 'A'.toNat + 10)
  else none

/-- Ends a four digit escape. A lead surrogate waits for its trail, and neither stands alone. -/
def endCode (tokens : List Token) (chars : List Char) (lead : Option Nat) (value : Nat) :
    Option Lexer :=
  let isLead := 0xD800 ≤ value && value < 0xDC00
  let isTrail := 0xDC00 ≤ value && value < 0xE000
  match lead with
  | some high =>
    if isTrail then
      let c := Char.ofNat (0x10000 + (high - 0xD800) * 0x400 + (value - 0xDC00))
      some ⟨.text (c :: chars), tokens⟩
    else none
  | none =>
    if isLead then some ⟨.afterLead chars value, tokens⟩
    else if isTrail then none
    else some ⟨.text (Char.ofNat value :: chars), tokens⟩

/-- Consumes one character; refuses one that no JSON text has here. -/
def step (lexer : Lexer) (c : Char) : Option Lexer :=
  let tokens := lexer.tokens
  match lexer.place with
  | .between => some (begin tokens c)
  | .word chars =>
    if isSpace c || c = '"' || (punctuation? c).isSome then
      (wordToken? chars.reverse).map fun token => begin (token :: tokens) c
    else some ⟨.word (c :: chars), tokens⟩
  | .text chars =>
    if c = '"' then some ⟨.between, .str (String.ofList chars.reverse) :: tokens⟩
    else if c = '\\' then some ⟨.escape chars, tokens⟩
    else if c.toNat < 0x20 then none
    else some ⟨.text (c :: chars), tokens⟩
  | .escape chars =>
    if c = 'u' then some ⟨.code chars none 0 0, tokens⟩
    else (simpleEscape? c).map fun escaped => ⟨.text (escaped :: chars), tokens⟩
  | .code chars lead digits value =>
    (hexDigit? c).bind fun digit =>
      if digits = 3 then endCode tokens chars lead (16 * value + digit)
      else some ⟨.code chars lead (digits + 1) (16 * value + digit), tokens⟩
  | .afterLead chars lead =>
    if c = '\\' then some ⟨.afterLeadEscape chars lead, tokens⟩ else none
  | .afterLeadEscape chars lead =>
    if c = 'u' then some ⟨.code chars (some lead) 0 0, tokens⟩ else none

/-- The tokens of a finished text; a text that breaks off inside a string is refused. -/
def finish (lexer : Lexer) : Option (List Token) :=
  match lexer.place with
  | .between => some lexer.tokens.reverse
  | .word chars => (wordToken? chars.reverse).map fun token => (token :: lexer.tokens).reverse
  | _ => none

end Lexer

/-- The tokens of a text. -/
def tokens? (chars : List Char) : Option (List Token) :=
  (chars.foldlM Lexer.step ({} : Lexer)).bind Lexer.finish

end EtcdRoster.Json
