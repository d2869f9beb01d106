import EtcdRoster.Data.Sorting

/-!
# Texts beyond ASCII in ASCII

A text in any script is written in ASCII as its ASCII characters, a hyphen if there are any, and a
row of numbers that tell where the other characters are inserted: in the order of their code points,
and each by the distance from the insertion before it. A number is written in base 36 with a digit
that ends it, and the limit of that digit follows the size of the numbers before (`Pace`).
-/

namespace EtcdRoster.Text.Insertions

/-! ## Digits -/

/-- The letters stand for 0 to 25 and the decimal digits for 26 to 35. -/
def digitChar (digit : Nat) : Char :=
  if digit < 26 then Char.ofNat ('a'.toNat + digit) else Char.ofNat ('0'.toNat + (digit - 26))

def digit? (c : Char) : Option Nat :=
  if 'a' ≤ c ∧ c ≤ 'z' then some (c.toNat - 'a'.toNat)
  else if '0' ≤ c ∧ c ≤ '9' then some (c.toNat - '0'.toNat + 26)
  else none

/-- The least digit at a place that does not end a number. -/
def limit (bias place : Nat) : Nat := min 26 (max 1 (place - bias))

theorem limit_bounds (bias place : Nat) : 1 ≤ limit bias place ∧ limit bias place ≤ 26 := by
  unfold limit
  omega

/-! ## The pace of the numbers -/

/-- How often a number is divided until it is small, times 36, and what is left of it. -/
def shrink (number places : Nat) : Nat × Nat :=
  if 455 < number then shrink (number / 35) (places + 36) else (places, number)
termination_by number
decreasing_by omega

/-- The bias after a number that makes a text of this length, which may be the first number. -/
def nextBias (number length : Nat) (isFirst : Bool) : Nat :=
  let halved := if isFirst then number / 700 else number / 2
  let (places, rest) := shrink (halved + halved / length) 0
  places + 36 * rest / (rest + 38)

/-- What is known after some insertions: the bias, and the length of the text so far. -/
structure Pace where
  bias : Nat := 72
  length : Nat
  isFirst : Bool := true

/-- After one more insertion. -/
def Pace.next (p : Pace) (number : Nat) : Pace :=
  ⟨nextBias number (p.length + 1) p.isFirst, p.length + 1, false⟩

/-! ## Writing -/

/-- The digits of a number, from a place on. -/
def digits (bias place number : Nat) : List Char :=
  let least := limit bias place
  if number < least then [digitChar number]
  else digitChar (least + (number - least) % (36 - least))
    :: digits bias (place + 36) ((number - least) / (36 - least))
termination_by number
decreasing_by
  have h := limit_bounds bias place
  calc (number - limit bias place) / (36 - limit bias place)
      ≤ number - limit bias place := Nat.div_le_self _ _
    _ < number := by omega

/-- The code written so far, the distance since the last insertion, and the pace. -/
structure Writer where
  code : List Char := []
  distance : Nat := 0
  pace : Pace

/-- Goes past a character of the text while the insertions of one code point are written. -/
def Writer.pass (point : Nat) (w : Writer) (c : Char) : Writer :=
  if c.toNat < point then { w with distance := w.distance + 1 }
  else if c.toNat = point then
    { code := w.code ++ digits w.pace.bias 36 w.distance
      distance := 0
      pace := w.pace.next w.distance }
  else w

/-- Writes the insertions of these code points, which increase; `start` is the one after the last
that was written. -/
def Writer.write (text : List Char) (start : Nat) (w : Writer) : List Nat → Writer
  | [] => w
  | point :: rest =>
    let ahead := { w with distance := w.distance + (point - start) * (w.pace.length + 1) }
    let w := text.foldl (Writer.pass point) ahead
    Writer.write text (point + 1) { w with distance := w.distance + 1 } rest

def isAscii (c : Char) : Bool := c.toNat < 128

def encode (text : List Char) : List Char :=
  let plain := text.filter isAscii
  let points := (text.filter fun c => !isAscii c).map Char.toNat
  let w : Writer := { pace := { length := plain.length } }
  plain ++ (if plain = [] then [] else ['-'])
    ++ (w.write text 128 (Sorting.sort (· ≤ ·) points.eraseDups)).code

/-! ## Reading -/

/-- The text read so far, the code point and the position of the last insertion, the number at hand
with the weight and the place of its next digit, and the pace. -/
structure Reader where
  text : List Char
  point : Nat := 128
  position : Nat := 0
  number : Nat := 0
  weight : Nat := 1
  place : Nat := 36
  pace : Pace

/-- Consumes one digit; the one that ends a number inserts a character. -/
def Reader.step (r : Reader) (c : Char) : Option Reader := do
  let digit ← digit? c
  let number := r.number + digit * r.weight
  let least := limit r.pace.bias r.place
  if least ≤ digit then
    return { r with number, weight := r.weight * (36 - least), place := r.place + 36 }
  else
    let length := r.pace.length + 1
    let point := r.point + (r.position + number) / length
    let position := (r.position + number) % length
    if ¬point.isValidChar then none
    else
      return {
        text := r.text.take position ++ Char.ofNat point :: r.text.drop position
        point
        position := position + 1
        pace := r.pace.next number }

/-- The text that a code stands for. -/
def decode? (code : List Char) : Option (List Char) := do
  let extra := (code.reverse.takeWhile (· ≠ '-')).reverse
  let plain := code.take (code.length - extra.length - 1)
  if !plain.all isAscii || (plain = [] && code.contains '-') then none
  else
    let r ← extra.foldlM Reader.step { text := plain, pace := { length := plain.length } }
    if r.weight = 1 && r.place = 36 then some r.text else none

end EtcdRoster.Text.Insertions
