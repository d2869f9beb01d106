import EtcdRoster.Number.Binary64

/-!
# Shortest decimals

A double is written with the fewest digits that still round to it, and of these with the ones that
come nearest; the greater of two that are equally near. `shortestText` shows whole numbers plainly
and has no exponent, `pointedText` marks every number as a double.
-/

namespace EtcdRoster.Number

/-- Ten to a whole power. -/
def tenPow (e : Int) : Rat :=
  if e < 0 then mkRat 1 (Nat.pow 10 e.natAbs) else mkRat (Nat.pow 10 e.natAbs) 1

/-- The exponent of the greatest power of ten that is at most `x`, for positive `x`. -/
def log10 (x : Rat) : Int :=
  if 1 ≤ x then (Nat.repr x.floor.natAbs).length - 1
  else
    let inverse := x.inv
    let guess : Int := (Nat.repr inverse.floor.natAbs).length
    if inverse = tenPow (guess - 1) then -(guess - 1) else -guess

/-- The multiples of a power of ten next to `x`, the nearer one first, and the greater one of two
that are equally near. -/
def neighbours (x : Rat) (scale : Int) : List Nat :=
  let steps := x / tenPow scale
  let below := steps.floor.natAbs
  if steps - steps.floor < 1 / 2 then [below, below + 1] else [below + 1, below]

/-- The digits and the exponent of the shortest decimal that rounds to `x`, trying more and more
digits up to `limit`; 17 digits always suffice. -/
def shortestFrom (x : Rat) : (digits limit : Nat) → Nat × Int
  | digits, 0 => ((neighbours x (log10 x - digits + 1)).headD 0, log10 x - digits + 1)
  | digits, limit + 1 =>
    let scale := log10 x - digits + 1
    let readsBack := fun n : Nat => Binary64.round ((n : Rat) * tenPow scale) == x
    match (neighbours x scale).find? readsBack with
    | some n => (n, scale)
    | none => shortestFrom x (digits + 1) limit

/-- The text of `digits · 10 ^ exponent` without an exponent. -/
def positional (digits : Nat) (exponent : Int) : String :=
  let text := (Nat.repr digits).toList
  if 0 ≤ exponent then String.ofList (text ++ List.replicate exponent.natAbs '0')
  else
    let places := exponent.natAbs
    let padded := List.replicate (places + 1 - text.length) '0' ++ text
    let whole := padded.take (padded.length - places)
    let fraction := (padded.drop (padded.length - places)).reverse.dropWhile (· == '0')
    if fraction.isEmpty then String.ofList whole
    else String.ofList (whole ++ '.' :: fraction.reverse)

/-- The text of a double that is not negative. -/
def shortestText (x : Rat) : String :=
  if x = 0 then "0"
  else
    let (digits, exponent) := shortestFrom x 1 16
    positional digits exponent

/-- The text of `digits · 10 ^ exponent` with one digit in front of the point and an exponent. -/
def scientific (digits : Nat) (exponent : Int) : String :=
  let text := (Nat.repr digits).toList
  let point := if text.length = 1 then [] else ['.']
  String.ofList (text.take 1 ++ point ++ text.drop 1)
    ++ "e" ++ Int.repr (exponent + (text.length - 1 : Nat))

/-- The text of a double that is not negative, which shows that it is no whole number by a point or
an exponent. Numbers from `10 ^ 16` on and below `10 ^ -5` have an exponent. -/
def pointedText (x : Rat) : String :=
  if x = 0 then "0.0"
  else
    let (digits, exponent) := shortestFrom x 1 16
    let point := exponent + (Nat.repr digits).length
    if 0 ≤ exponent ∧ point ≤ 16 then positional digits exponent ++ ".0"
    else if -5 < point ∧ point ≤ 16 then positional digits exponent
    else scientific digits exponent

end EtcdRoster.Number
