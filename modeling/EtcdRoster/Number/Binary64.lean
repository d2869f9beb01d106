/-!
# Numbers of double precision

A double is held as the rational number that it stands for. Arithmetic on doubles is exact
arithmetic followed by one rounding to the nearest double, a tie going to the even one; `round` is
that rounding. Magnitudes are not limited here: `isFinite` tells which results a double can hold.
-/

namespace EtcdRoster.Binary64

/-- The whole number next to a rational; half way between two it is the even one. -/
def nearestInt (x : Rat) : Int :=
  let floor := x.floor
  let rest := x - floor
  if rest < 1 / 2 then floor
  else if 1 / 2 < rest then floor + 1
  else if floor % 2 = 0 then floor
  else floor + 1

theorem nearestInt_le (x : Rat) : nearestInt x ≤ x.floor + 1 := by
  unfold nearestInt
  dsimp only
  repeat' split
  all_goals omega

/-- Two to a whole power. -/
def twoPow (e : Int) : Rat := if e < 0 then mkRat 1 (Nat.pow 2 e.natAbs) else mkRat (Nat.pow 2 e.natAbs) 1

/-- The exponent of the greatest power of two that is at most `n / d`, for positive `n` and `d`. -/
def log2 (n d : Nat) : Int :=
  let guess : Int := (Nat.log2 n : Int) - (Nat.log2 d : Int)
  let reached := if guess < 0 then d ≤ n * Nat.pow 2 guess.natAbs else d * Nat.pow 2 guess.natAbs ≤ n
  if reached then guess else guess - 1

/-- The exponent of the last bit of a double of this size: 53 bits, but not below `2 ^ -1074`. -/
def lastBit (x : Rat) : Int := max (log2 x.num.natAbs x.den - 52) (-1074)

/-- The double next to a rational. -/
def round (x : Rat) : Rat :=
  if x = 0 then 0
  else
    let unit := twoPow (lastBit x)
    (nearestInt (x / unit) : Rat) * unit

/-- Whether a rounded number is below the limit `2 ^ 1024` of doubles. -/
def isFinite (x : Rat) : Bool := decide (-twoPow 1024 < x) && decide (x < twoPow 1024)

def ofNat (n : Nat) : Rat := round n

def add (a b : Rat) : Rat := round (a + b)

def sub (a b : Rat) : Rat := round (a - b)

def mul (a b : Rat) : Rat := round (a * b)

def div (a b : Rat) : Rat := round (a / b)

end EtcdRoster.Binary64
