import EtcdRoster.Number.Binary64

/-!
# Decimals

A decimal is a number as it is written with a fraction or an exponent. It stands for the double next
to it.
-/

namespace EtcdRoster

/-- The number `± digits · 10 ^ exponent`. -/
structure Decimal where
  negative : Bool
  digits : Nat
  exponent : Int
deriving DecidableEq, Inhabited, Repr

namespace Decimal

/-- Whether the number is so near to zero that it rounds to it: it is below `10 ^ -400`. -/
def isTiny (d : Decimal) : Bool :=
  d.digits = 0 || ((Nat.repr d.digits).length : Int) + d.exponent < -400

/-- The double next to the number without its sign. -/
def magnitude (d : Decimal) : Rat :=
  if d.isTiny then 0
  else if d.exponent < 0 then Binary64.round (mkRat d.digits (Nat.pow 10 d.exponent.natAbs))
  else Binary64.round ((d.digits * Nat.pow 10 d.exponent.natAbs : Nat) : Rat)

/-- The double next to the number. -/
def toDouble (d : Decimal) : Rat := if d.negative then -d.magnitude else d.magnitude

end Decimal

end EtcdRoster
