/-!
# Numbers as text
-/

namespace EtcdRoster.Text

def digitValue? (base : Nat) (c : Char) : Option Nat :=
  let value :=
    if '0' ≤ c ∧ c ≤ '9' then some (c.toNat - '0'.toNat)
    else if 'a' ≤ c ∧ c ≤ 'f' then some (c.toNat - 'a'.toNat + 10)
    else if 'A' ≤ c ∧ c ≤ 'F' then some (c.toNat - 'A'.toNat + 10)
    else none
  value.filter (· < base)

/-- The number that a row of digits stands for. -/
def natOfDigits? (base : Nat) (digits : List Char) : Option Nat :=
  digits.foldlM (fun n c => (digitValue? base c).map fun d => base * n + d) 0

/-- A decimal number below a bound: at least one digit, and before it perhaps a plus sign. -/
def natBelow? (bound : Nat) (text : List Char) : Option Nat :=
  let digits := match text with
    | '+' :: rest => rest
    | _ => text
  if digits.isEmpty then none else (natOfDigits? 10 digits).filter (· < bound)

end EtcdRoster.Text
