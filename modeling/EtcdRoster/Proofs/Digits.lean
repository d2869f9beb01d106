import EtcdRoster.Text.Digits

/-!
# Numbers survive being written down

The digits of a number stand for this number: `natBelow?_repr`.
-/

namespace EtcdRoster.Text

theorem digitValue?_of_isDigit {c : Char} (h : c.isDigit = true) :
    digitValue? 10 c = some (c.toNat - '0'.toNat) := by
  obtain ⟨hlow, hhigh⟩ : '0' ≤ c ∧ c ≤ '9' := by
    simpa [Char.isDigit, Char.le_def] using h
  have hbound : c.toNat - '0'.toNat < 10 := by
    have hle : c.toNat ≤ '9'.toNat := UInt32.le_iff_toNat_le.mp hhigh
    have hnine : '9'.toNat = 57 := rfl
    have hzero : '0'.toNat = 48 := rfl
    omega
  rw [digitValue?, if_pos ⟨hlow, hhigh⟩]
  exact Option.filter_some_pos (decide_eq_true hbound)

theorem natOfDigits?_of_isDigit {digits : List Char} (h : ∀ c ∈ digits, c.isDigit = true) :
    natOfDigits? 10 digits = some (Nat.ofDigitChars 10 digits 0) := by
  suffices hgo : ∀ n, digits.foldlM (fun n c => (digitValue? 10 c).map fun d => 10 * n + d) n
      = some (Nat.ofDigitChars 10 digits n) from hgo 0
  induction digits with
  | nil => exact fun n => rfl
  | cons c rest ih =>
    intro n
    obtain ⟨hc, hrest⟩ := List.forall_mem_cons.mp h
    rw [List.foldlM_cons, digitValue?_of_isDigit hc, Nat.ofDigitChars_cons]
    exact ih hrest _

/-- A number that is written down is read as the same number. -/
theorem natBelow?_repr {bound n : Nat} (h : n < bound) :
    natBelow? bound (Nat.repr n).toList = some n := by
  have hdigits : ∀ c ∈ Nat.toDigits 10 n, c.isDigit = true := fun c hc =>
    Nat.isDigit_of_mem_toDigits (by decide) (by decide) hc
  have hplain : ∀ text : List Char, (∀ c ∈ text, c.isDigit = true) → text ≠ [] →
      natBelow? bound text = (natOfDigits? 10 text).filter (· < bound) := by
    intro text htext hne
    unfold natBelow?
    split
    · cases htext '+' (List.mem_cons_self ..)
    · simp [hne]
  rw [Nat.repr_eq_ofList_toDigits, String.toList_ofList, hplain _ hdigits Nat.toDigits_ne_nil,
    natOfDigits?_of_isDigit hdigits, Nat.ofDigitChars_ten_toDigits]
  simp [Option.filter, h]

end EtcdRoster.Text
