import EtcdRoster.Proofs.Backoff.Intervals

/-!
# The failures of every key

The backoff of a key changes when this key fails or is forgotten, and at no other time (`item_fail`,
`item_forget`). A failure is counted whether it gets a delay or not (`failures_fail`), and leaves
the backoff of its key settled (`Settled.fail`).

* `delay_eq_ok_iff` — to get a delay is to fail with one.
* `Settled.exists_fail_iff` — **which failures get a delay**: those that can be counted, if there is
  an interval after them.
-/

namespace EtcdRoster.KeyedBackoff

open Backoff (intervalAfter)

variable {b after : KeyedBackoff} {key : String} {draw : Draw} {wait : Duration}

/-- What is counted since a past was last cleared: one more event clears it, or may be counted. -/
theorem countP_since_concat {ε : Type} (counts clears : ε → Bool) (past : List ε) (e : ε) :
    ((past ++ [e]).reverse.takeWhile fun x => !clears x).countP counts =
      if clears e then 0
      else (past.reverse.takeWhile fun x => !clears x).countP counts +
        if counts e then 1 else 0 := by
  rw [List.reverse_append, List.reverse_singleton, List.singleton_append, List.takeWhile_cons]
  by_cases h : clears e = true
  · simp [h]
  · simp [h, List.countP_cons]

theorem failures_eq_retries (b : KeyedBackoff) (key : String) :
    b.failures key = (b.item key).retries := by
  unfold failures item
  cases b.items.get? key <;> rfl

/-- A forgotten key is one that has never failed. -/
theorem item_forget (b : KeyedBackoff) (key other : String) :
    (b.forget key).item other = if other = key then Backoff.queue b.maximum else b.item other := by
  unfold forget item
  rw [Dict.get?_erase]
  split <;> rfl

/-- A failure of a key takes a delay from its backoff, and leaves the other keys alone. -/
theorem item_fail (b : KeyedBackoff) (key : String) (draw : Draw) (other : String) :
    (b.fail key draw).2.item other =
      if other = key then ((b.item key).advance draw).2 else b.item other := by
  simp only [fail, item, Dict.get?_insert]
  split <;> rfl

theorem maximum_fail (b : KeyedBackoff) (key : String) (draw : Draw) :
    (b.fail key draw).2.maximum = b.maximum := rfl

theorem failures_forget (b : KeyedBackoff) (key other : String) :
    (b.forget key).failures other = if other = key then 0 else b.failures other := by
  rw [failures_eq_retries, failures_eq_retries, item_forget]
  split <;> rfl

/-- To get a delay is to fail with one. -/
theorem delay_eq_ok_iff :
    b.delay key draw = .ok (wait, after) ↔ b.fail key draw = (.ok wait, after) := by
  rw [delay]
  obtain ⟨told, next⟩ := b.fail key draw
  cases told <;> simp [Except.map]

theorem map_fst_delay (b : KeyedBackoff) (key : String) (draw : Draw) :
    (b.delay key draw).map (·.1) = (b.fail key draw).1 := by
  rw [delay]
  obtain ⟨told, next⟩ := b.fail key draw
  cases told <;> rfl

/-! ## Settled backoffs -/

/-- Every key has the backoff that its failures have made of a new one. -/
def Settled (b : KeyedBackoff) : Prop := ∀ key, (b.item key).Settled b.maximum

theorem settled_start (maximum : Duration) : Settled { maximum } := fun _ =>
  Backoff.settled_queue maximum

namespace Settled

theorem forget (h : b.Settled) (key : String) : (b.forget key).Settled := by
  intro other
  rw [item_forget]
  split
  · exact Backoff.settled_queue b.maximum
  · exact h other

theorem fail (h : b.Settled) (key : String) (draw : Draw) : (b.fail key draw).2.Settled := by
  intro other
  rw [item_fail, maximum_fail]
  split
  · exact (h key).advance draw
  · exact h other

/-- A failure is counted for its key and for no other one, as long as it can be counted. -/
theorem failures_fail (h : b.Settled) (key : String) (draw : Draw) (other : String) :
    (b.fail key draw).2.failures other =
      b.failures other + if other = key ∧ b.failures key + 1 < UInt32.size then 1 else 0 := by
  simp only [failures_eq_retries, item_fail]
  by_cases ho : other = key
  · subst ho
    rcases (h other).advance_cases draw with ⟨hfull, he⟩ | ⟨hcount, -, fault, he⟩ |
      ⟨hcount, delay, j, -, -, he⟩ <;> rw [if_pos rfl, he]
    · rw [if_neg fun hcount => absurd hcount.2 (not_lt.mpr hfull), Nat.add_zero]
    · rw [if_pos ⟨rfl, hcount⟩]
    · rw [if_pos ⟨rfl, hcount⟩]
  · rw [if_neg ho, if_neg fun hcount => ho hcount.1, Nat.add_zero]

/-- A failure gets a delay exactly if it can be counted and there is an interval after it. -/
theorem exists_fail_iff (h : b.Settled) :
    (∃ wait, (b.fail key draw).1 = .ok wait) ↔
      b.failures key + 1 < UInt32.size ∧
        ∃ i, intervalAfter b.maximum (b.failures key + 1) = .ok i := by
  rw [failures_eq_retries, KeyedBackoff.fail]
  rcases (h key).advance_cases draw with ⟨hfull, he⟩ | ⟨-, hnone, fault, he⟩ |
    ⟨hcount, delay, j, -, hj, he⟩ <;> rw [he]
  · exact iff_of_false (by simp [Except.map]) fun hcount => absurd hcount.1 (not_lt.mpr hfull)
  · exact iff_of_false (by simp [Except.map]) fun hinterval => hnone hinterval.2
  · exact iff_of_true ⟨delay, rfl⟩ ⟨hcount, j, hj⟩

/-- No delay is longer than the ceiling. -/
theorem wait_le_maximum (h : b.Settled) (hfail : (b.fail key draw).1 = .ok wait) :
    wait.nanos ≤ b.maximum.nanos := by
  rw [KeyedBackoff.fail] at hfail
  rcases (h key).advance_cases draw with
      ⟨-, he⟩ | ⟨-, -, fault, he⟩ | ⟨-, delay, j, hcut, -, he⟩ <;>
    rw [he] at hfail <;> cases hfail
  exact hcut

end Settled

end EtcdRoster.KeyedBackoff
