import EtcdRoster.Metrics.Registry
import Mathlib.Algebra.GroupWithZero.Nat

/-!
# Counting in series

Counting one thing under a label adds one to the counter of this label and leaves the others alone
(`Series.count_increment`), so it adds one to the sum of all counters (`Series.total_increment`),
whether or not the label had a counter before.
-/

namespace EtcdRoster

/-- Putting an entry in adds its value to the sum, less what it replaces. -/
theorem Entries.sum_insert (key : String) (value : Nat) {entries : List (String × Nat)}
    (h : Sorted entries) :
    ((insert key value entries).map Prod.snd).sum + (get? key entries).getD 0 =
      (entries.map Prod.snd).sum + value := by
  induction entries with
  | nil => simp [insert]
  | cons entry rest ih =>
    obtain ⟨hall, hrest⟩ := List.pairwise_cons.mp h
    unfold insert
    by_cases hlt : key < entry.1
    · have hnone : get? key (entry :: rest) = none := by
        refine get?_eq_none_of_lt fun e he => ?_
        rcases List.mem_cons.mp he with rfl | he
        · exact hlt
        · exact String.lt_trans hlt (hall e he)
      rw [if_pos hlt, hnone]
      simp only [List.map_cons, List.sum_cons, Option.getD_none]
      omega
    · rw [if_neg hlt, get?_cons]
      by_cases heq : key = entry.1
      · rw [if_pos heq, if_pos heq]
        simp only [List.map_cons, List.sum_cons, Option.getD_some]
        omega
      · rw [if_neg heq, if_neg heq]
        simp only [List.map_cons, List.sum_cons]
        have := ih hrest
        omega

namespace Metrics.Series

/-- The sum of all counters. -/
def total (s : Series) : Nat := (s.toList.map Prod.snd).sum

theorem count_increment (s : Series) (label other : String) :
    (s.increment label).count other = s.count other + if other = label then 1 else 0 := by
  rw [increment, count, count, Dict.get?_alter]
  by_cases h : other = label
  · rw [if_pos h, if_pos h, h, Option.getD_some]
  · rw [if_neg h, if_neg h, Nat.add_zero]

theorem total_increment (s : Series) (label : String) :
    (s.increment label).total = s.total + 1 := by
  have hsum := Entries.sum_insert label (s.count label + 1) s.sorted
  have hcount : (Entries.get? label s.entries).getD 0 = s.count label := rfl
  have htotal : (s.increment label).total
      = ((Entries.insert label (s.count label + 1) s.entries).map Prod.snd).sum := rfl
  have hbefore : s.total = (s.entries.map Prod.snd).sum := rfl
  omega

end Metrics.Series

end EtcdRoster
