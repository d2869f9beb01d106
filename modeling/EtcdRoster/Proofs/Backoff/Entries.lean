import EtcdRoster.Proofs.Backoff.Intervals
import EtcdRoster.Proofs.Backoff.Keyed
import Mathlib.Data.List.Induction

/-!
# A history of failures

Failures of any keys are entered one after the other, and in between keys are forgotten. Each
failure gets a delay, drawn as its entry says.

* `KeyedBackoff.enterAll`, `enterAll_induction` — such a history, and an invariant of it that is
  proved entry by entry.
* `failuresSince` — the failures of a key since it was last forgotten, told by the history alone;
  `steady_enterAll` says that these are the ones that are counted.
* `Steady`, `Steady.enter` — the intervals behind the delays of a history.
* `exists_enterAll_iff` — **a history gets all its delays** exactly if there is an interval after
  every number of failures in a row that it contains.
-/

namespace EtcdRoster.KeyedBackoff

open Backoff (intervalAfter)

/-! ## Histories -/

/-- What happens to a key. -/
inductive Entry
  /-- It has failed, and its delay is drawn. -/
  | failed (key : String) (draw : Draw)
  | forgotten (key : String)

namespace Entry

def key : Entry → String
  | failed key _ => key
  | forgotten key => key

def fails (key : String) : Entry → Bool
  | failed other _ => other == key
  | forgotten _ => false

def forgets (key : String) : Entry → Bool
  | failed .. => false
  | forgotten other => other == key

end Entry

/-- Enters what has happened and gives the delay of a failure with its key. -/
def enter (b : KeyedBackoff) :
    Entry → Except Backoff.Fault (List (String × Duration) × KeyedBackoff)
  | .failed key draw => do
    let (wait, after) ← b.delay key draw
    return ([(key, wait)], after)
  | .forgotten key => .ok ([], b.forget key)

/-- Enters a history and gives the delays in its order. -/
def enterAll (b : KeyedBackoff) :
    List Entry → Except Backoff.Fault (List (String × Duration) × KeyedBackoff)
  | [] => .ok ([], b)
  | e :: rest => do
    let (waits, next) ← b.enter e
    let (later, after) ← next.enterAll rest
    return (waits ++ later, after)

/-- The failures of a key since it was last forgotten. -/
def failuresSince (key : String) (past : List Entry) : ℕ :=
  (past.reverse.takeWhile fun e => !e.forgets key).countP (Entry.fails key)

variable {b after : KeyedBackoff} {past entries : List Entry} {e : Entry} {key : String}
  {draw : Draw} {waits new : List (String × Duration)} {maximum : Duration}

theorem failuresSince_concat (key : String) (past : List Entry) (e : Entry) :
    failuresSince key (past ++ [e]) =
      if e.forgets key then 0 else failuresSince key past + if e.fails key then 1 else 0 :=
  countP_since_concat (Entry.fails key) (Entry.forgets key) past e

theorem failuresSince_le_length (key : String) (past : List Entry) :
    failuresSince key past ≤ past.length := by
  calc failuresSince key past
      ≤ (past.reverse.takeWhile fun e => !e.forgets key).length := List.countP_le_length
    _ ≤ past.reverse.length := (List.takeWhile_prefix _).length_le
    _ = past.length := List.length_reverse

theorem enter_failed_eq_ok_iff :
    b.enter (.failed key draw) = .ok (new, after) ↔
      ∃ wait, b.fail key draw = (.ok wait, after) ∧ new = [(key, wait)] := by
  simp only [enter, Except.bind_eq_ok_iff, pure, Except.pure, Except.ok.injEq, Prod.mk.injEq,
    ← delay_eq_ok_iff]
  constructor
  · rintro ⟨⟨wait, after⟩, hdelay, rfl, rfl⟩
    exact ⟨wait, hdelay, rfl⟩
  · rintro ⟨wait, hdelay, rfl⟩
    exact ⟨(wait, after), hdelay, rfl, rfl⟩

theorem enter_forgotten_eq_ok_iff :
    b.enter (.forgotten key) = .ok (new, after) ↔ after = b.forget key ∧ new = [] := by
  simp [enter, eq_comm, and_comm]

theorem enterAll_cons_eq_ok_iff :
    b.enterAll (e :: entries) = .ok (waits, after) ↔ ∃ new next later,
      b.enter e = .ok (new, next) ∧ next.enterAll entries = .ok (later, after) ∧
        waits = new ++ later := by
  simp only [enterAll, Except.bind_eq_ok_iff, pure, Except.pure, Except.ok.injEq, Prod.mk.injEq]
  constructor
  · rintro ⟨⟨new, next⟩, he, ⟨later, after⟩, hrest, rfl, rfl⟩
    exact ⟨new, next, later, he, hrest, rfl⟩
  · rintro ⟨new, next, later, he, hrest, rfl⟩
    exact ⟨(new, next), he, (later, after), hrest, rfl, rfl⟩

theorem enterAll_append_eq_ok_iff {later : List Entry} :
    b.enterAll (past ++ later) = .ok (waits, after) ↔ ∃ first next second,
      b.enterAll past = .ok (first, next) ∧ next.enterAll later = .ok (second, after) ∧
        waits = first ++ second := by
  induction past generalizing b waits with
  | nil => simp [enterAll]
  | cons e past ih =>
    simp only [List.cons_append, enterAll_cons_eq_ok_iff, ih]
    constructor
    · rintro ⟨new, next, _, he, ⟨first, last, second, hpast, hlater, rfl⟩, rfl⟩
      exact ⟨_, last, second, ⟨new, next, first, he, hpast, rfl⟩, hlater,
        (List.append_assoc ..).symm⟩
    · rintro ⟨_, last, second, ⟨new, next, first, he, hpast, rfl⟩, hlater, rfl⟩
      exact ⟨new, next, _, he, ⟨first, last, second, hpast, hlater, rfl⟩, List.append_assoc ..⟩

theorem enterAll_concat_eq_ok_iff :
    b.enterAll (past ++ [e]) = .ok (waits, after) ↔ ∃ first next new,
      b.enterAll past = .ok (first, next) ∧ next.enter e = .ok (new, after) ∧
        waits = first ++ new := by
  rw [enterAll_append_eq_ok_iff]
  refine exists₂_congr fun first next => ?_
  constructor
  · rintro ⟨_, hpast, hlast, rfl⟩
    obtain ⟨new, _, _, he, ⟨⟩, rfl⟩ := enterAll_cons_eq_ok_iff.mp hlast
    exact ⟨new, hpast, he, by rw [List.append_nil]⟩
  · rintro ⟨new, hpast, he, rfl⟩
    exact ⟨new, hpast, enterAll_cons_eq_ok_iff.mpr ⟨new, after, [], he, rfl, by simp⟩, rfl⟩

/-- What holds at the start and is kept by every entry holds after every history. -/
theorem enterAll_induction {I : List Entry → List (String × Duration) → KeyedBackoff → Prop}
    (start : I [] [] b)
    (step : ∀ past waits b e new after, I past waits b → b.enter e = .ok (new, after) →
      I (past ++ [e]) (waits ++ new) after)
    (h : b.enterAll entries = .ok (waits, after)) : I entries waits after := by
  induction entries using List.reverseRecOn generalizing waits after with
  | nil =>
    cases h
    exact start
  | append_singleton past e ih =>
    obtain ⟨first, next, new, hpast, he, rfl⟩ := enterAll_concat_eq_ok_iff.mp h
    exact step _ _ _ _ _ _ (ih hpast) he

/-! ## Failures with their delays -/

/-- Every failure has got its delay, so there is an interval after as many of them. -/
structure Steady (b : KeyedBackoff) : Prop where
  settled : b.Settled
  interval : ∀ key, ∃ i, intervalAfter b.maximum (b.failures key) = .ok i

theorem steady_start (maximum : Duration) : Steady { maximum } :=
  ⟨settled_start maximum, fun _ => ⟨_, rfl⟩⟩

/-- An entry counts one more failure of its key or none at all, and leaves the other keys alone. -/
theorem Steady.failures_enter (h : b.Steady) (he : b.enter e = .ok (new, after)) (key : String) :
    after.failures key =
      if e.forgets key then 0 else b.failures key + if e.fails key then 1 else 0 := by
  cases e with
  | failed other draw =>
    obtain ⟨wait, hfail, -⟩ := enter_failed_eq_ok_iff.mp he
    obtain ⟨hcount, -⟩ := h.settled.exists_fail_iff.mp ⟨wait, congrArg Prod.fst hfail⟩
    rw [show after = (b.fail other draw).2 by rw [hfail], h.settled.failures_fail]
    simp only [Entry.forgets, Entry.fails, beq_iff_eq, Bool.false_eq_true, if_false,
      eq_comm (a := key), hcount, and_true]
  | forgotten other =>
    obtain ⟨rfl, -⟩ := enter_forgotten_eq_ok_iff.mp he
    rw [failures_forget]
    simp only [Entry.forgets, Entry.fails, beq_iff_eq, Bool.false_eq_true, if_false, add_zero,
      eq_comm (a := key)]

/-- Every entry keeps the backoffs steady and the ceiling what it is. -/
theorem Steady.enter (h : b.Steady) (he : b.enter e = .ok (new, after)) :
    after.Steady ∧ after.maximum = b.maximum := by
  have hcounted := h.failures_enter he
  cases e with
  | failed key draw =>
    obtain ⟨wait, hfail, -⟩ := enter_failed_eq_ok_iff.mp he
    obtain ⟨-, hinterval⟩ := h.settled.exists_fail_iff.mp ⟨wait, congrArg Prod.fst hfail⟩
    obtain rfl : after = (b.fail key draw).2 := by rw [hfail]
    refine ⟨⟨h.settled.fail key draw, fun other => ?_⟩, maximum_fail b key draw⟩
    rw [maximum_fail, hcounted]
    by_cases ho : key = other
    · simpa [Entry.forgets, Entry.fails, ho] using hinterval
    · simpa [Entry.forgets, Entry.fails, ho] using h.interval other
  | forgotten key =>
    obtain ⟨rfl, -⟩ := enter_forgotten_eq_ok_iff.mp he
    refine ⟨⟨h.settled.forget key, fun other => ?_⟩, rfl⟩
    rw [failures_forget]
    split
    · exact ⟨_, rfl⟩
    · exact h.interval other

/-! ## The whole history -/

/-- After a history the backoffs are steady, and the failures counted are those since each key was
last forgotten. -/
theorem steady_enterAll (h : enterAll { maximum } entries = .ok (waits, after)) :
    after.Steady ∧ after.maximum = maximum ∧
      ∀ key, after.failures key = failuresSince key entries := by
  refine enterAll_induction (I := fun past _ b => b.Steady ∧ b.maximum = maximum ∧
    ∀ key, b.failures key = failuresSince key past) ⟨steady_start maximum, rfl, fun _ => rfl⟩ ?_ h
  rintro past waits b e new after ⟨hsteady, hmaximum, hcounted⟩ he
  obtain ⟨hafter, hsame⟩ := hsteady.enter he
  refine ⟨hafter, hsame.trans hmaximum, fun key => ?_⟩
  rw [hsteady.failures_enter he, hcounted, failuresSince_concat]

/-- **A history gets all its delays** exactly if there is an interval after every number of failures
in a row that it contains. -/
theorem exists_enterAll_iff (few : entries.length < UInt32.size) :
    (∃ waits after, enterAll { maximum } entries = .ok (waits, after)) ↔
      ∀ earlier later, entries = earlier ++ later →
        ∀ key, ∃ i, intervalAfter maximum (failuresSince key earlier) = .ok i := by
  constructor
  · rintro ⟨waits, after, h⟩ earlier later rfl key
    obtain ⟨first, next, second, hfirst, -, -⟩ := enterAll_append_eq_ok_iff.mp h
    obtain ⟨hsteady, hmaximum, hcounted⟩ := steady_enterAll hfirst
    rw [← hmaximum, ← hcounted]
    exact hsteady.interval key
  · intro hintervals
    induction entries using List.reverseRecOn with
    | nil => exact ⟨[], _, rfl⟩
    | append_singleton past e ih =>
      rw [List.length_append, List.length_singleton] at few
      obtain ⟨waits, b, hpast⟩ := ih (by omega) fun earlier later heq key =>
        hintervals earlier (later ++ [e]) (by rw [heq, List.append_assoc]) key
      obtain ⟨hsteady, hmaximum, hcounted⟩ := steady_enterAll hpast
      have hentered : ∃ new after, b.enter e = .ok (new, after) := by
        cases e with
        | forgotten key => exact ⟨[], _, rfl⟩
        | failed key draw =>
          obtain ⟨i, hi⟩ := hintervals (past ++ [.failed key draw]) [] (List.append_nil _).symm key
          rw [failuresSince_concat] at hi
          have hfew := failuresSince_le_length key past
          obtain ⟨wait, hwait⟩ : ∃ wait, (b.fail key draw).1 = .ok wait := by
            refine hsteady.settled.exists_fail_iff.mpr ⟨by rw [hcounted]; omega, i, ?_⟩
            simpa [hmaximum, hcounted, Entry.forgets, Entry.fails] using hi
          exact ⟨_, _, enter_failed_eq_ok_iff.mpr ⟨wait, Prod.ext hwait rfl, rfl⟩⟩
      obtain ⟨new, after, he⟩ := hentered
      exact ⟨_, after, enterAll_concat_eq_ok_iff.mpr ⟨waits, b, new, hpast, he, rfl⟩⟩

end EtcdRoster.KeyedBackoff
