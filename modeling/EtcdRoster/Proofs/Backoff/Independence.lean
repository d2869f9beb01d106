import EtcdRoster.Proofs.Backoff.Entries

/-!
# Keys do not slow each other down

Two histories are compared: one of all keys together, and the part of it that is about some of them.
What is known of these keys is the same after both, and so are their delays.

* `Restricted`, `Restricted.enter` — to know of some keys what another one knows, and how this is
  kept by every entry.
* `enterAll_filter` — the part of a history that is about some keys gives their delays.
* `enterAll_independent` — **for a single key**, and for all but one: a key that is forgotten might
  as well never have been seen.
-/

namespace EtcdRoster.KeyedBackoff

variable {b part after : KeyedBackoff} {entries : List Entry} {e : Entry} {p : String → Bool}
  {waits new : List (String × Duration)} {maximum : Duration}

/-- The one knows of some keys what the other does, and of other keys nothing. -/
structure Restricted (p : String → Bool) (b part : KeyedBackoff) : Prop where
  maximum_eq : part.maximum = b.maximum
  known : ∀ key, part.items.get? key = if p key then b.items.get? key else none

theorem Restricted.item_eq (h : Restricted p b part) {key : String} (hp : p key = true) :
    part.item key = b.item key := by
  rw [item, item, h.known, if_pos hp, h.maximum_eq]

/-- What is known of one key may change on both sides, if afterwards it is the same again. -/
theorem Restricted.update (h : Restricted p b part) {key : String} {items items' : Dict Backoff}
    (hothers : ∀ other ≠ key, items.get? other = b.items.get? other)
    (hothers' : ∀ other ≠ key, items'.get? other = part.items.get? other)
    (hkey : items'.get? key = if p key then items.get? key else none) :
    Restricted p { b with items } { part with items := items' } := by
  refine ⟨h.maximum_eq, fun other => ?_⟩
  by_cases ho : other = key
  · rw [ho]
    exact hkey
  · exact (hothers' other ho).trans ((h.known other).trans (by rw [hothers other ho]))

/-- The delay of a failure depends on what is known of its key. -/
theorem fail_congr {a b : KeyedBackoff} {key : String} (hitem : a.item key = b.item key)
    (hmaximum : a.maximum = b.maximum) (draw : Draw) :
    (a.fail key draw).1 = (b.fail key draw).1 := by
  simp only [fail, hitem, hmaximum]

/-- A failure of a key that counts is entered into both alike, and any other one leaves the
restricted one as it is. -/
theorem Restricted.fail (h : Restricted p b part) (key : String) (draw : Draw) :
    if p key then
      (part.fail key draw).1 = (b.fail key draw).1 ∧
        Restricted p (b.fail key draw).2 (part.fail key draw).2
    else Restricted p (b.fail key draw).2 part := by
  have hothers : ∀ (items : Dict Backoff) rest, ∀ other ≠ key,
      (items.insert key rest).get? other = items.get? other := fun items rest other ho =>
    (Dict.get?_insert ..).trans (if_neg ho)
  by_cases hp : p key = true
  · rw [if_pos hp]
    have hitem := h.item_eq hp
    refine ⟨fail_congr hitem h.maximum_eq draw, ?_⟩
    refine h.update (hothers b.items _) (hothers part.items _) ?_
    rw [if_pos hp, Dict.get?_insert, Dict.get?_insert, if_pos rfl, if_pos rfl, hitem]
  · rw [if_neg hp]
    refine h.update (hothers b.items _) (fun _ _ => rfl) ?_
    rw [if_neg hp, h.known, if_neg hp]

theorem Restricted.forget (h : Restricted p b part) (key : String) :
    if p key then Restricted p (b.forget key) (part.forget key)
    else Restricted p (b.forget key) part := by
  have hothers : ∀ items : Dict Backoff, ∀ other ≠ key,
      (items.erase key).get? other = items.get? other := fun items other ho =>
    (Dict.get?_erase ..).trans (if_neg ho)
  by_cases hp : p key = true
  · rw [if_pos hp]
    refine h.update (hothers b.items) (hothers part.items) ?_
    rw [if_pos hp, Dict.get?_erase, Dict.get?_erase, if_pos rfl, if_pos rfl]
  · rw [if_neg hp]
    refine h.update (hothers b.items) (fun _ _ => rfl) ?_
    rw [if_neg hp, h.known, if_neg hp]

/-- An entry about a key that counts is entered into both alike, and any other one leaves the
restricted one as it is. -/
theorem Restricted.enter (h : Restricted p b part) (he : b.enter e = .ok (new, after)) :
    if p e.key then ∃ next, part.enter e = .ok (new, next) ∧ Restricted p after next
    else Restricted p after part := by
  cases e with
  | failed key draw =>
    obtain ⟨wait, hfail, rfl⟩ := enter_failed_eq_ok_iff.mp he
    have hboth := h.fail key draw
    rw [hfail] at hboth
    change if p key then _ else _
    by_cases hp : p key = true
    · rw [if_pos hp] at hboth ⊢
      have hpart : part.fail key draw = (.ok wait, (part.fail key draw).2) := Prod.ext hboth.1 rfl
      exact ⟨_, enter_failed_eq_ok_iff.mpr ⟨wait, hpart, rfl⟩, hboth.2⟩
    · rw [if_neg hp] at hboth ⊢
      exact hboth
  | forgotten key =>
    obtain ⟨rfl, rfl⟩ := enter_forgotten_eq_ok_iff.mp he
    have hboth := h.forget key
    change if p key then _ else _
    by_cases hp : p key = true
    · rw [if_pos hp] at hboth ⊢
      exact ⟨_, enter_forgotten_eq_ok_iff.mpr ⟨rfl, rfl⟩, hboth⟩
    · rw [if_neg hp] at hboth ⊢
      exact hboth

/-- The delays that an entry gives are those of its key. -/
theorem key_of_enter (he : b.enter e = .ok (new, after)) : ∀ w ∈ new, w.1 = e.key := by
  cases e with
  | failed key draw =>
    obtain ⟨wait, -, rfl⟩ := enter_failed_eq_ok_iff.mp he
    exact List.forall_mem_singleton.mpr rfl
  | forgotten key =>
    obtain ⟨-, rfl⟩ := enter_forgotten_eq_ok_iff.mp he
    exact List.forall_mem_nil _

/-- The part of a history that is about some keys gives the delays of these keys. -/
theorem enterAll_filter (p : String → Bool)
    (h : enterAll { maximum } entries = .ok (waits, after)) :
    ∃ part, enterAll { maximum } (entries.filter (p ·.key)) = .ok (waits.filter (p ·.1), part) ∧
      Restricted p after part := by
  refine enterAll_induction (I := fun past waits b => ∃ part,
    enterAll { maximum } (past.filter (p ·.key)) = .ok (waits.filter (p ·.1), part) ∧
      Restricted p b part) ?start ?step h
  case start =>
    exact ⟨_, rfl, rfl, fun key => (ite_self none).symm⟩
  case step =>
    rintro past waits b e new after ⟨part, hpast, hpart⟩ he
    have hstep := hpart.enter he
    have hkey := key_of_enter he
    rw [List.filter_append, List.filter_append, List.filter_singleton]
    by_cases hp : p e.key = true
    · have hnew : new.filter (p ·.1) = new :=
        List.filter_eq_self.mpr fun w hw => (congrArg p (hkey w hw)).trans hp
      rw [if_pos hp] at hstep
      obtain ⟨next, hnext, hrestricted⟩ := hstep
      rw [hnew, hp]
      exact ⟨next, enterAll_concat_eq_ok_iff.mpr ⟨_, part, new, hpast, hnext, rfl⟩, hrestricted⟩
    · have hnew : new.filter (p ·.1) = [] :=
        List.filter_eq_nil_iff.mpr fun w hw hw' => hp ((congrArg p (hkey w hw)).symm.trans hw')
      rw [if_neg hp] at hstep
      rw [hnew, Bool.eq_false_iff.mpr hp, List.append_nil]
      exact ⟨part, by simpa using hpast, hstep⟩

/-- No delay is longer than the ceiling. -/
theorem le_maximum_of_enterAll (h : enterAll { maximum } entries = .ok (waits, after)) :
    ∀ w ∈ waits, w.2.nanos ≤ maximum.nanos := by
  refine (enterAll_induction (I := fun _ waits b => (b.Steady ∧ b.maximum = maximum) ∧
    ∀ w ∈ waits, w.2.nanos ≤ maximum.nanos) ?start ?step h).2
  case start => exact ⟨⟨steady_start maximum, rfl⟩, List.forall_mem_nil _⟩
  case step =>
    rintro past waits b e new after ⟨⟨hsteady, hmaximum⟩, hwaits⟩ he
    obtain ⟨hafter, hsame⟩ := hsteady.enter he
    refine ⟨⟨hafter, hsame.trans hmaximum⟩, List.forall_mem_append.mpr ⟨hwaits, ?_⟩⟩
    cases e with
    | failed key draw =>
      obtain ⟨wait, hfail, rfl⟩ := enter_failed_eq_ok_iff.mp he
      have hwait := hsteady.settled.wait_le_maximum (congrArg Prod.fst hfail)
      rw [hmaximum] at hwait
      exact List.forall_mem_singleton.mpr hwait
    | forgotten key =>
      obtain ⟨-, rfl⟩ := enter_forgotten_eq_ok_iff.mp he
      exact List.forall_mem_nil _

/-- The delay of a key depends on what is known of this key. -/
theorem delay_congr {a b : KeyedBackoff} {key : String} (hitem : a.item key = b.item key)
    (hmaximum : a.maximum = b.maximum) (draw : Draw) :
    (a.delay key draw).map (·.1) = (b.delay key draw).map (·.1) := by
  rw [map_fst_delay, map_fst_delay, fail_congr hitem hmaximum]

/-- What a history of all keys has to do with each of them. -/
structure Independent (maximum : Duration) (entries : List Entry) (waits : List (String × Duration))
    (after : KeyedBackoff) : Prop where
  ceiling : ∀ w ∈ waits, w.2.nanos ≤ maximum.nanos
  counted : ∀ key, after.failures key = failuresSince key entries
  /-- With the entries about one key alone, its delays are the same, what is known of it in the end
  is the same, and so is each delay that it can get next. -/
  own : ∀ key, ∃ alone,
    enterAll { maximum } (entries.filter (·.key == key))
      = .ok (waits.filter (·.1 == key), alone) ∧
    alone.items.get? key = after.items.get? key ∧
    ∀ draw, (alone.delay key draw).map (·.1) = (after.delay key draw).map (·.1)
  /-- To forget a key is to end up as if it had never been seen. -/
  forgotten : ∀ key, enterAll { maximum } (entries.filter (·.key != key))
    = .ok (waits.filter (·.1 != key), after.forget key)

/-- **Keys do not slow each other down.** -/
theorem enterAll_independent (h : enterAll { maximum } entries = .ok (waits, after)) :
    Independent maximum entries waits after := by
  refine ⟨le_maximum_of_enterAll h, (steady_enterAll h).2.2, ?own, ?forgotten⟩
  case own =>
    intro key
    obtain ⟨alone, halone, hrestricted⟩ := enterAll_filter (· == key) h
    have hkey : (key == key) = true := beq_self_eq_true key
    refine ⟨alone, halone, (hrestricted.known key).trans (if_pos hkey), fun draw => ?_⟩
    exact delay_congr (hrestricted.item_eq hkey) hrestricted.maximum_eq draw
  case forgotten =>
    intro key
    obtain ⟨others, hothers, hmaximum, hknown⟩ := enterAll_filter (· != key) h
    have hitems : others.items = (after.forget key).items := by
      refine Dict.ext_get? fun other => ?_
      rw [hknown, forget, Dict.get?_erase]
      by_cases ho : other = key <;> simp [ho]
    rw [hothers]
    cases others
    cases hmaximum
    cases hitems
    rfl

/-- Three keys under a ceiling of eight milliseconds, which one of them reaches. -/
theorem independent_of_three : ∃ entries waits after,
    entries = [.failed "a" .middle, .failed "b" .middle, .failed "a" .middle, .forgotten "b",
      .failed "c" .middle, .failed "a" .middle, .forgotten "c", .failed "b" .middle] ∧
    enterAll { maximum := .ofMillis 8 } entries = .ok (waits, after) ∧
    Independent (.ofMillis 8) entries waits after := by
  have hrun : (enterAll { maximum := .ofMillis 8 } [.failed "a" .middle, .failed "b" .middle,
      .failed "a" .middle, .forgotten "b", .failed "c" .middle, .failed "a" .middle,
      .forgotten "c", .failed "b" .middle]).toOption.any (fun _ => true) = true := by
    decide +kernel
  obtain ⟨⟨waits, after⟩, h, -⟩ := Except.exists_of_any_toOption hrun
  exact ⟨_, waits, after, rfl, h, enterAll_independent h⟩

end EtcdRoster.KeyedBackoff
