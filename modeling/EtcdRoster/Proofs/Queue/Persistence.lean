import EtcdRoster.Proofs.Backoff.Keyed
import EtcdRoster.Proofs.Queue.Crew

/-!
# No trigger and no failure is lost

However the steps of workers, triggers and timers are interleaved, a key that was added since it was
last handed out is still to be worked on, and so is one whose sync has failed, as long as there is a
delay after so many failures. What "since" means is said of the course of events alone: `Since`,
`AddedSince`, `FailedSince`, `failuresSince`.

* `mem_dirty_of_step`, `pending_of_step`, `failures_of_step`, `told_of_step` — what each event does
  to the dirty keys, to those that are dirty or have a timer, to the failures counted, and to what
  the workers have told.
* `since_concat` — the same equation for the past, so a past and its queue stay in step.
* `replay_loses_nothing` — after every course of events nothing is lost.
-/

namespace EtcdRoster.DelayedQueue

variable {ω : Type}

/-! ## The past -/

/-- Something of one kind has happened, and nothing of another kind since. -/
def Since {ε : Type} (p q : ε → Bool) (past : List ε) : Prop :=
  ∃ before e after, past = before ++ e :: after ∧ p e = true ∧ ∀ x ∈ after, q x = false

theorem not_since_nil {ε : Type} {p q : ε → Bool} : ¬ Since p q [] := by
  rintro ⟨before, e, after, h, -, -⟩
  simp at h

/-- With one more event, this event is the one looked for, or an earlier one still is. -/
theorem since_concat {ε : Type} {p q : ε → Bool} {past : List ε} {e : ε} :
    Since p q (past ++ [e]) ↔ p e = true ∨ q e = false ∧ Since p q past := by
  constructor
  · rintro ⟨before, x, after, heq, hx, hafter⟩
    obtain rfl | ⟨after, y, rfl⟩ := List.eq_nil_or_concat after
    · obtain ⟨-, hlast⟩ := List.append_inj' heq rfl
      obtain rfl := List.singleton_inj.mp hlast
      exact .inl hx
    · rw [List.concat_eq_append, ← List.cons_append, ← List.append_assoc] at heq
      obtain ⟨hpast, hlast⟩ := List.append_inj' heq rfl
      obtain rfl := List.singleton_inj.mp hlast
      rw [List.concat_eq_append] at hafter
      exact .inr ⟨hafter e (by simp),
        before, x, after, hpast, hx, fun y hy => hafter y (List.mem_append_left _ hy)⟩
  · rintro (he | ⟨he, before, x, after, rfl, hx, hafter⟩)
    · exact ⟨past, e, [], rfl, he, by simp⟩
    · refine ⟨before, x, after ++ [e], by simp, hx, fun y hy => ?_⟩
      rcases List.mem_append.mp hy with hy | hy
      · exact hafter y hy
      · obtain rfl := List.mem_singleton.mp hy
        exact he

namespace Event

/-- The event adds the key: somebody does, or its timer ends. -/
def adds (key : String) : Event ω → Bool
  | trigger other => key == other
  | ring timer => key == timer.what
  | _ => false

/-- The event hands the key out. -/
def takes (key : String) : Event ω → Bool
  | take _ other => key == other
  | _ => false

def succeeds (key : String) : Event ω → Bool
  | succeed _ other => key == other
  | _ => false

def fails (key : String) : Event ω → Bool
  | fail _ other _ _ => key == other
  | _ => false

end Event

/-- The key has been added, and not been handed out since. -/
def AddedSince (key : String) (past : List (Event ω)) : Prop :=
  Since (Event.adds key) (Event.takes key) past

/-- A sync of the key has failed, and the key has not been handed out since: no later sync of it has
begun, whether its worker has released it by now or not. -/
def FailedSince (key : String) (past : List (Event ω)) : Prop :=
  Since (Event.fails key) (Event.takes key) past

/-- How many syncs of the key have failed since one has succeeded. -/
def failuresSince (key : String) (past : List (Event ω)) : Nat :=
  (past.reverse.takeWhile fun e => !e.succeeds key).countP (Event.fails key)

theorem failuresSince_concat (key : String) (past : List (Event ω)) (e : Event ω) :
    failuresSince key (past ++ [e]) =
      if e.succeeds key then 0
      else failuresSince key past + if e.fails key then 1 else 0 :=
  KeyedBackoff.countP_since_concat (Event.fails key) (Event.succeeds key) past e

/-! ## What each event does -/

namespace Crew

variable [DecidableEq ω] {s t : Crew ω} {e : Event ω} {key : String}

theorem shuttingDown_of_step (h : s.step? e = some t) :
    t.queue.work.shuttingDown = s.queue.work.shuttingDown := by
  cases e with
  | trigger other =>
    obtain rfl := Option.some.inj h
    exact WorkQueue.shuttingDown_add ..
  | take worker other =>
    obtain ⟨-, work, taken, rfl⟩ := step?_take_eq_some_iff.mp h
    obtain ⟨-, rest, -, rfl⟩ := WorkQueue.take?_eq_some_iff.mp taken
    rfl
  | succeed worker other =>
    obtain ⟨-, rfl⟩ := step?_succeed_eq_some_iff.mp h
    rfl
  | fail worker other now draw =>
    obtain ⟨-, rfl⟩ := step?_fail_eq_some_iff.mp h
    exact congrArg WorkQueue.shuttingDown (work_addLater ..)
  | release worker other =>
    obtain ⟨-, rfl⟩ := step?_release_eq_some_iff.mp h
    exact WorkQueue.shuttingDown_done ..
  | ring timer =>
    obtain ⟨-, rfl⟩ := step?_ring_eq_some_iff.mp h
    exact WorkQueue.shuttingDown_add ..

/-- What is dirty after an event was added by it, or was dirty before and not handed out. -/
theorem mem_dirty_of_step (isOpen : s.queue.work.shuttingDown = false) (h : s.step? e = some t) :
    key ∈ t.queue.work.dirty ↔
      e.adds key = true ∨ e.takes key = false ∧ key ∈ s.queue.work.dirty := by
  cases e with
  | trigger other =>
    obtain rfl := Option.some.inj h
    simp only [Event.adds, Event.takes, beq_iff_eq, true_and]
    exact WorkQueue.mem_dirty_add_iff isOpen
  | take worker other =>
    obtain ⟨-, work, taken, rfl⟩ := step?_take_eq_some_iff.mp h
    obtain ⟨-, rest, -, rfl⟩ := WorkQueue.take?_eq_some_iff.mp taken
    simp [Event.adds, Event.takes, WorkQueue.mem_takeOut]
  | succeed worker other =>
    obtain ⟨-, rfl⟩ := step?_succeed_eq_some_iff.mp h
    simp [Event.adds, Event.takes, DelayedQueue.forget]
  | fail worker other now draw =>
    obtain ⟨-, rfl⟩ := step?_fail_eq_some_iff.mp h
    simp [Event.adds, Event.takes]
  | release worker other =>
    obtain ⟨-, rfl⟩ := step?_release_eq_some_iff.mp h
    simp [Event.adds, Event.takes, DelayedQueue.done, WorkQueue.dirty_done]
  | ring timer =>
    obtain ⟨-, rfl⟩ := step?_ring_eq_some_iff.mp h
    simp only [Event.adds, Event.takes, beq_iff_eq, true_and]
    exact WorkQueue.mem_dirty_add_iff isOpen

/-- The key is to be worked on, now or when a timer ends. -/
def Pending (s : Crew ω) (key : String) : Prop :=
  key ∈ s.queue.work.dirty ∨ ∃ timer ∈ s.queue.timers, timer.what = key

/-- A failure that gets a delay sets a timer; a timer that ends leaves its key dirty, and only a
hand-out makes it clean. -/
theorem pending_of_step (isOpen : s.queue.work.shuttingDown = false) (h : s.step? e = some t)
    (hs : (∃ worker now draw wait, e = .fail worker key now draw ∧
        (s.queue.backoff.fail key draw).1 = .ok wait) ∨
      e.takes key = false ∧ s.Pending key) : t.Pending key := by
  have hdirty : e.takes key = false → key ∈ s.queue.work.dirty → t.Pending key :=
    fun htakes hkey => .inl ((mem_dirty_of_step isOpen h).mpr (.inr ⟨htakes, hkey⟩))
  rcases hs with ⟨worker, now, draw, wait, rfl, hwait⟩ | ⟨htakes, hkey | ⟨timer, htimer, rfl⟩⟩
  · obtain ⟨-, rfl⟩ := step?_fail_eq_some_iff.mp h
    exact .inr ⟨_, (mem_timers_addLater ..).mpr (.inl ⟨wait, hwait, rfl⟩), rfl⟩
  · exact hdirty htakes hkey
  · cases e with
    | trigger other =>
      obtain rfl := Option.some.inj h
      exact .inr ⟨timer, htimer, rfl⟩
    | take worker other =>
      obtain ⟨-, work, -, rfl⟩ := step?_take_eq_some_iff.mp h
      exact .inr ⟨timer, htimer, rfl⟩
    | succeed worker other =>
      obtain ⟨-, rfl⟩ := step?_succeed_eq_some_iff.mp h
      exact .inr ⟨timer, htimer, rfl⟩
    | fail worker other now draw =>
      obtain ⟨-, rfl⟩ := step?_fail_eq_some_iff.mp h
      exact .inr ⟨timer, (mem_timers_addLater ..).mpr (.inr htimer), rfl⟩
    | release worker other =>
      obtain ⟨-, rfl⟩ := step?_release_eq_some_iff.mp h
      exact .inr ⟨timer, htimer, rfl⟩
    | ring ended =>
      by_cases hended : ended = timer
      · refine .inl ((mem_dirty_of_step isOpen h).mpr (.inl ?_))
        simp [Event.adds, hended]
      · obtain ⟨-, rfl⟩ := step?_ring_eq_some_iff.mp h
        exact .inr ⟨timer, (List.mem_erase_of_ne (Ne.symm hended)).mpr htimer, rfl⟩

/-- The failures counted are those since the last success, as far as they can be counted. -/
theorem failures_of_step (settled : s.queue.backoff.Settled) (h : s.step? e = some t) :
    (t.queue.backoff.Settled ∧ t.queue.backoff.maximum = s.queue.backoff.maximum) ∧
      ∀ key, t.queue.backoff.failures key =
        if e.succeeds key then 0
        else s.queue.backoff.failures key +
          if e.fails key ∧ s.queue.backoff.failures key + 1 < UInt32.size then 1 else 0 := by
  cases e with
  | trigger other =>
    obtain rfl := Option.some.inj h
    exact ⟨⟨settled, rfl⟩, by simp [DelayedQueue.add, Event.succeeds, Event.fails]⟩
  | take worker other =>
    obtain ⟨-, work, -, rfl⟩ := step?_take_eq_some_iff.mp h
    exact ⟨⟨settled, rfl⟩, by simp [Event.succeeds, Event.fails]⟩
  | succeed worker other =>
    obtain ⟨-, rfl⟩ := step?_succeed_eq_some_iff.mp h
    refine ⟨⟨settled.forget other, rfl⟩, fun key => ?_⟩
    simp only [DelayedQueue.forget, KeyedBackoff.failures_forget, Event.succeeds, Event.fails,
      beq_iff_eq]
    split <;> simp_all
  | fail worker other now draw =>
    obtain ⟨-, rfl⟩ := step?_fail_eq_some_iff.mp h
    simp only [backoff_addLater]
    refine ⟨⟨settled.fail other draw, rfl⟩, fun key => ?_⟩
    simp only [settled.failures_fail, Event.succeeds, Event.fails, beq_iff_eq, Bool.false_eq_true,
      if_false]
    split <;> simp_all
  | release worker other =>
    obtain ⟨-, rfl⟩ := step?_release_eq_some_iff.mp h
    exact ⟨⟨settled, rfl⟩, by simp [DelayedQueue.done, Event.succeeds, Event.fails]⟩
  | ring timer =>
    obtain ⟨-, rfl⟩ := step?_ring_eq_some_iff.mp h
    exact ⟨⟨settled, rfl⟩, by simp [ring, DelayedQueue.add, Event.succeeds, Event.fails]⟩

/-- Whoever has the key has told how its sync went. -/
def Told (s : Crew ω) (key : String) : Prop := ∀ worker, s.Has worker key → worker ∈ s.told

/-- After a failure no sync of its key goes on until the key is handed out again. -/
theorem told_of_step (staffed : s.Staffed) (single : s.Single) (h : s.step? e = some t)
    (hs : e.fails key = true ∨ e.takes key = false ∧ s.Told key) : t.Told key := by
  intro worker hheld
  cases e with
  | trigger other =>
    obtain rfl := Option.some.inj h
    obtain ⟨-, htold⟩ := hs.resolve_left nofun
    exact htold worker hheld
  | take taker other =>
    obtain ⟨-, work, -, rfl⟩ := step?_take_eq_some_iff.mp h
    obtain ⟨htakes, htold⟩ := hs.resolve_left nofun
    have hne : key ≠ other := by simpa [Event.takes] using htakes
    rcases List.mem_cons.mp hheld with heq | hheld
    · exact absurd (congrArg Prod.snd heq) hne
    · exact htold worker hheld
  | succeed teller other =>
    obtain ⟨-, rfl⟩ := step?_succeed_eq_some_iff.mp h
    obtain ⟨-, htold⟩ := hs.resolve_left nofun
    exact List.mem_cons_of_mem _ (htold worker hheld)
  | fail teller other now draw =>
    obtain ⟨hsyncing, rfl⟩ := step?_fail_eq_some_iff.mp h
    rcases hs with hfails | ⟨-, htold⟩
    · obtain rfl : key = other := by simpa [Event.fails] using hfails
      rw [staffed.eq_of_has hheld hsyncing.1]
      exact List.mem_cons_self
    · exact List.mem_cons_of_mem _ (htold worker hheld)
  | release releaser other =>
    obtain ⟨hhad, rfl⟩ := step?_release_eq_some_iff.mp h
    obtain ⟨-, htold⟩ := hs.resolve_left nofun
    -- the pair that is left is another one, so it is that of another worker
    obtain ⟨hpair, hheld⟩ := (List.Nodup.mem_erase_iff (List.Nodup.of_map _ single)).mp hheld
    refine (List.mem_erase_of_ne fun heq => hpair ?_).mpr (htold worker hheld)
    exact List.inj_on_of_nodup_map single hheld hhad heq
  | ring timer =>
    obtain ⟨-, rfl⟩ := step?_ring_eq_some_iff.mp h
    obtain ⟨-, htold⟩ := hs.resolve_left nofun
    exact htold worker hheld

/-- Nobody succeeds with a key whose sync has been told of. -/
theorem Told.not_succeeds (hs : s.Told key) (h : s.step? e = some t) : e.succeeds key = false := by
  cases e with
  | succeed worker other =>
    obtain ⟨⟨hheld, hnot⟩, -⟩ := step?_succeed_eq_some_iff.mp h
    refine Bool.eq_false_iff.mpr fun hkey => hnot (hs worker ?_)
    obtain rfl : key = other := by simpa [Event.succeeds] using hkey
    exact hheld
  | _ => rfl

/-! ## The whole course -/

/-- The queue is in step with its past. -/
structure Remembers (maximum : Duration) (past : List (Event ω)) (s : Crew ω) : Prop where
  staffed : s.Staffed
  single : s.Single
  isOpen : s.queue.work.shuttingDown = false
  settled : s.queue.backoff.Settled
  maximum_eq : s.queue.backoff.maximum = maximum
  dirty_iff : ∀ key, key ∈ s.queue.work.dirty ↔ AddedSince key past
  told : ∀ key, FailedSince key past → s.Told key
  retried : ∀ key, FailedSince key past → failuresSince key past < UInt32.size →
    (∃ i, Backoff.intervalAfter maximum (failuresSince key past) = .ok i) → s.Pending key
  failures_eq : ∀ key, s.queue.backoff.failures key =
    min (failuresSince key past) (UInt32.size - 1)

omit [DecidableEq ω] in
theorem remembers_start (maximum : Duration) : Remembers maximum [] (start maximum : Crew ω) where
  staffed := staffed_start maximum
  single := List.nodup_nil
  isOpen := rfl
  settled := KeyedBackoff.settled_start maximum
  maximum_eq := rfl
  dirty_iff key := by simp [start, ofMaximum, AddedSince, not_since_nil]
  told key h := absurd h not_since_nil
  retried key h := absurd h not_since_nil
  failures_eq key := rfl

variable {maximum : Duration} {past : List (Event ω)}

/-- The failures that are counted are those that the past tells of. -/
theorem Remembers.failures_eq_step (hs : Remembers maximum past s) (h : s.step? e = some t)
    (key : String) : t.queue.backoff.failures key =
      min (failuresSince key (past ++ [e])) (UInt32.size - 1) := by
  have hmany : 0 < UInt32.size := by decide
  rw [(failures_of_step hs.settled h).2, hs.failures_eq, failuresSince_concat]
  split
  · rfl
  · split <;> split <;> grind

omit [DecidableEq ω] in
/-- One more failure of a key gets a delay exactly if it can be counted and there is an interval
after it. -/
theorem Remembers.exists_delay_iff (hs : Remembers maximum past s) {draw : Draw} :
    (∃ wait, (s.queue.backoff.fail key draw).1 = .ok wait) ↔
      failuresSince key past + 1 < UInt32.size ∧
        ∃ i, Backoff.intervalAfter maximum (failuresSince key past + 1) = .ok i := by
  rw [hs.settled.exists_fail_iff, hs.failures_eq, hs.maximum_eq]
  by_cases hcount : failuresSince key past + 1 < UInt32.size
  · rw [min_eq_left (by omega)]
  · exact iff_of_false (fun h => absurd h.1 (by omega)) (fun h => hcount h.1)

/-- A failure that is followed by no hand-out is retried if there is an interval after it. -/
theorem Remembers.retried_step (hs : Remembers maximum past s) (h : s.step? e = some t)
    (hfailed : FailedSince key (past ++ [e]))
    (hcount : failuresSince key (past ++ [e]) < UInt32.size)
    (hinterval : ∃ i, Backoff.intervalAfter maximum (failuresSince key (past ++ [e])) = .ok i) :
    t.Pending key := by
  refine pending_of_step hs.isOpen h ?_
  rw [FailedSince, since_concat] at hfailed
  rw [failuresSince_concat] at hcount hinterval
  by_cases hfails : e.fails key = true
  · cases e with
    | fail worker other now draw =>
      obtain rfl : key = other := by simpa [Event.fails] using hfails
      simp only [Event.succeeds, hfails, Bool.false_eq_true, if_false, if_true] at hcount hinterval
      obtain ⟨wait, hwait⟩ := hs.exists_delay_iff.mpr ⟨hcount, hinterval⟩
      exact .inl ⟨worker, now, draw, wait, rfl, hwait⟩
    | _ => cases hfails
  · obtain ⟨htakes, hearlier⟩ := hfailed.resolve_left hfails
    rw [(hs.told key hearlier).not_succeeds h, if_neg hfails] at hcount hinterval
    exact .inr ⟨htakes, hs.retried key hearlier hcount hinterval⟩

theorem Remembers.step (hs : Remembers maximum past s) (h : s.step? e = some t) :
    Remembers maximum (past ++ [e]) t where
  staffed := staffed_of_step hs.staffed h
  single := single_of_step hs.single h
  isOpen := (shuttingDown_of_step h).trans hs.isOpen
  settled := (failures_of_step hs.settled h).1.1
  maximum_eq := (failures_of_step hs.settled h).1.2.trans hs.maximum_eq
  dirty_iff key := by
    rw [mem_dirty_of_step hs.isOpen h, hs.dirty_iff key, AddedSince, AddedSince, since_concat]
  told key hfailed := by
    rw [FailedSince, since_concat] at hfailed
    exact told_of_step hs.staffed hs.single h
      (hfailed.imp_right fun hearlier => ⟨hearlier.1, hs.told key hearlier.2⟩)
  retried _ := hs.retried_step h
  failures_eq := hs.failures_eq_step h

theorem remembers_of_replay (h : (start maximum).replay past = some s) :
    Remembers maximum past s :=
  replay_induction (remembers_start maximum) (fun _ _ _ _ hs hstep => hs.step hstep) h

/-- What is not lost of a past. -/
structure NothingLost (maximum : Duration) (past : List (Event ω)) (s : Crew ω) : Prop where
  /-- The dirty keys are those that were added since they were last handed out. -/
  dirty_iff : ∀ key, key ∈ s.queue.work.dirty ↔ AddedSince key past
  /-- A dirty key waits, or its worker puts it into the queue by being done with it. -/
  waits : ∀ key ∈ s.queue.work.dirty, key ∈ s.queue.work.queue ∨
    ∃ worker, (worker, key) ∈ s.held ∧ key ∈ (s.queue.done key).work.queue
  /-- A key whose last sync has failed is dirty, or a timer of it runs, as long as its failures can
  be counted and either the ceiling leaves room for doubling or there are fewer than 72 of them. -/
  retried : ∀ key, FailedSince key past → failuresSince key past < UInt32.size →
    maximum.secs < Backoff.limitSecs ∨ failuresSince key past < 72 →
    key ∈ s.queue.work.dirty ∨ ∃ timer ∈ s.queue.timers, timer.what = key
  /-- The failures counted are those since the last success. -/
  failures_eq : ∀ key, failuresSince key past < UInt32.size →
    s.queue.backoff.failures key = failuresSince key past

omit [DecidableEq ω] in
theorem Remembers.nothing_lost (hs : Remembers maximum past s) : NothingLost maximum past s := by
  refine ⟨hs.dirty_iff, fun key hdirty => ?waits, fun key hfailed hcount hroom => ?retried,
    fun key hcount => ?counted⟩
  case waits =>
    refine (hs.staffed.waiting_or_held hdirty).imp_right fun ⟨worker, hheld⟩ => ⟨worker, hheld, ?_⟩
    simp [DelayedQueue.done, WorkQueue.done, hdirty]
  case retried =>
    exact hs.retried key hfailed hcount (Backoff.exists_intervalAfter_iff.mpr hroom)
  case counted =>
    rw [hs.failures_eq]
    omega

/-- **Nothing is lost.** Any number of workers take keys, succeed, fail or break off, while keys are
added and timers end, in whatever order: until the queue is shut down, no trigger is lost, no
failure is lost that there is a delay for, and the failures of each key are counted. -/
theorem replay_loses_nothing (h : (start maximum).replay past = some s) :
    NothingLost maximum past s := by
  have hs : Remembers maximum past s := remembers_of_replay h
  exact hs.nothing_lost

/-- Two workers. The first sync fails, its timer ends before its worker is done, and a trigger comes
too; the next one breaks off, and the third fails again. -/
def stormy : List (Event Nat) :=
  [.trigger "roster", .take 0 "roster", .fail 0 "roster" 0 .middle, .ring ⟨5, "roster"⟩,
    .trigger "roster", .release 0 "roster", .take 1 "roster", .trigger "roster",
    .release 1 "roster", .take 0 "roster", .fail 0 "roster" 7 .middle, .release 0 "roster"]

theorem stormy_loses_nothing : ∃ s, (start (.ofSecs 1000)).replay stormy = some s ∧
    NothingLost (.ofSecs 1000) stormy s ∧ s.Pending "roster" ∧
      s.queue.backoff.failures "roster" = 2 := by
  have hcourse : ((start (.ofSecs 1000)).replay stormy).isSome = true := by decide +kernel
  obtain ⟨s, hs⟩ := Option.isSome_iff_exists.mp hcourse
  have hlost : NothingLost (.ofSecs 1000) stormy s := replay_loses_nothing hs
  have hfew : failuresSince "roster" stormy < UInt32.size := by decide
  refine ⟨s, hs, hlost, hlost.retried "roster" ?_ hfew (.inr (by decide)),
    hlost.failures_eq "roster" hfew⟩
  exact ⟨stormy.take 10, .fail 0 "roster" 7 .middle, [.release 0 "roster"], rfl, rfl, by decide⟩

end Crew

end EtcdRoster.DelayedQueue
