import EtcdRoster.Proofs.Queue.Exclusion
import EtcdRoster.Queue.Delayed
import Mathlib.Data.List.Induction

/-!
# A crew at the queue

Any number of workers process the keys of a queue. A worker takes a key, syncs, tells the queue how
the sync went, and releases the key. Telling and releasing are two steps, and a sync that breaks off
releases its key without telling anything. A failure for which no delay can be computed has been
told as well, but no timer is set. In between others add keys, and timers end at any moment and in
any order, whenever they were due.

* `Crew.step?`, `Crew.replay` — what can happen, and courses of it.
* `mem_timers_addLater` — what a failure makes of the timers.
* `fire_eq_foldl_ring`, `Crew.replay_fire` — a queue that fires its timers lets them end one after
  the other.
* `Crew.replay_induction` — an invariant of the past and the present, proved step by step.
* `Crew.Staffed` — the keys that are processed are those that workers have; `staffed_of_step`.
-/

namespace EtcdRoster

theorem Timer.mem_set {α : Type} {timer other : Timer α} {timers : List (Timer α)} :
    other ∈ Timer.set timer timers ↔ other = timer ∨ other ∈ timers := by
  induction timers with
  | nil => simp [Timer.set]
  | cons first rest ih =>
    unfold Timer.set
    split
    · exact List.mem_cons
    · rw [List.mem_cons, List.mem_cons, ih, or_left_comm]

namespace DelayedQueue

/-! ## Timers that end one after the other -/

/-- Lets a timer end: its key is added. -/
def ring (q : DelayedQueue) (timer : Timer String) : DelayedQueue :=
  { q.add timer.what with timers := q.timers.erase timer }

/-- Taking out one after the other the elements of a kind leaves those that are not. -/
theorem foldl_erase_filter {α : Type} [DecidableEq α] (p : α → Bool) (l : List α) :
    (l.filter p).foldl List.erase l = l.filter fun a => !p a := by
  rw [← List.diff_eq_foldl]
  induction l with
  | nil => rfl
  | cons a l ih =>
    by_cases ha : p a = true
    · simp [ha, ih]
    · have hmem : a ∉ l.filter p := fun hmem => ha (List.mem_filter.mp hmem).2
      rw [List.filter_cons_of_neg ha, List.filter_cons_of_pos (by simpa using ha),
        List.cons_diff, if_neg hmem, ih]

theorem foldl_ring (q : DelayedQueue) (ended : List (Timer String)) :
    ended.foldl ring q =
      { q with
        work := (ended.map (·.what)).foldl WorkQueue.add q.work
        timers := ended.foldl List.erase q.timers } := by
  induction ended generalizing q with
  | nil => rfl
  | cons timer rest ih =>
    rw [List.foldl_cons, ih]
    rfl

/-- The timers that have ended are fired one after the other. -/
theorem fire_eq_foldl_ring (q : DelayedQueue) (now : Nat) :
    q.fire now = (q.timers.filter fun t => t.due ≤ now).foldl ring q := by
  rw [foldl_ring, foldl_erase_filter]
  simp only [fire, Timer.split, decide_not]

/-! ## Failures -/

section AddLater

variable (q : DelayedQueue) (now : Nat) (key : String) (draw : Draw)

@[simp] theorem work_addLater : (q.addLater now key draw).2.work = q.work := by
  unfold addLater
  split <;> rfl

@[simp] theorem backoff_addLater :
    (q.addLater now key draw).2.backoff = (q.backoff.fail key draw).2 := by
  unfold addLater
  split <;> rename_i hfail <;> rw [hfail]

/-- A failure sets a timer exactly if it gets a delay. -/
theorem mem_timers_addLater {timer : Timer String} :
    timer ∈ (q.addLater now key draw).2.timers ↔
      (∃ delay, (q.backoff.fail key draw).1 = .ok delay ∧ timer = ⟨now + delay.ceilMillis, key⟩) ∨
        timer ∈ q.timers := by
  unfold addLater
  split <;> rename_i hfail <;> simp [hfail, Timer.mem_set]

end AddLater

/-! ## What can happen -/

variable {ω : Type}

/-- A queue, and how far its workers are. -/
structure Crew (ω : Type) where
  queue : DelayedQueue
  /-- The workers that have a key. -/
  held : List (ω × String) := []
  /-- The workers that have told the queue how the sync of their key went. -/
  told : List ω := []

/-- What can happen at a queue until it is shut down. -/
inductive Event (ω : Type)
  /-- Somebody adds a key. -/
  | trigger (key : String)
  /-- A worker gets this key. -/
  | take (worker : ω) (key : String)
  /-- The sync of a worker has succeeded: the failures of its key are forgotten. -/
  | succeed (worker : ω) (key : String)
  /-- The sync of a worker has failed: its key is to be added again later. -/
  | fail (worker : ω) (key : String) (now : Nat) (draw : Draw)
  /-- A worker is done with its key, also when its sync has broken off. -/
  | release (worker : ω) (key : String)
  /-- A timer ends. -/
  | ring (timer : Timer String)

namespace Crew

/-- Nobody has a key yet. -/
def start (maximum : Duration) : Crew ω := { queue := .ofMaximum maximum }

/-- The worker has taken this key and not released it. -/
def Has (s : Crew ω) (worker : ω) (key : String) : Prop := (worker, key) ∈ s.held

/-- The worker has this key and has not told how the sync went. -/
def Syncing (s : Crew ω) (worker : ω) (key : String) : Prop :=
  s.Has worker key ∧ worker ∉ s.told

/-- The queue takes for processed exactly the keys that workers have, each in one pair of hands. -/
def Staffed (s : Crew ω) : Prop :=
  ∃ l : WorkQueue.Ledger ω, l.Sound ∧ l.work = s.queue.work ∧ l.held = s.held

variable {s t : Crew ω} {worker : ω} {key : String}

theorem staffed_start (maximum : Duration) : (start maximum : Crew ω).Staffed :=
  ⟨{}, WorkQueue.Ledger.sound_empty, rfl, rfl⟩

theorem Staffed.add (hs : s.Staffed) (key : String) (timers : List (Timer String)) :
    Staffed { s with queue := { s.queue.add key with timers } } := by
  obtain ⟨l, hl, hwork, hheld⟩ := hs
  refine ⟨l.enter (l.work.add key), hl.add key, ?_, hheld⟩
  simp only [WorkQueue.Ledger.enter, hwork, DelayedQueue.add]

/-- A dirty key waits, or some worker has it. -/
theorem Staffed.waiting_or_held (hs : s.Staffed) (hdirty : key ∈ s.queue.work.dirty) :
    key ∈ s.queue.work.queue ∨ ∃ worker, (worker, key) ∈ s.held := by
  obtain ⟨l, hl, hwork, hheld⟩ := hs
  rw [← hwork] at hdirty ⊢
  by_cases hprocessing : key ∈ l.work.processing
  · obtain ⟨⟨worker, _⟩, hpair, rfl⟩ := List.mem_map.mp ((hl.mem_processing_iff key).mp hprocessing)
    exact .inr ⟨worker, hheld ▸ hpair⟩
  · exact .inl ((hl.consistent.mem_queue_iff key).mpr ⟨hdirty, hprocessing⟩)

/-- A key is in one pair of hands. -/
theorem Staffed.eq_of_has (hs : s.Staffed) {other : ω} (h : s.Has worker key)
    (hother : s.Has other key) : worker = other := by
  obtain ⟨l, hl, -, hheld⟩ := hs
  have hnodup := hl.held_nodup
  rw [hheld] at hnodup
  exact congrArg Prod.fst (List.inj_on_of_nodup_map hnodup h hother rfl)

/-! ## Courses of events -/

variable [DecidableEq ω]

instance (s : Crew ω) (worker : ω) (key : String) : Decidable (s.Has worker key) :=
  inferInstanceAs (Decidable ((worker, key) ∈ s.held))

instance (s : Crew ω) (worker : ω) (key : String) : Decidable (s.Syncing worker key) :=
  inferInstanceAs (Decidable (_ ∧ _))

/-- Lets an event happen, if it can: a worker has one key at a time, is handed out the next one, and
tells once how its sync went. -/
def step? (s : Crew ω) : Event ω → Option (Crew ω)
  | .trigger key => some { s with queue := s.queue.add key }
  | .take worker key =>
    if worker ∈ s.held.map Prod.fst then none
    else (s.queue.take?.filter (·.1 = key)).map fun taken =>
      { s with queue := taken.2, held := (worker, key) :: s.held }
  | .succeed worker key =>
    if s.Syncing worker key then
      some { s with queue := s.queue.forget key, told := worker :: s.told }
    else none
  | .fail worker key now draw =>
    if s.Syncing worker key then
      some { s with queue := (s.queue.addLater now key draw).2, told := worker :: s.told }
    else none
  | .release worker key =>
    if s.Has worker key then
      some { queue := s.queue.done key
             held := s.held.erase (worker, key)
             told := s.told.erase worker }
    else none
  | .ring timer =>
    if timer ∈ s.queue.timers then some { s with queue := s.queue.ring timer } else none

/-- Lets events happen one after the other. -/
def replay (s : Crew ω) (events : List (Event ω)) : Option (Crew ω) := events.foldlM step? s

variable {e : Event ω} {events : List (Event ω)}

theorem replay_append_eq_some_iff {later : List (Event ω)} :
    s.replay (events ++ later) = some t ↔
      ∃ m, s.replay events = some m ∧ m.replay later = some t := by
  simp [replay, List.foldlM_append, Option.bind_eq_some_iff]

theorem replay_cons_eq_some_iff :
    s.replay (e :: events) = some t ↔ ∃ m, s.step? e = some m ∧ m.replay events = some t := by
  simp [replay, Option.bind_eq_some_iff]

/-- What holds at the start and is kept by every step, given all that happened before, holds after
every course of events. -/
theorem replay_induction {I : List (Event ω) → Crew ω → Prop} {s₀ : Crew ω} (start : I [] s₀)
    (keeps : ∀ past s e t, I past s → s.step? e = some t → I (past ++ [e]) t)
    (h : s₀.replay events = some t) : I events t := by
  induction events using List.reverseRecOn generalizing t with
  | nil =>
    obtain rfl := Option.some.inj h
    exact start
  | append_singleton past e ih =>
    obtain ⟨s, hpast, hlast⟩ := replay_append_eq_some_iff.mp h
    obtain ⟨_, hstep, hend⟩ := replay_cons_eq_some_iff.mp hlast
    obtain rfl := Option.some.inj hend
    exact keeps past s e _ (ih hpast) hstep

/-! ## The steps one by one -/

theorem step?_take_eq_some_iff :
    s.step? (.take worker key) = some t ↔
      worker ∉ s.held.map Prod.fst ∧ ∃ work, s.queue.work.take? = some (key, work) ∧
        t = { s with queue := { s.queue with work }, held := (worker, key) :: s.held } := by
  rw [step?]
  by_cases hbusy : worker ∈ s.held.map Prod.fst
  · simp [hbusy]
  · rw [if_neg hbusy, DelayedQueue.take?]
    cases s.queue.work.take? with
    | none => simp
    | some taken =>
      obtain ⟨next, work⟩ := taken
      by_cases hnext : next = key
      · simp [hbusy, hnext, Option.filter, eq_comm]
      · simp [hnext, Option.filter]

theorem step?_succeed_eq_some_iff :
    s.step? (.succeed worker key) = some t ↔
      s.Syncing worker key ∧
        t = { s with queue := s.queue.forget key, told := worker :: s.told } := by
  rw [step?]
  by_cases hsyncing : s.Syncing worker key <;> simp [hsyncing, eq_comm]

theorem step?_fail_eq_some_iff {now : Nat} {draw : Draw} :
    s.step? (.fail worker key now draw) = some t ↔
      s.Syncing worker key ∧
        t = { s with queue := (s.queue.addLater now key draw).2, told := worker :: s.told } := by
  rw [step?]
  by_cases hsyncing : s.Syncing worker key <;> simp [hsyncing, eq_comm]

theorem step?_release_eq_some_iff :
    s.step? (.release worker key) = some t ↔
      s.Has worker key ∧
        t = { queue := s.queue.done key
              held := s.held.erase (worker, key)
              told := s.told.erase worker } := by
  rw [step?]
  by_cases hheld : s.Has worker key <;> simp [hheld, eq_comm]

theorem step?_ring_eq_some_iff {timer : Timer String} :
    s.step? (.ring timer) = some t ↔
      timer ∈ s.queue.timers ∧ t = { s with queue := s.queue.ring timer } := by
  rw [step?]
  by_cases htimer : timer ∈ s.queue.timers <;> simp [htimer, eq_comm]

theorem replay_rings {ended : List (Timer String)} (h : ended.Subperm s.queue.timers) :
    s.replay (ended.map .ring) = some { s with queue := ended.foldl ring s.queue } := by
  induction ended generalizing s with
  | nil => rfl
  | cons timer rest ih =>
    have hrest : rest.Subperm (s.queue.timers.erase timer) := by simpa using h.erase timer
    exact replay_cons_eq_some_iff.mpr
      ⟨_, step?_ring_eq_some_iff.mpr ⟨h.subset List.mem_cons_self, rfl⟩, ih hrest⟩

/-- A queue that fires its timers lets those end that are due. -/
theorem replay_fire (s : Crew ω) (now : Nat) :
    s.replay ((s.queue.timers.filter fun t => t.due ≤ now).map .ring) =
      some { s with queue := s.queue.fire now } := by
  rw [fire_eq_foldl_ring]
  exact replay_rings List.filter_sublist.subperm

/-! ## The keys in the hands of workers -/

theorem staffed_of_step (hs : s.Staffed) (h : s.step? e = some t) : t.Staffed := by
  cases e with
  | trigger key =>
    obtain rfl := Option.some.inj h
    exact hs.add key s.queue.timers
  | take worker key =>
    obtain ⟨-, work, taken, rfl⟩ := step?_take_eq_some_iff.mp h
    obtain ⟨l, hl, hwork, hheld⟩ := hs
    refine ⟨l.handOut worker key work, hl.handOut (hwork ▸ taken), rfl, ?_⟩
    simp only [WorkQueue.Ledger.handOut, hheld]
  | succeed worker key =>
    obtain ⟨-, rfl⟩ := step?_succeed_eq_some_iff.mp h
    exact hs
  | fail worker key now draw =>
    obtain ⟨-, rfl⟩ := step?_fail_eq_some_iff.mp h
    obtain ⟨l, hl, hwork, hheld⟩ := hs
    exact ⟨l, hl, hwork.trans (work_addLater ..).symm, hheld⟩
  | release worker key =>
    obtain ⟨hheld, rfl⟩ := step?_release_eq_some_iff.mp h
    obtain ⟨l, hl, hwork, hsame⟩ := hs
    refine ⟨l.takeBack worker key, hl.takeBack (hsame ▸ hheld), ?_, ?_⟩
    · simp only [WorkQueue.Ledger.takeBack, WorkQueue.Ledger.enter, hwork, DelayedQueue.done]
    · simp only [WorkQueue.Ledger.takeBack, hsame]
  | ring timer =>
    obtain ⟨-, rfl⟩ := step?_ring_eq_some_iff.mp h
    exact hs.add timer.what (s.queue.timers.erase timer)

/-! ## One key at a time -/

/-- No worker has two keys. -/
def Single (s : Crew ω) : Prop := (s.held.map Prod.fst).Nodup

theorem single_of_step (hs : s.Single) (h : s.step? e = some t) : t.Single := by
  cases e with
  | trigger key =>
    obtain rfl := Option.some.inj h
    exact hs
  | take worker key =>
    obtain ⟨hbusy, work, -, rfl⟩ := step?_take_eq_some_iff.mp h
    exact List.nodup_cons.mpr ⟨hbusy, hs⟩
  | succeed worker key =>
    obtain ⟨-, rfl⟩ := step?_succeed_eq_some_iff.mp h
    exact hs
  | fail worker key now draw =>
    obtain ⟨-, rfl⟩ := step?_fail_eq_some_iff.mp h
    exact hs
  | release worker key =>
    obtain ⟨-, rfl⟩ := step?_release_eq_some_iff.mp h
    exact hs.sublist (List.erase_sublist.map _)
  | ring timer =>
    obtain ⟨-, rfl⟩ := step?_ring_eq_some_iff.mp h
    exact hs

end Crew

end DelayedQueue

end EtcdRoster
