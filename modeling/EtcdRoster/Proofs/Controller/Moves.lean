import EtcdRoster.Controller.Worker
import EtcdRoster.Proofs.Queue.Crew

/-!
# What a worker does at the queue

Each move of a worker of the controller does nothing to the queue but what the events of a crew say:
it takes a key, tells how a sync went and releases the key, or releases the key of a sync that broke
off.

* `Crew.Carries` — how far a worker is, read off the crew alone.
* `Crew.Carries.of_replay` — the events of others leave a worker where it is.
* `Worker.replay_of_move` — a move is a course of events of this worker.
-/

namespace EtcdRoster

namespace DelayedQueue

variable {ω : Type}

/-- The worker whose event this is. Triggers and timers are nobody's. -/
def Event.worker? : Event ω → Option ω
  | trigger _ | ring _ => none
  | take worker _ | succeed worker _ | fail worker _ _ _ | release worker _ => some worker

namespace Crew

variable [DecidableEq ω] {name : ω} {key : String} {key? : Option String} {s t : Crew ω}

/-- The keys that the worker of this name has. -/
def keysOf (s : Crew ω) (name : ω) : List String :=
  (s.held.filter fun pair => pair.1 = name).map Prod.snd

/-- The worker of this name has this key, or none, and has told nothing since it took one. -/
structure Carries (s : Crew ω) (name : ω) (key? : Option String) : Prop where
  keys : s.keysOf name = key?.toList
  not_told : name ∉ s.told

theorem mem_keysOf : key ∈ s.keysOf name ↔ s.Has name key := by
  simp [keysOf, Has]

theorem Carries.has (hs : s.Carries name (some key)) : s.Has name key :=
  mem_keysOf.mp (by simp [hs.keys])

theorem Carries.not_mem_held (hs : s.Carries name none) : name ∉ s.held.map Prod.fst := by
  intro hmem
  obtain ⟨⟨holder, key⟩, hpair, hholder⟩ := List.mem_map.mp hmem
  have hkey : key ∈ s.keysOf name := mem_keysOf.mpr (hholder ▸ hpair)
  rw [hs.keys] at hkey
  cases hkey

/-! ## The events of one worker -/

/-- A worker that has no key can take the next one. -/
theorem Carries.take {work : WorkQueue} (hs : s.Carries name none)
    (taken : s.queue.work.take? = some (key, work)) :
    ∃ t, s.step? (.take name key) = some t ∧ t.queue = { s.queue with work } ∧
      t.Carries name (some key) := by
  refine ⟨_, step?_take_eq_some_iff.mpr ⟨hs.not_mem_held, work, taken, rfl⟩, rfl, ?_, hs.not_told⟩
  have hnone : s.keysOf name = [] := hs.keys
  rw [keysOf, List.map_eq_nil_iff] at hnone
  simp [keysOf, hnone]

/-- A worker that has a key can release it, whether it has told how its sync went or not. -/
theorem release (keys : s.keysOf name = [key]) (once : name ∉ s.told.erase name) :
    ∃ t, s.step? (.release name key) = some t ∧ t.queue = s.queue.done key ∧
      t.Carries name none := by
  refine ⟨_, step?_release_eq_some_iff.mpr ⟨mem_keysOf.mp (by simp [keys]), rfl⟩, rfl, ?_, once⟩
  have hone : (s.held.filter fun pair => pair.1 = name) = [(name, key)] := by
    obtain ⟨⟨holder, other⟩, hpair, hother⟩ := List.map_eq_singleton_iff.mp keys
    have hmem : (holder, other) ∈ s.held.filter fun pair => pair.1 = name := by simp [hpair]
    have hholder : holder = name := by simpa using (List.mem_filter.mp hmem).2
    rw [hpair, hholder, ← hother]
  simp [keysOf, ← List.erase_filter, hone]

/-- What others do leaves a worker where it is. -/
theorem Carries.of_step {e : Event ω} (h : s.step? e = some t) (others : e.worker? ≠ some name)
    (hs : s.Carries name key?) : t.Carries name key? := by
  cases e with
  | trigger key =>
    obtain rfl := Option.some.inj h
    exact ⟨hs.keys, hs.not_told⟩
  | take worker key =>
    obtain ⟨-, work, -, rfl⟩ := step?_take_eq_some_iff.mp h
    have hne : worker ≠ name := fun heq => others (congrArg some heq)
    exact ⟨by simpa [keysOf, hne] using hs.keys, hs.not_told⟩
  | succeed worker key =>
    obtain ⟨-, rfl⟩ := step?_succeed_eq_some_iff.mp h
    have hne : worker ≠ name := fun heq => others (congrArg some heq)
    exact ⟨hs.keys, by simp [hs.not_told, hne.symm]⟩
  | fail worker key now draw =>
    obtain ⟨-, rfl⟩ := step?_fail_eq_some_iff.mp h
    have hne : worker ≠ name := fun heq => others (congrArg some heq)
    exact ⟨hs.keys, by simp [hs.not_told, hne.symm]⟩
  | release worker key =>
    obtain ⟨-, rfl⟩ := step?_release_eq_some_iff.mp h
    have hne : worker ≠ name := fun heq => others (congrArg some heq)
    refine ⟨?_, fun hmem => hs.not_told (List.mem_of_mem_erase hmem)⟩
    -- The pair that goes is not among those of this worker.
    have hnot : (worker, key) ∉ s.held.filter fun pair => pair.1 = name := by simp [hne]
    rw [← hs.keys, keysOf, keysOf, ← List.erase_filter, List.erase_of_not_mem hnot]
  | ring timer =>
    obtain ⟨-, rfl⟩ := step?_ring_eq_some_iff.mp h
    exact ⟨hs.keys, hs.not_told⟩

theorem Carries.of_replay {events : List (Event ω)} (h : s.replay events = some t)
    (others : ∀ e ∈ events, e.worker? ≠ some name) (hs : s.Carries name key?) :
    t.Carries name key? := by
  induction events generalizing s with
  | nil =>
    obtain rfl := Option.some.inj h
    exact hs
  | cons e events ih =>
    obtain ⟨m, hstep, hrest⟩ := replay_cons_eq_some_iff.mp h
    exact ih hrest (fun e he => others e (List.mem_cons_of_mem _ he))
      (hs.of_step hstep (others e List.mem_cons_self))

end Crew

end DelayedQueue

namespace Controller.Worker

open DelayedQueue (Crew)

variable {ω : Type} [DecidableEq ω] {name : ω} {key : String} {s t : Crew ω}

/-- The key that the worker has. -/
def key? : Worker → Option String
  | syncing key _ | asleep key _ _ => some key
  | idle | resting _ | finished => none

theorem key?_broken (now : Nat) (queue : DelayedQueue) : (broken now queue).key? = none := by
  unfold broken
  split <;> rfl

/-- A worker that has told how its sync went releases its key after that, also when there is no
delay after its failure. -/
theorem replay_of_finish (now : Nat) (succeeded : Bool) (draw : Draw)
    (hs : s.Carries name (some key)) :
    ∃ (told : DelayedQueue.Event ω) (t : Crew ω), told.worker? = some name ∧
      s.replay [told, .release name key] = some t ∧
      t.queue = (s.queue.finish now key succeeded draw).2 ∧ t.Carries name none := by
  have hsyncing : s.Syncing name key := ⟨hs.has, hs.not_told⟩
  -- Telling changes the queue alone.
  have hrelease : ∀ {told : DelayedQueue.Event ω} {q : DelayedQueue},
      s.step? told = some { s with queue := q, told := name :: s.told } →
      ∃ t, s.replay [told, .release name key] = some t ∧ t.queue = q.done key ∧
        t.Carries name none := by
    intro told q hstep
    have hkeys : Crew.keysOf { s with queue := q, told := name :: s.told } name = [key] := hs.keys
    obtain ⟨t, hlast, hqueue, hfree⟩ :=
      Crew.release hkeys (by rw [List.erase_cons_head]; exact hs.not_told)
    exact ⟨t, Crew.replay_cons_eq_some_iff.mpr
      ⟨_, hstep, Crew.replay_cons_eq_some_iff.mpr ⟨t, hlast, rfl⟩⟩, hqueue, hfree⟩
  cases succeeded with
  | true =>
    obtain ⟨t, hreplay⟩ := hrelease (Crew.step?_succeed_eq_some_iff.mpr ⟨hsyncing, rfl⟩)
    exact ⟨_, t, rfl, hreplay⟩
  | false =>
    have hfail : s.step? (.fail name key now draw) = _ :=
      Crew.step?_fail_eq_some_iff.mpr ⟨hsyncing, rfl⟩
    obtain ⟨t, hreplay⟩ := hrelease hfail
    exact ⟨_, t, rfl, hreplay⟩

/-- **A worker moves by events of the crew.** Whatever a move of the worker makes of the queue, some
course of its own events makes of it, and the worker carries in the crew what it has after its
move. -/
theorem replay_of_move {now : Nat} {site after : Cluster.Site} {queue : DelayedQueue}
    {worker moved : Worker} (hs : s.Carries name worker.key?)
    (h : worker.move? now s.queue site = some (moved, queue, after)) :
    ∃ events t, s.replay events = some t ∧ (∀ e ∈ events, e.worker? = some name) ∧
      t.queue = queue ∧ t.Carries name moved.key? := by
  have hstays : s.Carries name moved.key? → ∃ events t, s.replay events = some t ∧
      (∀ e ∈ events, e.worker? = some name) ∧ t.queue = s.queue ∧ t.Carries name moved.key? :=
    fun hsame => ⟨[], s, rfl, by simp, rfl, hsame⟩
  have hcrash : ∀ {key : String}, s.Carries name (some key) →
      ∃ events t, s.replay events = some t ∧ (∀ e ∈ events, e.worker? = some name) ∧
        t.queue = (crash now key s.queue).2 ∧
        t.Carries name (crash now key s.queue).1.key? := by
    intro key hkey
    obtain ⟨t, hstep, hqueue, hfree⟩ :=
      Crew.release hkey.keys fun hmem => hkey.not_told (List.mem_of_mem_erase hmem)
    rw [crash, key?_broken]
    exact ⟨[.release name key], t, Crew.replay_cons_eq_some_iff.mpr ⟨t, hstep, rfl⟩,
      List.forall_mem_singleton.mpr rfl, hqueue, hfree⟩
  cases worker with
  | idle =>
    simp only [move?] at h
    split at h
    · cases h
      exact hstays hs
    · obtain ⟨⟨key, q⟩, htake, hmoved⟩ := Option.map_eq_some_iff.mp h
      cases hmoved
      obtain ⟨⟨_, work⟩, taken, hq⟩ := Option.map_eq_some_iff.mp htake
      cases hq
      obtain ⟨t, hstep, hqueue, hkey⟩ := hs.take taken
      exact ⟨[.take name key], t, Crew.replay_cons_eq_some_iff.mpr ⟨t, hstep, rfl⟩,
        List.forall_mem_singleton.mpr rfl, hqueue, hkey⟩
  | syncing key left =>
    cases left with
    | done result =>
      obtain ⟨told, t, hname, hreplay, hqueue, hfree⟩ :=
        replay_of_finish now result.toBool .middle hs
      refine ⟨_, t, hreplay,
        List.forall_mem_cons.mpr ⟨hname, List.forall_mem_singleton.mpr rfl⟩, ?_⟩
      simp only [move?] at h
      split at h <;> rename_i hfinish <;> rw [hfinish] at hqueue <;> cases h
      · exact ⟨hqueue, hfree⟩
      · exact ⟨hqueue, by rwa [key?_broken]⟩
    | ask question next =>
      simp only [move?] at h
      split at h
      · cases h
      · split at h
        · cases h
          exact hcrash hs
        · split at h <;> cases h <;> exact hstays hs
  | asleep key left wakesAt =>
    simp only [move?] at h
    split at h <;> cases h
    exact hstays hs
  | resting wakesAt =>
    simp only [move?] at h
    split at h <;> cases h
    exact hstays hs
  | finished => cases h

end Controller.Worker

end EtcdRoster
