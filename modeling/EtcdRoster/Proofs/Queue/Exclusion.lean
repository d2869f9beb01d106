import EtcdRoster.Proofs.Queue.Consistency
import Mathlib.Data.List.Perm.Subperm

/-!
# No key in two hands

Any number of workers share one queue. They take keys and are done with what they took, and anybody
may add keys or shut the queue down, in any order. A ledger beside the queue remembers who has which
key, and which keys have entered the queue and were handed out.

* `Ledger.Sound` — the queue agrees with its ledger; `sound_of_replay` keeps it so along every
  course of events.
* `held_of_replay` — who has a key has it until being done with it.
* `replay_excludes` — so a key is never handed out again before its worker is done with it, keys
  leave in the order in which they entered, and after a shutdown nothing is added or handed out.
-/

namespace EtcdRoster.WorkQueue

variable {ω : Type}

/-- A queue and what is known of its past. -/
structure Ledger (ω : Type) where
  work : WorkQueue := {}
  /-- The workers, each with a key that it has. -/
  held : List (ω × String) := []
  /-- The keys that entered the queue, the first one first. -/
  entered : List String := []
  /-- The keys that were handed out, the first one first. -/
  handedOut : List String := []
deriving DecidableEq

namespace Ledger

/-- The keys that are new at the end of the queue have entered it. -/
def enter (s : Ledger ω) (after : WorkQueue) : Ledger ω :=
  { s with work := after, entered := s.entered ++ after.queue.drop s.work.queue.length }

/-- Hands the next key out to a worker. -/
def handOut (s : Ledger ω) (worker : ω) (key : String) (after : WorkQueue) : Ledger ω :=
  { s with
    work := after
    held := (worker, key) :: s.held
    handedOut := s.handedOut ++ [key] }

/-! ## The queue agrees with its ledger -/

/-- The keys in the hands of workers are different from each other and are those that the queue
takes for processed, and what has entered the queue was handed out since or waits still. -/
structure Sound (s : Ledger ω) : Prop where
  consistent : s.work.Consistent
  held_nodup : (s.held.map Prod.snd).Nodup
  mem_processing_iff : ∀ key, key ∈ s.work.processing ↔ key ∈ s.held.map Prod.snd
  entered_eq : s.entered = s.handedOut ++ s.work.queue

theorem sound_empty : ({} : Ledger ω).Sound :=
  ⟨⟨List.nodup_nil, by simp⟩, List.nodup_nil, by simp, rfl⟩

variable {s t : Ledger ω} {worker : ω} {key : String}

theorem Sound.entered_enter (hs : s.Sound) {after : WorkQueue}
    (hqueue : s.work.queue <+: after.queue) :
    (s.enter after).entered = s.handedOut ++ after.queue := by
  rw [enter, hs.entered_eq, List.append_assoc, List.prefix_iff_eq_append.mp hqueue]

theorem Sound.add (hs : s.Sound) (key : String) : (s.enter (s.work.add key)).Sound where
  consistent := hs.consistent.add key
  held_nodup := hs.held_nodup
  mem_processing_iff other := by
    rw [enter, processing_add]
    exact hs.mem_processing_iff other
  entered_eq := hs.entered_enter (prefix_queue_add s.work key)

/-- A key that is handed out is in no other hands. -/
theorem Sound.not_held (hs : s.Sound) {after : WorkQueue}
    (taken : s.work.take? = some (key, after)) : key ∉ s.held.map Prod.snd := by
  rw [← hs.mem_processing_iff]
  exact (hs.consistent.dirty_and_free taken).2

theorem Sound.handOut (hs : s.Sound) {after : WorkQueue}
    (taken : s.work.take? = some (key, after)) : (s.handOut worker key after).Sound := by
  obtain ⟨-, rest, hqueue, hafter⟩ := take?_eq_some_iff.mp taken
  refine ⟨hs.consistent.take taken, List.nodup_cons.mpr ⟨hs.not_held taken, hs.held_nodup⟩, ?_, ?_⟩
  · intro other
    rw [Ledger.handOut, hafter, mem_putIn, hs.mem_processing_iff other, List.map_cons,
      List.mem_cons]
  · simp only [Ledger.handOut, hs.entered_eq, hqueue, hafter, List.append_assoc,
      List.singleton_append]

/-- Keys that are all the same and different from each other are one at most. -/
theorem Sound.length_held_le_one (hs : s.Sound) (hsame : ∀ pair ∈ s.held, pair.2 = key) :
    s.held.length ≤ 1 := by
  have hsub : s.held.map Prod.snd ⊆ [key] := by
    intro other hother
    obtain ⟨pair, hpair, rfl⟩ := List.mem_map.mp hother
    exact List.mem_singleton.mpr (hsame pair hpair)
  have hlength := (List.subperm_of_subset hs.held_nodup hsub).length_le
  rwa [List.length_map] at hlength

end Ledger

/-! ## What can happen -/

/-- What can happen at a queue. -/
inductive Event (ω : Type)
  | add (key : String)
  /-- A worker gets this key. -/
  | get (worker : ω) (key : String)
  /-- A worker is done with this key. -/
  | done (worker : ω) (key : String)
  | shutDown
deriving DecidableEq

namespace Ledger

variable {s t : Ledger ω} {worker : ω} {key : String} [DecidableEq ω]

/-- Takes back a key that a worker has. -/
def takeBack (s : Ledger ω) (worker : ω) (key : String) : Ledger ω :=
  { s.enter (s.work.done key) with held := s.held.erase (worker, key) }

/-- Lets an event happen, if it can: only the next key is handed out, and only who has a key can be
done with it. -/
def step? (s : Ledger ω) : Event ω → Option (Ledger ω)
  | .add key => some (s.enter (s.work.add key))
  | .get worker key =>
    match s.work.take? with
    | none => none
    | some (next, after) => if next = key then some (s.handOut worker key after) else none
  | .done worker key => if (worker, key) ∈ s.held then some (s.takeBack worker key) else none
  | .shutDown => some { s with work := s.work.shutDown }

/-- Lets events happen one after the other. -/
def replay (s : Ledger ω) : List (Event ω) → Option (Ledger ω)
  | [] => some s
  | e :: events =>
    match s.step? e with
    | none => none
    | some next => replay next events

variable {events : List (Event ω)}

theorem replay_cons_eq_some_iff {e : Event ω} :
    s.replay (e :: events) = some t ↔ ∃ m, s.step? e = some m ∧ m.replay events = some t := by
  rw [replay]
  cases s.step? e <;> simp

theorem replay_append_eq_some_iff {later : List (Event ω)} :
    s.replay (events ++ later) = some t ↔
      ∃ m, s.replay events = some m ∧ m.replay later = some t := by
  induction events generalizing s with
  | nil => simp [replay]
  | cons e events ih =>
    simp only [List.cons_append, replay_cons_eq_some_iff, ih]
    constructor
    · rintro ⟨m, hstep, n, hfirst, hlater⟩
      exact ⟨n, ⟨m, hstep, hfirst⟩, hlater⟩
    · rintro ⟨n, ⟨m, hstep, hfirst⟩, hlater⟩
      exact ⟨m, hstep, n, hfirst, hlater⟩

theorem step?_get_eq_some_iff :
    s.step? (.get worker key) = some t ↔
      ∃ after, s.work.take? = some (key, after) ∧ t = s.handOut worker key after := by
  rw [step?]
  cases htaken : s.work.take? with
  | none => simp
  | some taken =>
    obtain ⟨next, after⟩ := taken
    by_cases hnext : next = key
    · subst hnext
      simp [eq_comm]
    · simp [hnext]

theorem step?_done_eq_some_iff :
    s.step? (.done worker key) = some t ↔
      (worker, key) ∈ s.held ∧ t = s.takeBack worker key := by
  rw [step?]
  by_cases hheld : (worker, key) ∈ s.held <;> simp [hheld, eq_comm]

/-- Taking a key back from a worker leaves the others theirs. -/
theorem Sound.mem_held_erase (hs : s.Sound) (hheld : (worker, key) ∈ s.held) (other : String) :
    other ∈ (s.held.erase (worker, key)).map Prod.snd ↔
      other ≠ key ∧ other ∈ s.held.map Prod.snd := by
  have hnodup : s.held.Nodup := hs.held_nodup.of_map
  simp only [List.mem_map, hnodup.mem_erase_iff]
  constructor
  · rintro ⟨pair, ⟨hne, hpair⟩, rfl⟩
    refine ⟨fun heq => hne ?_, pair, hpair, rfl⟩
    exact List.inj_on_of_nodup_map hs.held_nodup hpair hheld heq
  · rintro ⟨hne, pair, hpair, rfl⟩
    refine ⟨pair, ⟨?_, hpair⟩, rfl⟩
    rintro rfl
    exact hne rfl

theorem Sound.takeBack (hs : s.Sound) (hheld : (worker, key) ∈ s.held) :
    (s.takeBack worker key).Sound := by
  have hkey : key ∈ s.work.processing :=
    (hs.mem_processing_iff key).mpr (List.mem_map_of_mem hheld)
  refine ⟨hs.consistent.done hkey, hs.held_nodup.sublist (List.erase_sublist.map _), ?_,
    hs.entered_enter (prefix_queue_done s.work key)⟩
  intro other
  rw [Ledger.takeBack, hs.mem_held_erase hheld, enter, processing_done, mem_takeOut,
    hs.mem_processing_iff]

theorem sound_of_step {e : Event ω} (hs : s.Sound) (h : s.step? e = some t) : t.Sound := by
  cases e with
  | add key =>
    obtain rfl := Option.some.inj h
    exact hs.add key
  | get worker key =>
    obtain ⟨after, taken, rfl⟩ := step?_get_eq_some_iff.mp h
    exact hs.handOut taken
  | done worker key =>
    obtain ⟨hheld, rfl⟩ := step?_done_eq_some_iff.mp h
    exact hs.takeBack hheld
  | shutDown =>
    obtain rfl := Option.some.inj h
    exact ⟨hs.consistent.shutDown, hs.held_nodup, hs.mem_processing_iff, hs.entered_eq⟩

/-- What every event preserves, a course of events preserves. -/
theorem invariant_of_replay {I : Ledger ω → Prop} {P : Event ω → Prop}
    (keeps : ∀ s e t, P e → I s → s.step? e = some t → I t) (hs : I s) (hevents : ∀ e ∈ events, P e)
    (h : s.replay events = some t) : I t := by
  induction events generalizing s with
  | nil =>
    obtain rfl := Option.some.inj h
    exact hs
  | cons e events ih =>
    obtain ⟨m, hstep, hrest⟩ := replay_cons_eq_some_iff.mp h
    obtain ⟨he, hlater⟩ := List.forall_mem_cons.mp hevents
    exact ih (keeps s e m he hs hstep) hlater hrest

theorem sound_of_replay (hs : s.Sound) (h : s.replay events = some t) : t.Sound :=
  invariant_of_replay (P := fun _ => True) (fun _ _ _ _ hs hstep => sound_of_step hs hstep) hs
    (fun _ _ => trivial) h

/-! ## Nobody else has the key -/

/-- Who has a key has it until being done with it. -/
theorem held_of_replay (hheld : (worker, key) ∈ s.held) (hnot : .done worker key ∉ events)
    (h : s.replay events = some t) : (worker, key) ∈ t.held := by
  refine invariant_of_replay (I := fun s => (worker, key) ∈ s.held)
    (P := fun e => e ≠ .done worker key) ?_ hheld (fun e he heq => hnot (heq ▸ he)) h
  intro s e t he hs hstep
  cases e with
  | add other =>
    obtain rfl := Option.some.inj hstep
    exact hs
  | get another other =>
    obtain ⟨after, -, rfl⟩ := step?_get_eq_some_iff.mp hstep
    exact List.mem_cons_of_mem _ hs
  | done another other =>
    obtain ⟨-, rfl⟩ := step?_done_eq_some_iff.mp hstep
    refine (List.mem_erase_of_ne ?_).mpr hs
    intro heq
    obtain ⟨rfl, rfl⟩ := Prod.mk.inj heq
    exact he rfl
  | shutDown =>
    obtain rfl := Option.some.inj hstep
    exact hs

theorem shuttingDown_of_replay (hdown : s.work.shuttingDown = true)
    (h : s.replay events = some t) : t.work.shuttingDown = true := by
  refine invariant_of_replay (I := fun s => s.work.shuttingDown = true) (P := fun _ => True) ?_
    hdown (fun _ _ => trivial) h
  intro s e t _ hs hstep
  cases e with
  | add key =>
    obtain rfl := Option.some.inj hstep
    exact (shuttingDown_add s.work key).trans hs
  | get worker key =>
    obtain ⟨after, taken, rfl⟩ := step?_get_eq_some_iff.mp hstep
    obtain ⟨-, rest, -, rfl⟩ := take?_eq_some_iff.mp taken
    exact hs
  | done worker key =>
    obtain ⟨-, rfl⟩ := step?_done_eq_some_iff.mp hstep
    exact (shuttingDown_done s.work key).trans hs
  | shutDown =>
    obtain rfl := Option.some.inj hstep
    rfl

/-- All keys that need work or are in somebody's hands are of one kind. -/
structure Only (P : String → Prop) (s : Ledger ω) : Prop where
  sound : s.Sound
  dirty : ∀ key ∈ s.work.dirty, P key
  held : ∀ pair ∈ s.held, P pair.2

/-- If all keys added are of one kind, workers have no others. -/
theorem only_of_replay {P : String → Prop} (hs : s.Only P)
    (hadded : ∀ key, .add key ∈ events → P key) (h : s.replay events = some t) : t.Only P := by
  refine invariant_of_replay (P := fun e => ∀ key, e = .add key → P key) ?_ hs
    (fun e he key heq => hadded key (heq ▸ he)) h
  intro s e t he hs hstep
  have hsound : t.Sound := sound_of_step hs.sound hstep
  cases e with
  | add key =>
    obtain rfl := Option.some.inj hstep
    refine ⟨hsound, fun other hother => ?_, hs.held⟩
    rcases mem_dirty_add hother with rfl | hother
    · exact he other rfl
    · exact hs.dirty other hother
  | get worker key =>
    obtain ⟨after, taken, rfl⟩ := step?_get_eq_some_iff.mp hstep
    have hkey : P key := hs.dirty key (hs.sound.consistent.dirty_and_free taken).1
    obtain ⟨-, rest, -, rfl⟩ := take?_eq_some_iff.mp taken
    exact ⟨hsound, fun other hother => hs.dirty other (mem_takeOut.mp hother).2,
      List.forall_mem_cons.mpr ⟨hkey, hs.held⟩⟩
  | done worker key =>
    obtain ⟨-, rfl⟩ := step?_done_eq_some_iff.mp hstep
    refine ⟨hsound, fun other hother => hs.dirty other (dirty_done s.work key ▸ hother), ?_⟩
    exact fun pair hpair => hs.held pair (List.mem_of_mem_erase hpair)
  | shutDown =>
    obtain rfl := Option.some.inj hstep
    exact ⟨hsound, hs.dirty, hs.held⟩

/-- What holds of a queue and its ledger after any course of events. -/
structure Exclusive (events : List (Event ω)) (s : Ledger ω) : Prop where
  /-- No key waits twice. -/
  nodup : s.work.queue.Nodup
  /-- The keys that wait are the dirty ones that no worker has. -/
  mem_queue_iff : ∀ key, key ∈ s.work.queue ↔ key ∈ s.work.dirty ∧ key ∉ s.work.processing
  /-- Between two hand-outs of a key the first worker was done with it. -/
  done_between : ∀ (before between after : List (Event ω)) (key : String) (first second : ω),
    events = before ++ .get first key :: (between ++ .get second key :: after) →
      .done first key ∈ between
  /-- Keys are handed out in the order in which they entered, and the rest waits. -/
  in_order : s.entered = s.handedOut ++ s.work.queue
  /-- After a shutdown nothing is handed out or added, and being done is still in order. -/
  closed : .shutDown ∈ events → s.work.take? = none ∧ (∀ key, s.work.add key = s.work) ∧
    ∀ pair ∈ s.held, (s.work.done pair.2).Consistent
  /-- If only one key is ever added, at most one worker has work. -/
  one_at_a_time : ∀ key, (∀ other, .add other ∈ events → other = key) → s.held.length ≤ 1

/-- **No key in two hands.** Whatever happens at a queue, in whatever order and with any number of
workers, as long as only who has a key is done with it. -/
theorem replay_excludes (h : ({} : Ledger ω).replay events = some s) : s.Exclusive events := by
  have hs : s.Sound := sound_of_replay sound_empty h
  refine ⟨hs.consistent.nodup, hs.consistent.mem_queue_iff, ?_, hs.entered_eq, ?_, ?_⟩
  · rintro before between after key first second rfl
    obtain ⟨s₁, hbefore, h⟩ := replay_append_eq_some_iff.mp h
    obtain ⟨s₂, hfirst, h⟩ := replay_cons_eq_some_iff.mp h
    obtain ⟨s₃, hbetween, h⟩ := replay_append_eq_some_iff.mp h
    obtain ⟨s₄, hsecond, -⟩ := replay_cons_eq_some_iff.mp h
    have hs₂ : s₂.Sound := sound_of_step (sound_of_replay sound_empty hbefore) hfirst
    obtain ⟨_, -, rfl⟩ := step?_get_eq_some_iff.mp hfirst
    obtain ⟨_, taken, -⟩ := step?_get_eq_some_iff.mp hsecond
    -- Without being done the first worker still has the key, so it cannot be handed out.
    by_contra hnot
    have hheld : (first, key) ∈ s₃.held :=
      held_of_replay (List.mem_cons_self ..) hnot hbetween
    exact (sound_of_replay hs₂ hbetween).not_held taken (List.mem_map_of_mem hheld)
  · intro hmem
    obtain ⟨before, after, rfl⟩ := List.append_of_mem hmem
    obtain ⟨s₁, -, h⟩ := replay_append_eq_some_iff.mp h
    obtain ⟨s₂, hdown, h⟩ := replay_cons_eq_some_iff.mp h
    obtain rfl := Option.some.inj hdown
    have hclosed : s.work.shuttingDown = true := shuttingDown_of_replay rfl h
    refine ⟨take?_of_shuttingDown hclosed, fun key => add_of_shuttingDown hclosed, ?_⟩
    intro pair hpair
    exact hs.consistent.done ((hs.mem_processing_iff _).mpr (List.mem_map_of_mem hpair))
  · intro key honly
    have hstart : ({} : Ledger ω).Only (· = key) := ⟨sound_empty, by simp, by simp⟩
    exact hs.length_held_le_one (only_of_replay hstart honly h).held

/-- Two workers, two keys: one key is added again while its worker has it, and the other is handed
out before it comes back. -/
def comeback : List (Event Nat) :=
  [.add "roster", .get 0 "roster", .add "roster", .add "other", .add "other", .done 0 "roster",
    .get 1 "other", .get 0 "roster", .add "roster", .shutDown, .done 0 "roster"]

theorem comeback_excludes : ∃ s, ({} : Ledger Nat).replay comeback = some s ∧
    s.handedOut = ["roster", "other", "roster"] ∧ s.held = [(1, "other")] ∧
    s.work.queue = ["roster"] ∧ s.Exclusive comeback := by
  have hreplay : ({} : Ledger Nat).replay comeback = some
      { work :=
          { queue := ["roster"]
            dirty := ["roster"]
            processing := ["other"]
            shuttingDown := true }
        held := [(1, "other")]
        entered := ["roster", "other", "roster", "roster"]
        handedOut := ["roster", "other", "roster"] } := by decide +kernel
  exact ⟨_, hreplay, rfl, rfl, rfl, replay_excludes hreplay⟩

end Ledger

end EtcdRoster.WorkQueue
