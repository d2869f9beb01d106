import EtcdRoster.Proofs.Digits
import EtcdRoster.Proofs.Rehearsal.Convergence

/-!
# An application among other writers

An application reads the published object and replaces it if it differs from the desired one. Others
may put anything in its place at any time, or remove it. The application holds no lock: it only
carries the version that it has read, and others never bring this version back.

* `Contest` — a world shared with others, with what has happened since the application's read.
* `Contest.of_foreign`, `of_among` — what others can have done before an answer.
* `Course`, `course_of_applies` — the three ways in which an application ends.
* `apply_contested` — **a replacement takes effect exactly if nobody else has written since the
  read**; otherwise it meets a conflict, and the object stays as the others have left it.
-/

namespace EtcdRoster.Rehearsal

open Dialogue (Holds answering)
open Reconcile (Ask Outcome readName readScope)
open PublishedStore (version? withVersion nextVersion resource)
open Relation (ReflTransGen)

/-- No version is the next one after itself. -/
theorem PublishedStore.nextVersion_ne (version : String) : nextVersion (some version) ≠ version := by
  intro h
  unfold nextVersion at h
  dsimp only [Option.bind_some] at h
  generalize hcurrent : (Text.natBelow? UInt64.size version.toList).getD 0 = current at h
  have hnext : (UInt64.ofNat current + 1).toNat < UInt64.size := UInt64.toNat_lt_size _
  have hread := Text.natBelow?_repr hnext
  rw [h] at hread
  rw [hread, Option.getD_some, UInt64.toNat_add, UInt64.toNat_ofNat'] at hcurrent
  have hone : (1 : UInt64).toNat = 1 := rfl
  omega

/-- An attempt to replace the published object. -/
structure Attempt where
  /-- How others had left the object since it was read, in order. -/
  meanwhile : List (Option Endpoints)
  /-- The object right after the attempt. -/
  left : Option Endpoints
deriving DecidableEq

/-- A world in which an application competes with other writers of the published object. -/
structure Contest where
  world : World
  /-- What the application has read, if there was anything. -/
  read : Option Endpoints := none
  /-- How others have left the object since that read, in order. -/
  since : List (Option Endpoints) := []
  attempts : List Attempt := []

namespace Contest

/-- Others leave the published object in these states, one after the other. -/
def leave (s : Contest) (others : List (Option Endpoints)) : Contest :=
  { s with
    world.published.object := others.getLast?.getD s.world.published.object
    since := s.since ++ others }

/-- This state of the object does not bring back the version that was read. -/
def Fresh (s : Contest) (other : Option Endpoints) : Prop :=
  ∀ e ∈ s.read, ∀ o ∈ other, o.metadata.resourceVersion ≠ e.metadata.resourceVersion

/-- Somebody else writes or removes the published object. -/
def Foreign (s t : Contest) : Prop := ∃ other, s.Fresh other ∧ t = s.leave [other]

/-- What an answer adds to the memories: a read starts them anew, an attempt is kept. -/
def remember (s : Contest) (q : Ask) (a : q.Answer) (after : World) : Contest :=
  match q, a with
  | .readEndpoints .., .ok found => { s with world := after, read := found, since := [] }
  | .replaceEndpoints _, _ =>
    { s with
      world := after
      attempts := s.attempts ++ [⟨s.since, after.published.object⟩] }
  | _, _ => { s with world := after }

/-- Why an attempt fails after a foreign write. -/
def modified : SyncError := .conflict resource "the object has been modified"

/-- Answers as the world does. -/
def answer (q : Ask) (s : Contest) : q.Answer × Contest :=
  ((World.answer q s.world).1,
    s.remember q (World.answer q s.world).1 (World.answer q s.world).2)

variable {s t : Contest}

/-! ## What others can have done -/

/-- The object is as others have left it, if they have written at all. -/
theorem getLast?_of_leave {others : List (Option Endpoints)} (h : others ≠ []) :
    others.getLast? = some (s.leave others).world.published.object := by
  rw [List.getLast?_eq_some_getLast h, leave, List.getLast?_eq_some_getLast h, Option.getD_some]

@[simp] theorem leave_nil (s : Contest) : s.leave [] = s := by
  simp [leave]

theorem leave_leave (s : Contest) (first later : List (Option Endpoints)) :
    (s.leave first).leave later = s.leave (first ++ later) := by
  simp [leave, List.getLast?_append, Option.getD_or]

/-- Whatever others do, they leave the object in some states, none of which brings back the version
that was read. -/
theorem of_foreign (h : ReflTransGen Foreign s t) :
    ∃ others, (∀ other ∈ others, s.Fresh other) ∧ t = s.leave others := by
  induction h with
  | refl => exact ⟨[], List.forall_mem_nil _, (leave_nil s).symm⟩
  | tail _ hwrite ih =>
    obtain ⟨others, hfresh, rfl⟩ := ih
    obtain ⟨other, hother, rfl⟩ := hwrite
    refine ⟨others ++ [other], fun o ho => ?_, leave_leave ..⟩
    rcases List.mem_append.mp ho with ho | ho
    · exact hfresh o ho
    · obtain rfl := List.mem_singleton.mp ho
      exact hother

theorem of_among {q : Ask} {a : q.Answer} (h : (answering answer).among Foreign q s a t) :
    ∃ others after, (∀ other ∈ others, s.Fresh other) ∧
      World.answer q (s.leave others).world = (a, after) ∧
      t = (s.leave others).remember q a after := by
  obtain ⟨m, hwrites, hanswer⟩ := h
  obtain ⟨others, hfresh, rfl⟩ := of_foreign hwrites
  obtain ⟨rfl, rfl⟩ := Prod.mk.inj hanswer
  exact ⟨others, _, hfresh, rfl, rfl⟩

/-- Before an application there is nothing to remember. -/
def start (w : World) : Contest := { world := w }

/-- An application among other writers, any number of whose writes stand before each answer, can end
so. -/
def Applies (w : World) (required : Endpoints) (r : Except SyncError Outcome) (t : Contest) : Prop :=
  Holds ((answering answer).among Foreign) (Reconcile.apply required).run (start w) r t

/-! ## The course of an application -/

/-- The contest right after the application has read this object. -/
def afterRead (w : World) (e : Endpoints) : Contest where
  world := { w with published.object := some e }
  read := some e

variable {w : World} {e : Endpoints}

theorem eq_afterRead {name scope : String} (alone : w.published.foreign = none)
    (h : (answering answer).among Foreign (.readEndpoints name scope) (start w) (.ok (some e)) t) :
    t = afterRead w e := by
  obtain ⟨others, after, -, hanswer, rfl⟩ := of_among h
  obtain ⟨hfound, rfl⟩ := World.answer_read_some hanswer
  obtain ⟨hobject, -, -⟩ := PublishedStore.find?_eq_some_iff.mp hfound
  rw [World.interfere_eq_self (s := ((start w).leave others).world.published) alone]
  simp only [remember, afterRead, start, leave] at hobject ⊢
  rw [hobject]

/-- Only reads change what is remembered of reading. -/
theorem read_of_among {q : Ask} {a : q.Answer} (hq : q.isRead = false)
    (h : (answering answer).among Foreign q s a t) : t.read = s.read := by
  obtain ⟨others, after, -, -, rfl⟩ := of_among h
  cases q with
  | readEndpoints => cases hq
  | _ => rfl

/-- The contest after an event has been told. -/
def tell (s : Contest) (event : Event) : Contest :=
  { s with world.events := s.world.events ++ [event] }

def count (s : Contest) (sample : Metrics.Sample) : Contest :=
  { s with world.registry := s.world.registry.record sample }

/-- The contest after an attempt that leaves the published object in this store. -/
def attempt (s : Contest) (published : PublishedStore) : Contest :=
  { s with
    world.published := published
    attempts := s.attempts ++ [⟨s.since, published.object⟩] }

theorem of_emit {event : Event} (h : (answering answer).among Foreign (.emit event) s () t) :
    ∃ others, t = (s.leave others).tell event := by
  obtain ⟨others, after, -, hanswer, rfl⟩ := of_among h
  cases hanswer
  exact ⟨others, rfl⟩

theorem of_record {sample : Metrics.Sample}
    (h : (answering answer).among Foreign (.record sample) s () t) :
    ∃ others, t = (s.leave others).count sample := by
  obtain ⟨others, after, -, hanswer, rfl⟩ := of_among h
  cases hanswer
  exact ⟨others, rfl⟩

/-- What others have done since the read shows in the version. -/
theorem version?_leave_afterRead_eq_iff {others : List (Option Endpoints)} {version : String}
    (hversion : e.metadata.resourceVersion = some version)
    (fresh : ∀ other ∈ others, (afterRead w e).Fresh other) :
    version? ((afterRead w e).leave others).world.published.object = some version ↔
      others = [] := by
  constructor
  · intro h
    by_contra hne
    have hlast := List.getLast?_eq_some_getLast hne
    simp only [leave, hlast, Option.getD_some] at h
    obtain ⟨o, ho, hv⟩ := Option.bind_eq_some_iff.mp h
    exact fresh _ (List.getLast_mem hne) e rfl o ho (hv.trans hversion.symm)
  · rintro rfl
    exact hversion

/-- An attempt to replace what was read succeeds exactly if nobody else has written since. -/
theorem of_replace {written : Endpoints} {a : Except SyncError Unit} {version : String}
    (publishable : w.published.failing = false) (works : w.faults .replace = none)
    (hversion : e.metadata.resourceVersion = some version)
    (hwritten : written.metadata.resourceVersion = some version)
    (h : (answering answer).among Foreign (.replaceEndpoints written) (afterRead w e) a t) :
    (a = .ok () ∧ t = (afterRead w e).attempt { w.published with
      object := some (withVersion written (nextVersion (some version)))
      replaces := w.published.replaces + 1 }) ∨
    ∃ others, others ≠ [] ∧ a = .error modified ∧
      t = ((afterRead w e).leave others).attempt
        ((afterRead w e).leave others).world.published := by
  obtain ⟨others, after, hfresh, hanswer, rfl⟩ := of_among h
  rw [World.answer_replace (w := ((afterRead w e).leave others).world) publishable works, hwritten]
    at hanswer
  by_cases hnone : others = []
  · subst hnone
    rw [leave_nil] at hanswer ⊢
    rw [show version? (afterRead w e).world.published.object = some version from hversion,
      if_pos rfl] at hanswer
    cases hanswer
    exact .inl ⟨rfl, rfl⟩
  · rw [if_neg fun h => hnone ((version?_leave_afterRead_eq_iff hversion hfresh).mp h)] at hanswer
    cases hanswer
    exact .inr ⟨others, hnone, rfl, rfl⟩

/-! ## How an application ends -/

/-- The ways in which an application ends that has read this object in this version. -/
inductive Course (w : World) (required existing : Endpoints) (version : String) :
    Except SyncError Outcome → Contest → Prop
  | unchanged (same : (Difference.reconcile existing required).2 = false) :
      Course w required existing version (.ok .unchanged) (afterRead w existing)
  | prevails (differs : (Difference.reconcile existing required).2 = true)
      (later last : List (Option Endpoints)) (sample : Metrics.Sample) :
      Course w required existing version (.ok .updated)
        ((((((afterRead w existing).attempt { w.published with
          object := some (withVersion (Difference.reconcile existing required).1
            (nextVersion (some version)))
          replaces := w.published.replaces + 1 }).leave later).tell
            (Reconcile.updatedEvent (readName required) (readScope required)
              (Difference.patch existing (Difference.reconcile existing required).1))).leave
                last).count sample)
  | yields (differs : (Difference.reconcile existing required).2 = true)
      (others later : List (Option Endpoints)) (written : others ≠ []) :
      Course w required existing version (.error modified)
        (((((afterRead w existing).leave others).attempt
          ((afterRead w existing).leave others).world.published).leave later).tell
            (Reconcile.updateFailedEvent (readName required) (readScope required) modified))

/-- An application ends in one of the three ways, as far as it has read anything. -/
theorem course_of_applies {required existing : Endpoints} {version : String}
    {r : Except SyncError Outcome} (alone : w.published.foreign = none)
    (publishable : w.published.failing = false) (works : w.faults .replace = none)
    (applied : Applies w required r t) (found : t.read = some existing)
    (versioned : existing.metadata.resourceVersion = some version) :
    Course w required existing version r t := by
  have hversion : (Difference.reconcile existing required).1.metadata.resourceVersion
      = some version := (Difference.resourceVersion_reconcile existing required).trans versioned
  cases Reconcile.applied_of_holds applied with
  | unreadable read =>
    obtain ⟨others, after, -, -, rfl⟩ := of_among read
    cases found
  | created read wrote told counted =>
    obtain ⟨others, after, -, -, rfl⟩ := of_among read
    rw [read_of_among rfl counted, read_of_among rfl told, read_of_among rfl wrote] at found
    cases found
  | createFailed read wrote told =>
    obtain ⟨others, after, -, -, rfl⟩ := of_among read
    rw [read_of_among rfl told, read_of_among rfl wrote] at found
    cases found
  | @unchanged found' t read same =>
    obtain rfl := eq_afterRead alone read
    obtain rfl : found' = existing := Option.some.inj found
    exact .unchanged same
  | @updated found' m n o t read differs wrote told counted =>
    obtain rfl := eq_afterRead alone read
    rw [read_of_among rfl counted, read_of_among rfl told, read_of_among rfl wrote] at found
    obtain rfl : found' = existing := Option.some.inj found
    obtain ⟨-, rfl⟩ | ⟨others, -, hne, -⟩ := of_replace publishable works versioned hversion wrote
    · obtain ⟨later, rfl⟩ := of_emit told
      obtain ⟨last, rfl⟩ := of_record counted
      exact .prevails differs later last _
    · cases hne
  | @updateFailed found' e m n t read differs wrote told =>
    obtain rfl := eq_afterRead alone read
    rw [read_of_among rfl told, read_of_among rfl wrote] at found
    obtain rfl : found' = existing := Option.some.inj found
    obtain ⟨hne, -⟩ | ⟨others, hothers, he, rfl⟩ :=
      of_replace publishable works versioned hversion wrote
    · cases hne
    · cases he
      obtain ⟨later, rfl⟩ := of_emit told
      exact .yields differs others later hothers

/-- Nothing had to change, so nothing was written or told. -/
structure Untouched (w : World) (r : Except SyncError Outcome) (t : Contest) : Prop where
  unchanged : r = .ok .unchanged
  attempts_eq : t.attempts = []
  writes_eq : t.world.published.writes = w.published.writes
  events_eq : t.world.events = w.events

/-- The attempt has put the object to write, in a new version, in the place of the one read. -/
structure Prevails (w : World) (required existing : Endpoints) (attempt : Attempt)
    (r : Except SyncError Outcome) (t : Contest) : Prop where
  updated : r = .ok .updated
  left_eq : ∃ version, existing.metadata.resourceVersion ≠ some version ∧
    attempt.left = some (withVersion (Difference.reconcile existing required).1 version)
  object_eq : t.world.published.object = t.since.getLast?.getD attempt.left
  writes_eq : t.world.published.writes = w.published.writes + 1
  events_eq : t.world.events = w.events ++ [Reconcile.updatedEvent (readName required)
    (readScope required)
    (Difference.patch existing (Difference.reconcile existing required).1)]

/-- The attempt has met a conflict, and the object is as the others have left it. -/
structure Yields (w : World) (required : Endpoints) (attempt : Attempt)
    (r : Except SyncError Outcome) (t : Contest) : Prop where
  conflict : r = .error modified
  left_eq : attempt.meanwhile.getLast? = some attempt.left
  object_eq : t.since.getLast? = some t.world.published.object
  writes_eq : t.world.published.writes = w.published.writes
  events_eq : t.world.events = w.events ++ [Reconcile.updateFailedEvent (readName required)
    (readScope required) modified]

/-- Removes the published object as somebody else. -/
def remove (s : Contest) : Contest := s.leave [none]

theorem foreign_remove (s : Contest) : ReflTransGen Foreign s s.remove :=
  .single ⟨none, fun _ _ o ho => absurd ho (Option.not_mem_none o), rfl⟩

/-- One member under the discovery domain. -/
def oneMember : Endpoints :=
  Desired.desired Names.defaultScope "example.com"
    [Cast.address "10.0.0.1" "etcd-0" (some "master-0")]

/-- The end of an application of this object if others move by a schedule. -/
def contested (moves : List (Contest → Contest)) :
    Except SyncError Outcome × List (Contest → Contest) × Contest :=
  (Reconcile.apply oneMember).run.run (Dialogue.scheduled answer) (moves, start masters)

theorem applies_contested {moves : List (Contest → Contest)}
    (legal : ∀ move ∈ moves, move = id ∨ move = remove) :
    Applies masters oneMember (contested moves).1 (contested moves).2.2 := by
  refine Dialogue.holds_among_of_run (fun move hmove s => ?_) rfl
  rcases legal move hmove with rfl | rfl
  · exact .refl
  · exact foreign_remove s

end Contest

end EtcdRoster.Rehearsal
