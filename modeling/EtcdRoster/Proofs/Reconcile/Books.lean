import EtcdRoster.Proofs.Metrics.Counting
import EtcdRoster.Proofs.Reconcile.Stages

/-!
# The books of a sync

What a sync counts and what it does to the published object are answers to different questions. A
tally keeps both: the metrics, and how often the object was created and replaced. Whoever answers,
the tally after a sync follows from the tally before and from how the sync has ended.

* `tally_of_applied` — an application counts a write exactly if it has written.
* `tally_of_syncEndpoints`, `tally_of_conclude` — the tally after the two parts of a sync.
* `counts_of_sync` — together they count the sync once, as it has ended.
-/

namespace EtcdRoster.Reconcile

open Dialogue (Holds Answering)
open Metrics (Registry Series)

/-- The metrics, and how often the published object was written. -/
structure Tally where
  registry : Metrics.Registry
  creates : Nat
  replaces : Nat

/-- The kind of error with which a sync has failed. -/
def kind? : Except SyncError Outcome → Option String
  | .ok _ => none
  | .error e => some e.label

namespace Tally

def record (t : Tally) (sample : Metrics.Sample) : Tally :=
  { t with registry := t.registry.record sample }

/-- Notes down an answer. -/
def note (t : Tally) : (q : Ask) → q.Answer → Tally
  | .record sample, _ => t.record sample
  | .createEndpoints _, .ok _ => { t with creates := t.creates + 1 }
  | .replaceEndpoints _, .ok _ => { t with replaces := t.replaces + 1 }
  | _, _ => t

theorem note_of_isSilent (t : Tally) {q : Ask} (h : q.isSilent = true) (a : q.Answer) :
    t.note q a = t := by
  cases q <;> first | rfl | cases h

/-- The tally after an application that has ended so. -/
def applied (t : Tally) : Except SyncError Outcome → Tally
  | .ok .created => { t with creates := t.creates + 1 }.record (.write Outcome.created.label)
  | .ok .updated => { t with replaces := t.replaces + 1 }.record (.write Outcome.updated.label)
  | .ok .unchanged | .error _ => t

/-- The tally after the result of a sync has been measured and reported. -/
def concluded (t : Tally) (took : Duration) : Except SyncError Outcome → Tally
  | .ok _ => t.record (.succeeded took)
  | .error e => (t.record (.failed took)).record (.error e.label)

/-- The second tally counts one sync more than the first, which has ended so. -/
structure Counts (t : Tally) (r : Except SyncError Outcome) (u : Tally) : Prop where
  success : u.registry.reconciliations.count Registry.successLabel =
    t.registry.reconciliations.count Registry.successLabel + if r.toBool = true then 1 else 0
  error : u.registry.reconciliations.count Registry.errorLabel =
    t.registry.reconciliations.count Registry.errorLabel + if r.toBool = false then 1 else 0
  total : u.registry.errors.total = t.registry.errors.total + if r.toBool = false then 1 else 0
  kinds : ∀ kind, u.registry.errors.count kind =
    t.registry.errors.count kind + if kind? r = some kind then 1 else 0
  created : u.registry.writes.count Outcome.created.label =
    t.registry.writes.count Outcome.created.label +
      if r.toOption = some .created then 1 else 0
  updated : u.registry.writes.count Outcome.updated.label =
    t.registry.writes.count Outcome.updated.label +
      if r.toOption = some .updated then 1 else 0
  creates : u.creates = t.creates + if r.toOption = some .created then 1 else 0
  replaces : u.replaces = t.replaces + if r.toOption = some .updated then 1 else 0
  requeues : u.registry.requeues = t.registry.requeues

/-- Whatever a sync comes to, its parts together count it once. -/
theorem counts_concluded (t : Tally) (addresses : Nat) (took : Duration)
    (r : Except SyncError Outcome) :
    t.Counts r (((t.applied r).record (.published addresses)).concluded took r) := by
  cases r with
  | error e =>
    have hkind : ∀ kind, kind = e.label ↔ kind? (.error e) = some kind := by
      intro kind
      rw [kind?, Option.some.injEq, eq_comm]
    refine ⟨Series.count_increment .., Series.count_increment .., Series.total_increment .., ?_,
      rfl, rfl, rfl, rfl, rfl⟩
    intro kind
    simp only [← hkind]
    exact Series.count_increment ..
  | ok outcome =>
    cases outcome with
    | unchanged =>
      exact ⟨Series.count_increment .., Series.count_increment .., rfl, fun _ => rfl, rfl, rfl, rfl,
        rfl, rfl⟩
    | created | updated =>
      exact ⟨Series.count_increment .., Series.count_increment .., rfl, fun _ => rfl,
        Series.count_increment .., Series.count_increment .., rfl, rfl, rfl⟩

/-- Reporting leaves the gauge as it is. -/
theorem published_concluded (t : Tally) (took : Duration) (r : Except SyncError Outcome) :
    (t.concluded took r).registry.published = t.registry.published := by
  cases r <;> rfl

end Tally

variable {σ : Type} {step : Answering Ask.Answer σ} {tally : σ → Tally} {s t : σ}

/-- The tally of a state is kept: every answer is noted down, and nothing else. -/
def KeepsBooks (step : Answering Ask.Answer σ) (tally : σ → Tally) : Prop :=
  ∀ q s a t, step q s a t → tally t = (tally s).note q a

/-- A dialogue of silent questions leaves the tally as it is. -/
theorem KeepsBooks.of_silent {α : Type} {talk : Talk α} {r : α} (books : KeepsBooks step tally)
    (silent : talk.Asks (·.isSilent = true)) (h : Holds step talk s r t) : tally t = tally s := by
  refine h.invariant (I := fun u => tally u = tally s) ?_ silent rfl
  intro q u a m hq hu answered
  rw [books q u a m answered, Tally.note_of_isSilent _ hq, hu]

/-- An application counts a write exactly if it has written. -/
theorem tally_of_applied {required : Endpoints} {r : Except SyncError Outcome}
    (books : KeepsBooks step tally) (h : Applied step required s r t) :
    tally t = (tally s).applied r := by
  cases h with
  | unreadable read => exact books _ _ _ _ read
  | created read wrote told counted =>
    rw [books _ _ _ _ counted, books _ _ _ _ told, books _ _ _ _ wrote, books _ _ _ _ read]
    rfl
  | createFailed read wrote told =>
    rw [books _ _ _ _ told, books _ _ _ _ wrote, books _ _ _ _ read]
    rfl
  | unchanged read => exact books _ _ _ _ read
  | updated read _ wrote told counted =>
    rw [books _ _ _ _ counted, books _ _ _ _ told, books _ _ _ _ wrote, books _ _ _ _ read]
    rfl
  | updateFailed read _ wrote told =>
    rw [books _ _ _ _ told, books _ _ _ _ wrote, books _ _ _ _ read]
    rfl

/-- A sync of the published object counts what it has written, and if it succeeds sets the gauge. -/
theorem tally_of_syncEndpoints {scope : String} {r : Except SyncError Outcome}
    (books : KeepsBooks step tally) (h : Holds step (syncEndpoints scope).run s r t) :
    ∃ addresses, tally t = ((tally s).applied r).record (.published addresses) := by
  have hsilent : (plan scope).run.Asks (·.isSilent = true) :=
    (asks_plan scope).mono fun _ => Ask.isSilent_of_isRead
  -- Setting the gauge to what it shows is the same as leaving it.
  have hleft : ∀ u : Tally, u = u.record (.published u.registry.published) := fun _ => rfl
  obtain ⟨e, hplan, rfl⟩ | ⟨published, required, m, hplan, hrest⟩ := synced_of_holds h
  · exact ⟨_, (books.of_silent hsilent hplan).trans (hleft _)⟩
  have hplanned : tally m = tally s := books.of_silent hsilent hplan
  obtain ⟨e, happly, rfl⟩ | ⟨outcome, n, happly, hcounted, rfl⟩ := hrest
  · exact ⟨_, ((tally_of_applied books happly).trans hplanned).trans (hleft _)⟩
  · refine ⟨required.firstAddresses.length, ?_⟩
    rw [books _ _ _ _ hcounted, tally_of_applied books happly, hplanned]
    rfl

/-- A sync is counted as a success or as an error of its kind when it is reported. -/
theorem tally_of_conclude {result : Except SyncError Outcome} {r : Except SyncError Unit}
    (books : KeepsBooks step tally) (h : Holds step (conclude result) s r t) :
    ∃ took, tally t = (tally s).concluded took result := by
  obtain ⟨took, m, htook, h⟩ := holds_question_bind_iff.mp h
  refine ⟨took, ?_⟩
  cases result with
  | ok outcome =>
    obtain ⟨_, n, hcounted, h⟩ := holds_question_bind_iff.mp h
    rw [books.of_silent (asks_report _) h, books _ _ _ _ hcounted, books _ _ _ _ htook]
    rfl
  | error e =>
    obtain ⟨_, n, hcounted, h⟩ := holds_question_bind_iff.mp h
    obtain ⟨_, o, hlabelled, h⟩ := holds_question_bind_iff.mp h
    rw [books.of_silent (asks_report _) h, books _ _ _ _ hlabelled, books _ _ _ _ hcounted,
      books _ _ _ _ htook]
    rfl

/-- **A sync is counted once**, as it has ended, whoever answers. -/
theorem counts_of_sync {scope : String} {r : Except SyncError Unit}
    (books : KeepsBooks step tally) (h : Holds step (sync scope) s r t) :
    ∃ result m, Holds step (syncEndpoints scope).run s result m ∧
      Holds step (conclude result) m r t ∧ (tally s).Counts result (tally t) := by
  rw [sync_eq_conclude] at h
  obtain ⟨result, m, hsync, hconclude⟩ := Dialogue.holds_bind_iff.mp h
  obtain ⟨addresses, hsynced⟩ := tally_of_syncEndpoints books hsync
  obtain ⟨took, hconcluded⟩ := tally_of_conclude books hconclude
  refine ⟨result, m, hsync, hconclude, ?_⟩
  rw [hconcluded, hsynced]
  exact (tally s).counts_concluded addresses took result

end EtcdRoster.Reconcile
