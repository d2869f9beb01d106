import EtcdRoster.Proofs.Queue.Consistency
import EtcdRoster.Proofs.Reconcile.Books
import EtcdRoster.Proofs.Rehearsal.Convergence
import EtcdRoster.Proofs.Rehearsal.Runs
import EtcdRoster.Rehearsal.Stage

/-!
# The metrics account for what happened

A worker processes one key after the other, and meanwhile the cluster, its zone, the published
object and the failures of collaborators change in any way. Metrics are counted in four places: when
the object is written, when a sync of it has succeeded, when a sync is reported, and when a key is
put back. They never disagree with what happened.

* `World.keepsBooks` — a rehearsal notes every answer down.
* `Call`, `Worked` — one call of the worker, and runs of such calls.
* `accounted_call` — the metrics account for one call.
* `accounted_of_worked` — so they account for a whole run.
-/

namespace EtcdRoster.Rehearsal

open Dialogue (Holds answering)
open Metrics (Registry Series)
open Reconcile (KeepsBooks Outcome Tally)

/-! ## The books of a rehearsal -/

namespace World

def tally (w : World) : Tally := ⟨w.registry, w.published.creates, w.published.replaces⟩

/-- Whoever goes through a collaborator notes down what it answers. -/
theorem tally_through {α : Type} {w : World} {collaborator : Collaborator}
    {work : World → Except SyncError α × World} (note : Except SyncError α → Tally)
    (failed : ∀ e, note (.error e) = w.tally) (worked : (work w).2.tally = note (work w).1) :
    (w.through collaborator work).2.tally = note (w.through collaborator work).1 := by
  unfold through
  split
  · exact (failed _).symm
  · exact worked

theorem tally_answer (q : Reconcile.Ask) (w : World) :
    (answer q w).2.tally = w.tally.note q (answer q w).1 := by
  cases q with
  | readEndpoints name scope =>
    refine tally_through (fun _ => w.tally) (fun _ => rfl) ?_
    simp only [PublishedStore.read, PublishedStore.interfere]
    split <;> rfl
  | createEndpoints e =>
    refine tally_through (w.tally.note (.createEndpoints e)) (fun _ => rfl) ?_
    simp only [PublishedStore.create]
    split <;> rfl
  | replaceEndpoints e =>
    refine tally_through (w.tally.note (.replaceEndpoints e)) (fun _ => rfl) ?_
    simp only [PublishedStore.replace]
    split
    · rfl
    · split <;> rfl
  | lookup question => cases question <;> rfl
  | memberNodes | networkConfig | infrastructureConfig | readConditions | writeConditions =>
    exact tally_through (fun _ => w.tally) (fun _ => rfl) rfl
  | emit | record | clock | elapsed => rfl

/-- A rehearsal notes every answer down, and nothing else. -/
theorem keepsBooks : KeepsBooks (answering answer) tally := by
  intro q w a m answered
  have hnoted := tally_answer q w
  rwa [show answer q w = (a, m) from answered] at hnoted

end World

/-! ## Calls -/

/-- What one call of the worker does with the key that it takes. -/
structure Call where
  /-- The world in which its sync begins. -/
  begun : World
  /-- How the sync of the published object ends. -/
  outcome : Except SyncError Outcome
  /-- The world after the sync of the published object. -/
  synced : World
  /-- What the whole sync comes to, its report included. -/
  result : Except SyncError Unit
  /-- The world after the report. -/
  reported : World

namespace Call

/-- The sync of the published object fails. -/
def Failed (c : Call) : Prop := c.outcome.toBool = false

/-- The sync of the published object fails with an error of this kind. -/
def FailedWith (kind : String) (c : Call) : Prop := Reconcile.kind? c.outcome = some kind

/-- The sync of the published object succeeds, and comes to this. -/
def CameTo (outcome : Outcome) (c : Call) : Prop := c.outcome.toOption = some outcome

/-- The whole sync returns an error. -/
def ReturnedError (c : Call) : Prop := c.result.toBool = false

instance : DecidablePred Failed := fun c => inferInstanceAs (Decidable (c.outcome.toBool = false))

instance (kind : String) : DecidablePred (FailedWith kind) := fun c =>
  inferInstanceAs (Decidable (Reconcile.kind? c.outcome = some kind))

instance (outcome : Outcome) : DecidablePred (CameTo outcome) := fun c =>
  inferInstanceAs (Decidable (c.outcome.toOption = some outcome))

instance : DecidablePred ReturnedError := fun c =>
  inferInstanceAs (Decidable (c.result.toBool = false))

/-- The world after the call: a key whose sync has returned an error is put back. -/
def ended (c : Call) : World :=
  if c.ReturnedError then { c.reported with registry := c.reported.registry.record .requeue }
  else c.reported

end Call

namespace Stage

/-- The call that takes a key when so many are left waiting. -/
def call (s : Stage) (waiting : Nat) : Call :=
  let begun := (s.record (.queueDepth waiting)).world
  let (outcome, synced) := begun.hold (Reconcile.syncEndpoints s.scope).run
  let (result, reported) := begun.hold (Reconcile.sync s.scope)
  { begun, outcome, synced, result, reported }

/-- The call that processes the next key, if there is one to take. -/
def calls (s : Stage) : List Call :=
  match s.queue.take? with
  | none => []
  | some (_, queue) => [s.call queue.work.queue.length]

/-- Processing a key is a call for it, after which the queue is told how it went. -/
theorem process_eq {s : Stage} {draw : Draw} {key : String} {queue : DelayedQueue}
    (taken : s.queue.take? = some (key, queue)) :
    s.process draw =
      let call := s.call queue.work.queue.length
      let finished := queue.finish s.now key call.result.toBool draw
      finished.1.map fun _ =>
        (.processed true, { s with world := call.ended, queue := finished.2.fire s.now }) := by
  have hopen : ¬ s.queue.work.shuttingDown = true := by
    intro hdown
    rw [DelayedQueue.take?, WorkQueue.take?_of_shuttingDown hdown] at taken
    cases taken
  unfold process call
  rw [if_neg hopen, taken]
  dsimp only [record, Call.ended, Call.ReturnedError]
  generalize World.hold _ (Reconcile.sync s.scope) = synced
  obtain ⟨result, reported⟩ := synced
  cases result with
  | ok _ => rfl
  | error e =>
    simp only [Except.toBool, Bool.false_eq_true, if_false, if_true]
    obtain ⟨told, queue⟩ := queue.finish s.now key false draw
    cases told <;> rfl

/-- Processing leaves the world as the call for the next key leaves it, or as it was if there is no
key. -/
theorem world_of_process {s t : Stage} {draw : Draw} {r : Result}
    (h : s.process draw = .ok (r, t)) :
    (s.calls = [] ∧ t.world = s.world) ∨
      ∃ waiting, s.calls = [s.call waiting] ∧ t.world = (s.call waiting).ended := by
  cases taken : s.queue.take? with
  | none =>
    refine .inl ⟨by rw [calls, taken], ?_⟩
    unfold process at h
    rw [taken] at h
    split at h <;> cases h <;> rfl
  | some next =>
    obtain ⟨key, queue⟩ := next
    refine .inr ⟨queue.work.queue.length, by rw [calls, taken], ?_⟩
    rw [process_eq taken] at h
    dsimp only at h
    generalize queue.finish s.now key _ draw = finished at h
    obtain ⟨told, after⟩ := finished
    cases told <;> cases h
    rfl

end Stage

/-! ## Runs -/

/-- From the first stage the worker can come to the last one by these calls, while between two calls
anything may change but the metrics and the counts of writes. -/
inductive Worked : Stage → List Call → Stage → Prop
  | stop (s : Stage) : Worked s [] s
  | meanwhile {s m t : Stage} {calls : List Call} (kept : m.world.tally = s.world.tally)
      (rest : Worked m calls t) : Worked s calls t
  | process {s m t : Stage} {calls : List Call} {draw : Draw} {r : Result}
      (processed : s.process draw = .ok (r, m)) (rest : Worked m calls t) :
      Worked s (s.calls ++ calls) t
  /-- The delay before the next try cannot be computed, and the call breaks off after its sync. -/
  | breakOff {s m t : Stage} {calls : List Call} {waiting : Nat} {draw : Draw}
      {fault : Backoff.Fault} (broken : s.process draw = .error fault)
      (called : s.calls = [s.call waiting]) (left : m.world = (s.call waiting).ended)
      (rest : Worked m calls t) : Worked s (s.calls ++ calls) t

/-- Syncs, or does a part of a sync, otherwise than by processing a key. -/
def Step.isDirect : Step → Bool
  | .sync | .syncEndpoints | .apply _ | .report _ | .setDegraded .. => true
  | _ => false

/-- The calls that a step makes. -/
def Step.calls (s : Stage) : Step → List Call
  | .process => s.calls
  | _ => []

/-- Does steps one after the other, and lists the calls that they make. -/
def Stage.rehearse (s : Stage) : List Step → Except Backoff.Fault (List Call × Stage)
  | [] => .ok ([], s)
  | e :: rest => do
    let (_, m) ← s.step e
    let (calls, t) ← m.rehearse rest
    return (e.calls s ++ calls, t)

theorem worked_cons_of_step {s m t : Stage} {e : Step} {r : Result} {calls : List Call}
    (indirect : e.isDirect = false) (h : s.step e = .ok (r, m)) (rest : Worked m calls t) :
    Worked s (e.calls s ++ calls) t := by
  cases e with
  | process => exact .process h rest
  | sync | syncEndpoints | apply | report | setDegraded => cases indirect
  | scope | fault | topology | zone | publish | failWrites | foreignWrite | trigger | advance
  | shutDown =>
    cases h
    refine .meanwhile ?_ rest
    rfl

/-- A rehearsal that syncs only by processing keys is such a run. -/
theorem worked_of_rehearse {s t : Stage} {steps : List Step} {calls : List Call}
    (indirect : ∀ e ∈ steps, e.isDirect = false) (h : s.rehearse steps = .ok (calls, t)) :
    Worked s calls t := by
  induction steps generalizing s calls with
  | nil =>
    cases h
    exact .stop _
  | cons e rest ih =>
    obtain ⟨he, hrest⟩ := List.forall_mem_cons.mp indirect
    unfold Stage.rehearse at h
    cases hstep : s.step e with
    | error fault =>
      rw [hstep] at h
      cases h
    | ok done =>
      obtain ⟨r, m⟩ := done
      rw [hstep] at h
      cases hlater : m.rehearse rest with
      | error fault => simp [hlater, bind, Except.bind] at h
      | ok later =>
        simp only [hlater, bind, Except.bind, pure, Except.pure, Except.ok.injEq] at h
        cases h
        exact worked_cons_of_step he hstep (ih hrest hlater)

/-! ## Accounts -/

/-- How often something was counted under the label of success, or of failure. -/
def World.reconciled (w : World) (label : String) : Nat := w.registry.reconciliations.count label

/-- The metrics of the second world, less those of the first, are what these calls have done. -/
structure Accounted (w : World) (calls : List Call) (t : World) : Prop where
  /-- Every sync is counted once, as a success or as an error. -/
  reconciled : t.reconciled Registry.successLabel + t.reconciled Registry.errorLabel =
    w.reconciled Registry.successLabel + w.reconciled Registry.errorLabel + calls.length
  failed : t.reconciled Registry.errorLabel =
    w.reconciled Registry.errorLabel + calls.countP (·.Failed)
  /-- Every failure is counted once more, -/
  errors : t.registry.errors.total = w.registry.errors.total + calls.countP (·.Failed)
  /-- namely under its kind. -/
  kinds : ∀ kind, t.registry.errors.count kind =
    w.registry.errors.count kind + calls.countP (·.FailedWith kind)
  created : t.registry.writes.count Outcome.created.label =
      w.registry.writes.count Outcome.created.label + calls.countP (·.CameTo .created) ∧
    t.published.creates = w.published.creates + calls.countP (·.CameTo .created)
  updated : t.registry.writes.count Outcome.updated.label =
      w.registry.writes.count Outcome.updated.label + calls.countP (·.CameTo .updated) ∧
    t.published.replaces = w.published.replaces + calls.countP (·.CameTo .updated)
  requeues : t.registry.requeues = w.registry.requeues + calls.countP (·.ReturnedError)
  /-- If nobody else waits to write, the gauge shows how many addresses the stored object has. -/
  published : ∀ c ∈ calls, c.begun.published.foreign = none → ¬ c.Failed →
    ∃ object, c.ended.published.object = some object ∧
      c.ended.registry.published = object.firstAddresses.length

namespace Accounted

variable {w m t : World} {before after : List Call}

/-- Where the tally is the same, nothing is to be accounted for. -/
theorem of_tally_eq (h : t.tally = w.tally) : Accounted w [] t := by
  have hregistry : t.registry = w.registry := congrArg Tally.registry h
  have hcreates : t.published.creates = w.published.creates := congrArg Tally.creates h
  have hreplaces : t.published.replaces = w.published.replaces := congrArg Tally.replaces h
  constructor <;> simp [World.reconciled, hregistry, hcreates, hreplaces]

theorem trans (h₁ : Accounted w before m) (h₂ : Accounted m after t) :
    Accounted w (before ++ after) t where
  reconciled := by rw [h₂.reconciled, h₁.reconciled, List.length_append, Nat.add_assoc]
  failed := by rw [h₂.failed, h₁.failed, List.countP_append, Nat.add_assoc]
  errors := by rw [h₂.errors, h₁.errors, List.countP_append, Nat.add_assoc]
  kinds kind := by rw [h₂.kinds, h₁.kinds, List.countP_append, Nat.add_assoc]
  created := by
    rw [h₂.created.1, h₂.created.2, h₁.created.1, h₁.created.2, List.countP_append, Nat.add_assoc,
      Nat.add_assoc]
    exact ⟨rfl, rfl⟩
  updated := by
    rw [h₂.updated.1, h₂.updated.2, h₁.updated.1, h₁.updated.2, List.countP_append, Nat.add_assoc,
      Nat.add_assoc]
    exact ⟨rfl, rfl⟩
  requeues := by rw [h₂.requeues, h₁.requeues, List.countP_append, Nat.add_assoc]
  published c hc := by
    rcases List.mem_append.mp hc with hc | hc
    · exact h₁.published c hc
    · exact h₂.published c hc

end Accounted

/-! ## One call -/

/-- After a sync of the object that succeeds undisturbed, the gauge shows how many addresses the
stored object has, also when it is an older one that only compares equal. -/
theorem Synced.published_eq {w m : World} {scope : String} {outcome : Outcome}
    (h : Synced w scope (.ok outcome) m) :
    ∃ object, m.published.object = some object ∧
      m.registry.published = object.firstAddresses.length := by
  cases h with
  | @unchanged before domain members queries found decided same =>
    obtain ⟨hobject, -, -⟩ := PublishedStore.find?_eq_some_iff.mp found
    have hperm := firstAddresses_reconcile_perm before scope domain
      (members ++ (Desired.bootstrapAddress? before).toList)
    rw [show (Difference.reconcile before _).1 = before from
      Difference.reconcile_unchanged same] at hperm
    exact ⟨before, hobject, hperm.length_eq.symm⟩
  | @updated before domain members queries found decided differs =>
    have hperm := firstAddresses_reconcile_perm before scope domain
      (members ++ (Desired.bootstrapAddress? before).toList)
    exact ⟨_, rfl, hperm.length_eq.symm⟩

section Call

variable (s : Stage) (waiting : Nat)

/-- The sync of a call is counted once, and its report leaves the gauge as it is. -/
theorem counts_call :
    (s.world.tally.record (.queueDepth waiting)).Counts (s.call waiting).outcome
        (s.call waiting).reported.tally ∧
      (s.call waiting).reported.registry.published =
        (s.call waiting).synced.registry.published := by
  have hsync : Holds (answering World.answer) (Reconcile.sync s.scope) (s.call waiting).begun
      (s.call waiting).result (s.call waiting).reported := World.holds_hold_iff.mpr rfl
  obtain ⟨outcome, synced, hobject, hreport, hcounts⟩ :=
    Reconcile.counts_of_sync World.keepsBooks hsync
  obtain ⟨rfl, rfl⟩ : outcome = (s.call waiting).outcome ∧ synced = (s.call waiting).synced :=
    Prod.mk.inj (World.holds_hold_iff.mp hobject).symm
  obtain ⟨took, hreported⟩ := Reconcile.tally_of_conclude World.keepsBooks hreport
  have hgauge := congrArg (·.registry.published) hreported
  exact ⟨hcounts, hgauge.trans (Tally.published_concluded ..)⟩

theorem published_eq_reported (c : Call) : c.ended.published = c.reported.published := by
  rw [Call.ended]
  split <;> rfl

/-- Putting a key back counts nothing else. -/
theorem registry_ended (c : Call) :
    c.ended.registry = { c.reported.registry with
      requeues := c.reported.registry.requeues + if c.ReturnedError then 1 else 0 } := by
  rw [Call.ended]
  split <;> rfl

/-- After a call whose sync of the object has succeeded undisturbed, the gauge shows how many
addresses the stored object has. -/
theorem published_ended (alone : s.world.published.foreign = none)
    (succeeded : ¬ (s.call waiting).Failed) :
    ∃ object, (s.call waiting).ended.published.object = some object ∧
      (s.call waiting).ended.registry.published = object.firstAddresses.length := by
  have hsynced : Synced (s.call waiting).begun s.scope (s.call waiting).outcome
      (s.call waiting).synced := World.synced_of_hold alone rfl
  have hstore : (s.call waiting).reported.published = (s.call waiting).synced.published :=
    World.published_hold_sync alone
  have hgauge := (counts_call s waiting).2
  cases houtcome : (s.call waiting).outcome with
  | error e => exact absurd (congrArg Except.toBool houtcome) succeeded
  | ok outcome =>
    rw [houtcome] at hsynced
    obtain ⟨object, hobject, hlength⟩ := hsynced.published_eq
    refine ⟨object, ?_, ?_⟩
    · rw [published_eq_reported, hstore, hobject]
    · rw [registry_ended]
      exact hgauge.trans hlength

theorem countP_single (p : Call → Prop) [DecidablePred p] (c : Call) :
    [c].countP (p ·) = if p c then 1 else 0 := by
  simp

/-- The metrics account for one call. -/
theorem accounted_call : Accounted s.world [s.call waiting] (s.call waiting).ended := by
  have hcounts := (counts_call s waiting).1
  have hpublished := published_ended s waiting
  have hsame : (s.call waiting).begun.published.foreign = s.world.published.foreign := rfl
  generalize s.call waiting = c at *
  have hfailed : c.ended.reconciled Registry.errorLabel =
      s.world.reconciled Registry.errorLabel + [c].countP (·.Failed) := by
    rw [World.reconciled, registry_ended, countP_single]
    exact hcounts.error
  refine ⟨?reconciled, hfailed, ?errors, ?kinds, ?created, ?updated, ?requeues, ?published⟩
  case reconciled =>
    have hsucceeded : c.ended.reconciled Registry.successLabel =
        s.world.reconciled Registry.successLabel + if c.outcome.toBool = true then 1 else 0 := by
      rw [World.reconciled, registry_ended]
      exact hcounts.success
    rw [hsucceeded, hfailed, countP_single, List.length_singleton]
    by_cases hok : c.outcome.toBool = true
    · rw [if_pos hok, if_neg (by simp [Call.Failed, hok])]
      omega
    · rw [if_neg hok, if_pos (by simpa [Call.Failed] using hok)]
      omega
  case errors =>
    rw [registry_ended, countP_single]
    exact hcounts.total
  case kinds =>
    intro kind
    rw [registry_ended, countP_single]
    exact hcounts.kinds kind
  case created =>
    rw [registry_ended, published_eq_reported, countP_single]
    exact ⟨hcounts.created, hcounts.creates⟩
  case updated =>
    rw [registry_ended, published_eq_reported, countP_single]
    exact ⟨hcounts.updated, hcounts.replaces⟩
  case requeues =>
    rw [registry_ended, countP_single]
    exact congrArg (· + _) hcounts.requeues
  case published =>
    intro other hother
    obtain rfl := List.mem_singleton.mp hother
    rw [hsame]
    exact hpublished

end Call

/-- **The metrics account for what happened**: whatever the cluster, the zone, the stored object and
the failures of collaborators are, and however they change between calls. -/
theorem accounted_of_worked {s t : Stage} {calls : List Call} (h : Worked s calls t) :
    Accounted s.world calls t.world := by
  induction h with
  | stop s => exact .of_tally_eq rfl
  | meanwhile kept _ ih => exact (Accounted.of_tally_eq kept).trans ih
  | @process s m t calls draw r processed _ ih =>
    obtain ⟨hnone, hworld⟩ | ⟨waiting, hcall, hworld⟩ := Stage.world_of_process processed
    · rw [hnone, List.nil_append, ← hworld]
      exact ih
    · rw [hcall]
      exact (hworld ▸ accounted_call s waiting).trans ih
  | @breakOff s m t calls waiting draw fault broken called left _ ih =>
    rw [called]
    exact (left ▸ accounted_call s waiting).trans ih

/-- The masters, and nothing to do yet. -/
def opening : Stage where
  world := masters
  queue := .ofMaximum (.ofMillis 1000)

/-- A sync that updates the object, one that fails because the network is not there, and one that
finds nothing to do but cannot report it. -/
def morning : List Step :=
  [.trigger "roster", .process,
    .topology { masters.topology with network := none }, .trigger "roster", .process,
    .topology masters.topology, .fault .updateConditions (some (.statusWrite "refused")),
    .trigger "roster", .process]

theorem morning_accounted : ∃ calls t, Worked opening calls t ∧
    Accounted opening.world calls t.world ∧ calls.length = 3 ∧ t.world.registry.requeues = 2 ∧
    t.world.published.replaces = 1 ∧ t.world.reconciled Registry.errorLabel = 1 := by
  have hend : (opening.rehearse morning).toOption.any (fun e =>
      e.1.length = 3 ∧ e.2.world.registry.requeues = 2 ∧ e.2.world.published.replaces = 1 ∧
      e.2.world.reconciled Registry.errorLabel = 1) = true := by decide +kernel
  cases hrehearsed : opening.rehearse morning with
  | error fault => simp [hrehearsed, Except.toOption] at hend
  | ok done =>
    obtain ⟨calls, t⟩ := done
    have hworked : Worked opening calls t := worked_of_rehearse (by decide) hrehearsed
    rw [hrehearsed] at hend
    exact ⟨calls, t, hworked, accounted_of_worked hworked, of_decide_eq_true hend⟩

end EtcdRoster.Rehearsal
