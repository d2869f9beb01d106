import EtcdRoster.Proofs.Reconcile.Failures
import EtcdRoster.Proofs.Rehearsal.Convergence

/-!
# A sync that fails

**An undisturbed sync that fails leaves the published object as it was**, and its error tells how
far it came: `syncEndpoints_fails_whole`. What it has told is read off what it has asked
(`World.events_hold`), and what it can have asked is a matter of the sync alone
(`Reconcile.failed_of_holds`).
-/

namespace EtcdRoster

namespace Reconcile

/-- What a question tells the people who run the cluster. -/
def Ask.emitted : Ask → List Event
  | .emit event => [event]
  | _ => []

variable {asked : List Ask}

theorem OnlyRead.emitted (h : OnlyRead asked) : asked.flatMap (·.emitted) = [] := by
  refine List.flatMap_eq_nil_iff.mpr fun q hq => ?_
  have hread := h q hq
  cases q <;> first | rfl | cases hread

theorem OnlyRead.not_isPublication (h : OnlyRead asked) :
    ∀ q ∈ asked, q.isPublication = false := by
  intro q hq
  have hread := h q hq
  cases q <;> first | rfl | cases hread

theorem PublishedInVain.emitted (h : PublishedInVain asked) :
    ∃ event, event.isWarning = true ∧ asked.flatMap (·.emitted) = [event] := by
  obtain ⟨reads, publication, event, rfl, honly, hpublication, hwarns⟩ := h
  have hsilent : publication.emitted = [] := by
    cases publication <;> first | rfl | cases hpublication
  refine ⟨event, hwarns, ?_⟩
  rw [List.flatMap_append, honly.emitted, List.nil_append, List.flatMap_cons, hsilent]
  rfl

theorem PublishedInVain.exists_isPublication (h : PublishedInVain asked) :
    ∃ q ∈ asked, q.isPublication = true := by
  obtain ⟨reads, publication, event, rfl, -, hpublication, -⟩ := h
  exact ⟨publication, List.mem_append_right _ (List.mem_cons_self ..), hpublication⟩

end Reconcile

/-! ## Fixed zones fail as lookups do -/

namespace Dns.Zone

theorem isReadFailure_of_service {z : Zone} {name : String} {e : SyncError}
    (h : z.service name = .error e) : e.isReadFailure = true := by
  unfold service at h
  split at h
  · cases h
    rfl
  · split at h <;> cases h
    rfl

theorem isReadFailure_of_host {z : Zone} {name : String} {e : SyncError}
    (h : z.host name = .error e) : e.isReadFailure = true := by
  unfold host at h
  split at h
  · cases h
    rfl
  · split at h <;> cases h
    rfl

end Dns.Zone

namespace Rehearsal

open Dialogue (Holds answering)
open Reconcile (Ask Outcome)

/-- The errors with which a collaborator fails. -/
def Collaborator.Admits : Collaborator → SyncError → Prop
  | get, e | nodes, e | network, e | infrastructure, e => e.isReadFailure = true
  | create, e | replace, e => e.isWriteFailure = true
  | getConditions, _ | updateConditions, _ => True

/-- Reads fail only with errors of reads, and writes of the published object only with errors of
writes. -/
def Circumstances.Honest (c : Circumstances) : Prop :=
  ∀ collaborator, ∀ e ∈ c.faults collaborator, collaborator.Admits e

namespace PublishedStore

theorem isWriteFailure_of_create {s : PublishedStore} {object : Endpoints} {e : SyncError}
    (h : (s.create object).1 = .error e) : e.isWriteFailure = true := by
  unfold create at h
  split at h <;> cases h
  rfl

theorem isWriteFailure_of_replace {s : PublishedStore} {object : Endpoints} {e : SyncError}
    (h : (s.replace object).1 = .error e) : e.isWriteFailure = true := by
  unfold replace at h
  split at h
  · cases h
    rfl
  · split at h <;> cases h
    rfl

end PublishedStore

namespace World

variable {w : World}

/-- What comes through a collaborator fails as the collaborator or as the work. -/
theorem through_error {α : Type} {p : SyncError → Prop} {collaborator : Collaborator}
    {work : World → Except SyncError α × World}
    (hfault : ∀ e ∈ w.faults collaborator, p e) (hwork : ∀ e, (work w).1 = .error e → p e) :
    ∀ e, (w.through collaborator work).1 = .error e → p e := by
  intro e h
  unfold through at h
  cases hf : w.faults collaborator with
  | some fault =>
    rw [hf] at h
    cases h
    exact hfault _ hf
  | none =>
    rw [hf] at h
    exact hwork e h

theorem admits_answer (honest : w.circumstances.Honest) (q : Ask) : q.Admits (answer q w).1 := by
  cases q with
  | readEndpoints name scope =>
    refine through_error (honest .get) fun e h => ?_
    cases h
  | createEndpoints object =>
    exact through_error (honest .create) fun e h => PublishedStore.isWriteFailure_of_create h
  | replaceEndpoints object =>
    exact through_error (honest .replace) fun e h => PublishedStore.isWriteFailure_of_replace h
  | memberNodes label =>
    refine through_error (honest .nodes) fun e h => ?_
    cases h
  | networkConfig name =>
    refine through_error (honest .network) fun e h => ?_
    unfold Topology.networkNamed at h
    dsimp only at h
    split at h <;> cases h
    rfl
  | infrastructureConfig name =>
    refine through_error (honest .infrastructure) fun e h => ?_
    unfold Topology.infrastructureNamed at h
    dsimp only at h
    split at h <;> cases h
    rfl
  | lookup question =>
    cases question with
    | service name => exact fun e h => Dns.Zone.isReadFailure_of_service h
    | host name => exact fun e h => Dns.Zone.isReadFailure_of_host h
  | _ => trivial

/-- An answer adds to the events what the question tells. -/
theorem events_answer (q : Ask) (w : World) : (answer q w).2.events = w.events ++ q.emitted := by
  cases q with
  | emit event => rfl
  | lookup question => cases question <;> exact (List.append_nil _).symm
  | record | clock | elapsed => exact (List.append_nil _).symm
  | _ =>
    refine Eq.trans ?_ (List.append_nil _).symm
    exact through_snd (P := fun w' => w'.events = w.events) rfl rfl

/-- The events after a dialogue are those before it and what its questions tell. -/
theorem events_hold {α : Type} (talk : Reconcile.Talk α) (w : World) :
    (w.hold talk).2.events = w.events ++ (talk.asked answer w).flatMap (·.emitted) := by
  unfold hold
  induction talk generalizing w with
  | done a => exact (List.append_nil _).symm
  | ask q next ih =>
    rw [Dialogue.run, Dialogue.asked, ih, events_answer, List.flatMap_cons, List.append_assoc]

end World

/-- What is true of a sync that ends with an error after it has asked these questions. -/
structure FailedWhole (w : World) (e : SyncError) (asked : List Ask) (after : World) : Prop where
  published_eq : after.published = w.published
  isBuildStage_iff : e.isBuildStage = true ↔ ∀ q ∈ asked, q.isPublication = false
  silent : e.isBuildStage = true → after.events = w.events
  warned : e.isBuildStage = false →
    ∃ event, event.isWarning = true ∧ after.events = w.events ++ [event]

/-- **A failed sync changes nothing that is published.** The error belongs to the build stage
exactly if no publication was tried; then nothing is told, and otherwise one warning. -/
theorem syncEndpoints_fails_whole {w after : World} {scope : String} {e : SyncError}
    (alone : w.published.foreign = none) (honest : w.circumstances.Honest)
    (failed : w.hold (Reconcile.syncEndpoints scope).run = (.error e, after)) :
    FailedWhole w e ((Reconcile.syncEndpoints scope).run.asked World.answer w) after := by
  have hpublished : after.published = w.published := by
    cases World.synced_of_hold alone failed <;> rfl
  have hevents := World.events_hold (Reconcile.syncEndpoints scope).run w
  rw [failed] at hevents
  have admits : ∀ q (s : World) a m, s.circumstances.Honest → answering World.answer q s a m →
      m.circumstances.Honest ∧ q.Admits a := by
    intro q s a m hs answered
    have hadmits := World.admits_answer hs q
    have hkeeps := World.circumstances_answer q s
    rw [show World.answer q s = (a, m) from answered] at hadmits hkeeps
    exact ⟨hkeeps ▸ hs, hadmits⟩
  have hrecord := (Dialogue.holds_recording_iff []).mpr ⟨failed, rfl⟩
  rw [List.nil_append] at hrecord
  obtain ⟨hstage, honly⟩ | ⟨hstage, hvain⟩ := Reconcile.failed_of_holds admits honest hrecord
  · rw [honly.emitted, List.append_nil] at hevents
    have hnot : e.isBuildStage ≠ false := by simp [hstage]
    exact ⟨hpublished, ⟨fun _ => honly.not_isPublication, fun _ => hstage⟩, fun _ => hevents,
      fun hfalse => absurd hfalse hnot⟩
  · obtain ⟨event, hwarns, hemitted⟩ := hvain.emitted
    obtain ⟨publication, hmem, hpublication⟩ := hvain.exists_isPublication
    rw [hemitted] at hevents
    have hnot : e.isBuildStage ≠ true := by simp [hstage]
    refine ⟨hpublished, ⟨fun htrue => absurd htrue hnot, fun hnone => ?_⟩,
      fun htrue => absurd htrue hnot, fun _ => ⟨event, hwarns, hevents⟩⟩
    rw [hnone publication hmem] at hpublication
    cases hpublication

/-- Nothing can be published, although the masters are known. -/
def sealed : World := { masters with published.failing := true }

/-- The name of one master cannot be looked up. -/
def unresolved : World :=
  { masters with zone.failing := ["etcd-1.example.com."] }

theorem sealed_and_unresolved_fail_whole :
    (∃ e, e.isBuildStage = false ∧
      FailedWhole sealed e
        ((Reconcile.syncEndpoints Names.defaultScope).run.asked World.answer sealed)
        (sealed.hold (Reconcile.syncEndpoints Names.defaultScope).run).2) ∧
    ∃ e, e.isBuildStage = true ∧
      FailedWhole unresolved e
        ((Reconcile.syncEndpoints Names.defaultScope).run.asked World.answer unresolved)
        (unresolved.hold (Reconcile.syncEndpoints Names.defaultScope).run).2 := by
  have hsealed : (sealed.hold (Reconcile.syncEndpoints Names.defaultScope).run).1
      = .error (.storeWrite PublishedStore.resource "injected failure") := by decide +kernel
  have hunresolved : (unresolved.hold (Reconcile.syncEndpoints Names.defaultScope).run).1
      = .error (.dnsFailure "etcd-1.example.com." "injected failure") := by decide +kernel
  have honest : ∀ collaborator, ∀ e ∈ (none : Option SyncError),
      Collaborator.Admits collaborator e := nofun
  exact ⟨⟨_, rfl, syncEndpoints_fails_whole rfl honest (Prod.ext hsealed rfl)⟩,
    _, rfl, syncEndpoints_fails_whole rfl honest (Prod.ext hunresolved rfl)⟩

end Rehearsal

end EtcdRoster
