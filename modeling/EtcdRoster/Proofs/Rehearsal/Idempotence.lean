import EtcdRoster.Proofs.Rehearsal.Bootstrap
import EtcdRoster.Proofs.Rehearsal.Reporting

/-!
# A second sync

A sync that is run again finds another object, which the first run has written, and another list of
conditions. **Still it comes to the same result and writes nothing**, on success and on failure:
`sync_idempotent`. One run is enough to reach a fixed point because

* `bootstrapAddress?_written_eq` — what a sync writes has the bootstrap entry of what it has found,
  so the same object is desired again (`World.verdict_of_find?`);
* `reconcile_written` — what a sync writes does not differ from what it desires;
* `StatusStore.reported_reported` — what a report writes says what the next one has to say.
-/

namespace EtcdRoster.Rehearsal

open Reconcile (Ask Outcome)
open PublishedStore (version? withVersion nextVersion)

/-! ## What a sync has written is desired -/

/-- The object to write has the bootstrap entry of the published one, or has none either. -/
theorem bootstrapAddress?_written_eq {members : List EndpointAddress}
    (hmembers : ∀ a ∈ members, Desired.isBootstrap a = false) (scope domain : String)
    (before : Endpoints) :
    Desired.bootstrapAddress? (written scope domain members before)
      = Desired.bootstrapAddress? before := by
  cases hb : Desired.bootstrapAddress? before with
  | some b => exact bootstrapAddress?_written hb hmembers
  | none =>
    obtain hkept | hreplaced :=
      Difference.subsets_reconcile before (wanted scope domain members before)
    · rw [bootstrapAddress?_congr hkept, hb]
    · rw [bootstrapAddress?_congr hreplaced, wanted, hb, Option.toList_none, List.append_nil]
      exact List.find?_eq_none.mpr fun a ha => by simp [hmembers a ha]

/-- The object to write is still found under its name. -/
theorem found_written {scope : String} {before : Endpoints}
    (hname : before.metadata.name = some Names.published)
    (hscope : before.metadata.namespace = some scope) (domain : String)
    (members : List EndpointAddress) :
    (written scope domain members before).metadata.name = some Names.published ∧
      (written scope domain members before).metadata.namespace = some scope := by
  have hconverged : Converged domain members before (written scope domain members before) :=
    converged_written hname hscope
  have hkept := hconverged.metadata_eq
  exact ⟨(congrArg ObjectMeta.name hkept).trans hname,
    (congrArg ObjectMeta.namespace hkept).trans hscope⟩

/-- The object that was written does not differ from the desired one. -/
theorem reconcile_written {scope domain : String} {members : List EndpointAddress}
    {before : Endpoints} (hname : before.metadata.name = some Names.published)
    (hscope : before.metadata.namespace = some scope) (version : String) :
    (Difference.reconcile (withVersion (written scope domain members before) version)
      (wanted scope domain members before)).2 = false := by
  have hconverged : Converged domain members before (written scope domain members before) :=
    converged_written hname hscope
  have hdomain := (hconverged.annotation_eq Names.domainAnnotation).trans (if_pos rfl)
  obtain ⟨hname', hscope'⟩ := found_written hname hscope domain members
  refine Difference.reconcile_snd_eq_false (Difference.subsetsEqual_reconcile ..) ?_
  simp only [Difference.mergeMeta, withVersion, wanted, Desired.desired, Desired.hostEndpoints,
    Bool.or_eq_false_iff]
  refine ⟨⟨⟨?_, ?_⟩, rfl⟩, Difference.mergeDict_single_unchanged (by decide) hdomain⟩
  · rw [hscope', Difference.mergeText_self]
  · rw [hname', Difference.mergeText_self]

namespace World

variable {w t : World} {scope : String}

/-- A sync whose plan fails fails so. -/
theorem hold_syncEndpoints_of_error {e : SyncError} (alone : w.published.foreign = none)
    (planned : w.verdict scope = .error e) :
    ∃ queries, w.hold (Reconcile.syncEndpoints scope).run
      = (.error e, { w with serviceQueries := queries }) := by
  obtain ⟨r, t, hsync⟩ : ∃ r t, w.hold (Reconcile.syncEndpoints scope).run = (r, t) :=
    ⟨_, _, rfl⟩
  rw [hsync]
  cases synced_of_hold alone hsync with
  | unplanned e' queries planned' =>
    rw [planned] at planned'
    cases planned'
    exact ⟨queries, rfl⟩
  | unchanged _ _ _ _ planned' =>
    rw [planned] at planned'
    cases planned'
  | updated _ _ _ _ planned' =>
    rw [planned] at planned'
    cases planned'
  | refused _ _ _ _ _ _ planned' =>
    rw [planned] at planned'
    cases planned'

/-- A sync that desires what is published changes nothing. -/
theorem hold_syncEndpoints_of_same {published required : Endpoints}
    (alone : w.published.foreign = none) (planned : w.verdict scope = .ok (published, required))
    (same : (Difference.reconcile published required).2 = false) :
    ∃ queries registry, w.hold (Reconcile.syncEndpoints scope).run
      = (.ok .unchanged, { w with serviceQueries := queries, registry }) := by
  obtain ⟨r, t, hsync⟩ : ∃ r t, w.hold (Reconcile.syncEndpoints scope).run = (r, t) :=
    ⟨_, _, rfl⟩
  rw [hsync]
  cases synced_of_hold alone hsync with
  | unplanned e queries planned' =>
    rw [planned] at planned'
    cases planned'
  | unchanged queries _ _ _ planned' => exact ⟨queries, _, rfl⟩
  | updated _ _ _ differs planned' =>
    rw [planned] at planned'
    cases planned'
    rw [same] at differs
    cases differs
  | refused _ _ _ _ differs _ planned' =>
    rw [planned] at planned'
    cases planned'
    rw [same] at differs
    cases differs

end World

/-- The stores of the published object and of the conditions can be read and written. -/
structure Circumstances.StoresWork (c : Circumstances) : Prop extends c.StatusWorks where
  publishable : c.failing = false
  getFault : c.faults .get = none
  replaceFault : c.faults .replace = none

namespace World

variable {w t : World} {scope : String}

/-- A store that works replaces an object whose version is still the stored one. -/
theorem answers_replace (work : w.circumstances.StoresWork) {e : Endpoints}
    (hversion : version? w.published.object = e.metadata.resourceVersion) :
    w.answers (.replaceEndpoints e) = .ok () := by
  rw [answers, answer_replace work.publishable work.replaceFault, if_pos hversion]

/-- A second sync of the published object comes to what the first came to, and changes nothing. -/
theorem syncEndpoints_again {m u : World} {r : Except SyncError Outcome}
    (alone : w.published.foreign = none) (work : w.circumstances.StoresWork)
    (free : w.circumstances.BootstrapFree)
    (first : w.hold (Reconcile.syncEndpoints scope).run = (r, m))
    (hcircumstances : u.circumstances = w.circumstances)
    (hpublished : u.published = m.published) :
    ∃ r' queries registry, (r'.map fun _ => ()) = (r.map fun _ => ()) ∧
      u.hold (Reconcile.syncEndpoints scope).run
        = (r', { u with serviceQueries := queries, registry }) := by
  cases synced_of_hold alone first with
  | unplanned e queries planned =>
    have halone : u.published.foreign = none := hpublished ▸ alone
    have hobject : u.published.object = w.published.object := by rw [hpublished]
    obtain ⟨queries', hsecond⟩ := hold_syncEndpoints_of_error halone
      ((verdict_congr hcircumstances hobject).trans planned)
    exact ⟨_, queries', u.registry, rfl, hsecond⟩
  | unchanged queries found decided same planned =>
    have halone : u.published.foreign = none := hpublished ▸ alone
    have hobject : u.published.object = w.published.object := by rw [hpublished]
    obtain ⟨queries', registry, hsecond⟩ := hold_syncEndpoints_of_same halone
      ((verdict_congr hcircumstances hobject).trans planned) same
    exact ⟨_, queries', registry, rfl, hsecond⟩
  | @updated before domain members queries found decided differs planned =>
    have halone : u.published.foreign = none := hpublished ▸ alone
    obtain ⟨-, hname, hscope⟩ := PublishedStore.find?_eq_some_iff.mp found
    have hobject := congrArg PublishedStore.object hpublished
    have hagain := PublishedStore.find?_eq_some_iff.mpr
      ⟨hobject, found_written hname hscope domain members⟩
    have hbootstrap :=
      bootstrapAddress?_written_eq (decided.not_bootstrap free) scope domain before
    obtain ⟨queries', registry, hsecond⟩ := hold_syncEndpoints_of_same halone
      (verdict_of_find? hcircumstances hagain hbootstrap planned)
      (reconcile_written hname hscope _)
    exact ⟨.ok .unchanged, queries', registry, rfl, hsecond⟩
  | refused e queries found decided differs refusal planned =>
    obtain ⟨hobject, -, -⟩ := PublishedStore.find?_eq_some_iff.mp found
    rw [answers_replace (w := { w with serviceQueries := queries }) work] at refusal
    · cases refusal
    · rw [Difference.resourceVersion_reconcile]
      exact congrArg version? hobject

/-- A whole sync is the sync of the published object and what is concluded from it. -/
theorem hold_sync {r : Except SyncError Outcome} (work : w.circumstances.StatusWorks)
    (h : w.hold (Reconcile.syncEndpoints scope).run = (r, t)) :
    ∃ registry, w.hold (Reconcile.sync scope) = (r.map fun _ => (), { t with
      status := t.status.reported (r.map fun _ => ()) t.clock
      registry }) := by
  have hcircumstances := circumstances_hold (Reconcile.syncEndpoints scope).run w
  rw [h] at hcircumstances
  obtain ⟨registry, hconclude⟩ := hold_conclude (w := t) (hcircumstances ▸ work) r
  exact ⟨registry, by rw [Reconcile.sync_eq_conclude, hold_bind, h, hconclude]⟩

end World

/-- **A second sync writes nothing.** With stores that work and nobody else who writes, whatever is
published and reported, a sync that follows a sync at any later time comes to the same result and
leaves all but the metrics and the count of service queries as they are, in particular the stores of
the published object and of the conditions with their counts of writes. -/
theorem sync_idempotent {w after : World} {scope : String} {r : Except SyncError Unit}
    (alone : w.published.foreign = none) (work : w.circumstances.StoresWork)
    (free : w.circumstances.BootstrapFree) (distinct : Conditions.Distinct w.status.conditions)
    (first : w.hold (Reconcile.sync scope) = (r, after)) (later : String) :
    ∃ queries registry, ({ after with clock := later } : World).hold (Reconcile.sync scope)
      = (r, { after with clock := later, serviceQueries := queries, registry }) := by
  obtain ⟨r₁, m, hfirst⟩ : ∃ r₁ m, w.hold (Reconcile.syncEndpoints scope).run = (r₁, m) :=
    ⟨_, _, rfl⟩
  obtain ⟨registry₁, hsync⟩ := World.hold_sync work.toStatusWorks hfirst
  obtain ⟨hr, hafter⟩ := Prod.mk.inj (first.symm.trans hsync)
  have hpublished : after.published = m.published := by rw [hafter]
  have hstatus : after.status = w.status.reported r m.clock := by
    rw [hafter, hr]
    cases World.synced_of_hold alone hfirst <;> rfl
  have hcircumstances : after.circumstances = w.circumstances := by
    have hkept := World.circumstances_hold (Reconcile.sync scope) w
    rwa [first] at hkept
  have hworks : ({ after with clock := later } : World).circumstances.StatusWorks :=
    hcircumstances ▸ work.toStatusWorks
  obtain ⟨r₂, queries, registry₂, hresult, hsecond⟩ := World.syncEndpoints_again
    (u := { after with clock := later }) alone work free hfirst hcircumstances hpublished
  obtain ⟨registry₃, hagain⟩ := World.hold_sync hworks hsecond
  refine ⟨queries, registry₃, ?_⟩
  have hreported : after.status.reported r later = after.status := by
    rw [hstatus, StatusStore.reported_reported distinct]
  rw [hagain, hresult, ← hr, hreported]

/-- The masters, with an operator that has reported on something else and on a failed sync. -/
def recovering : World :=
  { masters with
    status.conditions := [
      { type := "Available", status := Names.conditionTrue },
      { type := Names.degraded
        status := Names.conditionTrue
        reason := some Names.errorReason
        message := some SyncError.noReadyMembers.message
        lastTransitionTime := some "2020-01-01T00:00:00Z" }]
    clock := "2020-01-01T00:01:00Z" }

theorem recovering_idempotent :
    let synced := recovering.hold (Reconcile.sync Names.defaultScope)
    synced.1 = .ok () ∧ synced.2.published.writes = 1 ∧ synced.2.status.writes = 1 ∧
    ∃ queries registry, ({ synced.2 with clock := "2020-01-01T00:02:00Z" } : World).hold
        (Reconcile.sync Names.defaultScope)
      = (.ok (), { synced.2 with
          clock := "2020-01-01T00:02:00Z", serviceQueries := queries, registry }) := by
  have hsynced : (recovering.hold (Reconcile.sync Names.defaultScope)).1 = .ok () ∧
      (recovering.hold (Reconcile.sync Names.defaultScope)).2.published.writes = 1 ∧
      (recovering.hold (Reconcile.sync Names.defaultScope)).2.status.writes = 1 := by
    decide +kernel
  obtain ⟨synced, published, reported⟩ := hsynced
  have work : recovering.circumstances.StoresWork := ⟨⟨rfl, rfl, rfl⟩, rfl, rfl, rfl⟩
  have free : recovering.circumstances.BootstrapFree := by decide +kernel
  have distinct : Conditions.Distinct recovering.status.conditions := by decide +kernel
  exact ⟨synced, published, reported,
    sync_idempotent rfl work free distinct (Prod.ext synced rfl) _⟩

end EtcdRoster.Rehearsal
