import EtcdRoster.Proofs.Difference.Subsets
import EtcdRoster.Proofs.Rehearsal.Verdict

/-!
# A sync that nobody disturbs

If nobody else writes the published object, both reads of a sync see the same object, so it is never
created, and a replacement never meets a conflict. What remains are four ways to end, each with the
whole world after it: `Synced`, `synced_of_hold`.
-/

namespace EtcdRoster.Rehearsal

open Dialogue (Holds answering)
open Reconcile (Ask Outcome)

namespace PublishedStore

theorem find?_eq_some_iff {s : PublishedStore} {name scope : String} {e : Endpoints} :
    s.find? name scope = some e ↔
      s.object = some e ∧ e.metadata.name = some name ∧ e.metadata.namespace = some scope := by
  simp [find?, Option.filter_eq_some_iff]

end PublishedStore

namespace World

open PublishedStore (version? withVersion nextVersion)

variable {w m : World}

/-! ## Answers about the published object -/

theorem answer_read_some {name scope : String} {e : Endpoints}
    (h : answer (.readEndpoints name scope) w = (.ok (some e), m)) :
    w.published.find? name scope = some e ∧
      m = { w with published := w.published.interfere } := by
  simp only [answer, through] at h
  cases hfault : w.faults .get with
  | none =>
    simp only [hfault, PublishedStore.read, Prod.mk.injEq, Except.ok.injEq] at h
    exact ⟨h.1, h.2.symm⟩
  | some e => simp [hfault] at h

/-- A store that works replaces the object exactly if its version is still the one carried. -/
theorem answer_replace (publishable : w.published.failing = false)
    (works : w.faults .replace = none) (e : Endpoints) :
    answer (.replaceEndpoints e) w =
      if version? w.published.object = e.metadata.resourceVersion then
        (.ok (), { w with published := { w.published with
          object := some (withVersion e (nextVersion (version? w.published.object)))
          replaces := w.published.replaces + 1 } })
      else (.error (.conflict PublishedStore.resource "the object has been modified"), w) := by
  rw [answer, through, works]
  dsimp only
  rw [PublishedStore.replace, publishable, if_neg Bool.false_ne_true, ite_not]
  split <;> rfl

/-- A replacement that succeeds carried the stored version. -/
theorem answer_replace_ok {e : Endpoints} (h : answer (.replaceEndpoints e) w = (.ok (), m)) :
    version? w.published.object = e.metadata.resourceVersion ∧
      m = { w with published := { w.published with
        object := some (withVersion e (nextVersion (version? w.published.object)))
        replaces := w.published.replaces + 1 } } := by
  simp only [answer, through, PublishedStore.replace] at h
  cases hfault : w.faults .replace <;> rw [hfault] at h
  · dsimp only at h
    by_cases hfailing : w.published.failing = true
    · rw [if_pos hfailing] at h
      cases h
    rw [if_neg hfailing] at h
    by_cases hversion : version? w.published.object = e.metadata.resourceVersion
    · rw [if_neg (not_not_intro hversion)] at h
      cases h
      exact ⟨hversion, rfl⟩
    · rw [if_pos hversion] at h
      cases h
  · cases h

/-- A replacement that fails changes nothing. -/
theorem answer_replace_error {e : Endpoints} {error : SyncError}
    (h : answer (.replaceEndpoints e) w = (.error error, m)) : m = w := by
  simp only [answer, through, PublishedStore.replace] at h
  cases hfault : w.faults .replace <;> rw [hfault] at h
  · dsimp only at h
    split at h
    · cases h
      rfl
    · split at h <;> cases h
      rfl
  · cases h
    rfl

end World

/-! ## The ways to end -/

/-- The desired object of a plan. -/
abbrev wanted (scope domain : String) (members : List EndpointAddress) (before : Endpoints) :
    Endpoints :=
  Desired.desired scope domain (members ++ (Desired.bootstrapAddress? before).toList)

/-- The object that replaces the published one, but for its version. -/
abbrev written (scope domain : String) (members : List EndpointAddress) (before : Endpoints) :
    Endpoints :=
  (Difference.reconcile before (wanted scope domain members before)).1

/-- The object to write publishes exactly the desired addresses, in some order. -/
theorem firstAddresses_reconcile_perm (existing : Endpoints) (scope domain : String)
    (addresses : List EndpointAddress) :
    (Difference.reconcile existing (Desired.desired scope domain addresses)).1.firstAddresses.Perm
      addresses := by
  obtain ⟨subset, hsubsets, hequal⟩ := Difference.exists_subset_reconcile existing
    (Desired.desired scope domain addresses) rfl
  have hperm : (subset.addresses.getD []).Perm addresses := Difference.perm_of_subsetEqual hequal
  rw [Endpoints.firstAddresses, hsubsets]
  exact hperm

/-- The results and worlds in which an undisturbed sync of the published object can end. -/
inductive Synced (w : World) (scope : String) : Except SyncError Outcome → World → Prop
  /-- It has not even found out what to write. -/
  | unplanned (e : SyncError) (queries : Nat) (planned : w.verdict scope = .error e) :
      Synced w scope (.error e) { w with serviceQueries := queries }
  | unchanged {before : Endpoints} {domain : String} {members : List EndpointAddress}
      (queries : Nat) (found : w.published.find? Names.published scope = some before)
      (decided : w.circumstances.Members domain members)
      (same : (Difference.reconcile before (wanted scope domain members before)).2 = false)
      (planned : w.verdict scope = .ok (before, wanted scope domain members before)) :
      Synced w scope (.ok .unchanged) { w with
        serviceQueries := queries
        registry := w.registry.record
          (.published (wanted scope domain members before).firstAddresses.length) }
  | updated {before : Endpoints} {domain : String} {members : List EndpointAddress}
      (queries : Nat) (found : w.published.find? Names.published scope = some before)
      (decided : w.circumstances.Members domain members)
      (differs : (Difference.reconcile before (wanted scope domain members before)).2 = true)
      (planned : w.verdict scope = .ok (before, wanted scope domain members before)) :
      Synced w scope (.ok .updated) { w with
        serviceQueries := queries
        published := { w.published with
          object := some (PublishedStore.withVersion (written scope domain members before)
            (PublishedStore.nextVersion before.metadata.resourceVersion))
          replaces := w.published.replaces + 1 }
        events := w.events ++ [Reconcile.updatedEvent Names.published scope
          (Difference.patch before (written scope domain members before))]
        registry := (w.registry.record (.write Outcome.updated.label)).record
          (.published (wanted scope domain members before).firstAddresses.length) }
  /-- The replacement has failed. -/
  | refused {before : Endpoints} {domain : String} {members : List EndpointAddress}
      (e : SyncError) (queries : Nat)
      (found : w.published.find? Names.published scope = some before)
      (decided : w.circumstances.Members domain members)
      (differs : (Difference.reconcile before (wanted scope domain members before)).2 = true)
      (refusal : World.answers { w with serviceQueries := queries }
        (.replaceEndpoints (written scope domain members before)) = .error e)
      (planned : w.verdict scope = .ok (before, wanted scope domain members before)) :
      Synced w scope (.error e) { w with
        serviceQueries := queries
        events := w.events ++ [Reconcile.updateFailedEvent Names.published scope e] }

/-- After a sync that succeeds, the stored object has the subsets of the object to write, also when
nothing was written. -/
theorem Synced.stored {w m : World} {scope : String} {outcome : Outcome}
    (h : Synced w scope (.ok outcome) m) :
    ∃ before result domain members, w.published.find? Names.published scope = some before ∧
      w.circumstances.Members domain members ∧ m.published.object = some result ∧
      result.subsets = (written scope domain members before).subsets := by
  cases h with
  | unchanged queries found decided same =>
    obtain ⟨hobject, -, -⟩ := PublishedStore.find?_eq_some_iff.mp found
    have hkept := congrArg Endpoints.subsets (Difference.reconcile_unchanged same)
    exact ⟨_, _, _, _, found, decided, hobject, hkept.symm⟩
  | updated queries found decided differs => exact ⟨_, _, _, _, found, decided, rfl, rfl⟩

namespace World

variable {w t : World} {scope : String}

theorem holds_hold_iff {α : Type} {talk : Reconcile.Talk α} {r : α} :
    Holds (answering answer) talk w r t ↔ w.hold talk = (r, t) :=
  Dialogue.holds_answering_iff

/-- A dialogue that only reads leaves the world as it is, but for the count of service queries. -/
theorem world_of_asks_isRead {α : Type} {talk : Reconcile.Talk α} {r : α}
    (alone : w.published.foreign = none) (hasks : talk.Asks (·.isRead = true))
    (h : Holds (answering answer) talk w r t) :
    ∃ queries, t = { w with serviceQueries := queries } := by
  refine h.invariant (I := fun w' => ∃ n, w' = { w with serviceQueries := n }) ?_ hasks
    ⟨w.serviceQueries, rfl⟩
  rintro q _ a m hq ⟨n, rfl⟩ answered
  obtain ⟨n', hn⟩ := world_answer_of_isRead (w := { w with serviceQueries := n }) hq alone
  rw [show answer q { w with serviceQueries := n } = (a, m) from answered] at hn
  exact ⟨n', hn⟩

/-- An undisturbed sync of the published object ends in one of the four ways. -/
theorem synced_of_hold {r : Except SyncError Outcome} (alone : w.published.foreign = none)
    (h : w.hold (Reconcile.syncEndpoints scope).run = (r, t)) : Synced w scope r t := by
  obtain ⟨e, hplan, rfl⟩ | ⟨published, required, m, hplan, hrest⟩ :=
    Reconcile.synced_of_holds (holds_hold_iff.mpr h)
  · obtain ⟨queries, rfl⟩ := world_of_asks_isRead alone (Reconcile.asks_plan scope) hplan
    exact .unplanned e queries (verdict_of_holds alone hplan)
  obtain ⟨queries, rfl⟩ := world_of_asks_isRead alone (Reconcile.asks_plan scope) hplan
  have informs : ∀ q s a m, s.circumstances = w.circumstances → answering answer q s a m →
      m.circumstances = w.circumstances ∧ w.circumstances.Informs q a := by
    intro q s a m hs answered
    have hinforms := Circumstances.informs_answer q s
    have hkeeps := circumstances_answer q s
    rw [show answer q s = (a, m) from answered, hs] at hinforms hkeeps
    exact ⟨hkeeps, hinforms⟩
  obtain ⟨s₁, domain, members, hread, -, hmembers, rfl⟩ :=
    Circumstances.built_of_holds informs rfl hplan
  have hverdict := verdict_of_holds alone hplan
  obtain ⟨hfault, hfound⟩ := answers_readEndpoints_eq_ok_iff.mp (congrArg Prod.fst hread)
  have hobject := (PublishedStore.find?_eq_some_iff.mp hfound).1
  -- Reading again finds the same object, so it is never missing.
  have hagain : ∀ {a : Except SyncError (Option Endpoints)} {n : World},
      answer (.readEndpoints Names.published scope) { w with serviceQueries := queries } = (a, n) →
        a = .ok (some published) ∧ n = { w with serviceQueries := queries } := by
    intro a n hanswer
    have hsame : World.answers { w with serviceQueries := queries }
        (.readEndpoints Names.published scope) = .ok (some published) :=
      answers_readEndpoints_eq_ok_iff.mpr ⟨hfault, hfound⟩
    have ha : a = .ok (some published) := (congrArg Prod.fst hanswer).symm.trans hsame
    subst ha
    obtain ⟨-, rfl⟩ := answer_read_some hanswer
    exact ⟨rfl, by simp only [interfere_eq_self alone]⟩
  obtain ⟨e, happly, rfl⟩ | ⟨outcome, n, happly, hcounted, rfl⟩ := hrest
  · cases happly with
    | unreadable read => cases (hagain read).1
    | createFailed read => cases (hagain read).1
    | updateFailed read differs wrote told =>
      obtain ⟨hexisting, rfl⟩ := hagain read
      cases hexisting
      obtain rfl := answer_replace_error wrote
      cases told
      exact .refused e queries hfound hmembers differs (congrArg Prod.fst wrote)
        hverdict
  · cases happly with
    | created read => cases (hagain read).1
    | unchanged read same =>
      obtain ⟨hexisting, rfl⟩ := hagain read
      cases hexisting
      cases hcounted
      exact .unchanged queries hfound hmembers same hverdict
    | updated read differs wrote told counted =>
      obtain ⟨hexisting, rfl⟩ := hagain read
      cases hexisting
      obtain ⟨-, rfl⟩ := answer_replace_ok wrote
      cases told
      cases counted
      cases hcounted
      have hversion : PublishedStore.version? w.published.object
          = published.metadata.resourceVersion := by rw [hobject]; rfl
      rw [hversion]
      exact .updated queries hfound hmembers differs hverdict

end World

end EtcdRoster.Rehearsal
