import EtcdRoster.Proofs.Rehearsal.Circumstances

/-!
# What a plan comes to

A plan only reads, so in a world that nobody disturbs it comes to what its answers say at the start:
`World.verdict`, `consult_of_holds`. Answers about the cluster depend on the circumstances alone, so
the verdict changes only with the published object (`verdict_congr`), and with this only through its
bootstrap entry (`verdict_of_find?`).
-/

namespace EtcdRoster.Rehearsal.World

open Dialogue (Holds answering)
open Reconcile (Ask)

variable {w w' : World} {scope : String}

/-- The answers of a world as it is. -/
def answers (w : World) (q : Ask) : q.Answer := (answer q w).1

/-- What a plan comes to in a world that nobody disturbs. -/
def verdict (w : World) (scope : String) : Except SyncError (Endpoints × Endpoints) :=
  (Reconcile.plan scope).run.consult w.answers

theorem through_fst {α : Type} {collaborator : Collaborator}
    {work : World → Except SyncError α × World} (hfaults : w'.faults = w.faults)
    (hwork : (work w').1 = (work w).1) :
    (w'.through collaborator work).1 = (w.through collaborator work).1 := by
  unfold through
  rw [hfaults]
  split
  · rfl
  · exact hwork

/-- The answer to a read of the published object depends on this object alone. -/
theorem answers_readEndpoints (hcircumstances : w'.circumstances = w.circumstances)
    (hobject : w'.published.object = w.published.object) (name scope : String) :
    w'.answers (.readEndpoints name scope) = w.answers (.readEndpoints name scope) := by
  have hfound : w'.published.find? name scope = w.published.find? name scope := by
    rw [PublishedStore.find?, hobject, PublishedStore.find?]
  exact through_fst (congrArg Circumstances.faults hcircumstances) (congrArg Except.ok hfound)

theorem answers_readEndpoints_eq_ok_iff {name scope : String} {found : Option Endpoints} :
    w.answers (.readEndpoints name scope) = .ok found ↔
      w.faults .get = none ∧ w.published.find? name scope = found := by
  simp only [answers, answer, through]
  cases w.faults .get with
  | none =>
    rw [Except.ok.injEq, eq_self, true_and]
    rfl
  | some e =>
    constructor
    · intro h
      cases h
    · rintro ⟨h, -⟩
      cases h

/-- The circumstances decide every answer about the cluster. -/
theorem answers_of_isSurvey {q : Ask} (hq : q.isSurvey = true)
    (hcircumstances : w'.circumstances = w.circumstances) : w'.answers q = w.answers q := by
  have hfaults : w'.faults = w.faults := congrArg Circumstances.faults hcircumstances
  have htopology : w'.topology = w.topology := congrArg Circumstances.topology hcircumstances
  have hzone : w'.zone = w.zone := congrArg Circumstances.zone hcircumstances
  unfold answers
  cases q with
  | memberNodes | networkConfig | infrastructureConfig =>
    rw [answer, answer, through_fst hfaults]
    rw [htopology]
  | lookup question =>
    cases question with
    | service name => exact congrArg (fun z : Dns.Zone => z.service name) hzone
    | host name => exact congrArg (fun z : Dns.Zone => z.host name) hzone
  | _ => cases hq

theorem answers_of_isRead {q : Ask} (hq : q.isRead = true) (queries : Nat) :
    ({ w with serviceQueries := queries } : World).answers q = w.answers q := by
  cases q with
  | createEndpoints | replaceEndpoints | writeConditions | emit | record => cases hq
  | lookup question => cases question <;> rfl
  | readEndpoints | memberNodes | networkConfig | infrastructureConfig | readConditions =>
    exact through_fst rfl rfl
  | clock | elapsed => rfl

/-- A dialogue that only reads comes to what the answers at its start say. -/
theorem consult_of_holds {α : Type} {talk : Reconcile.Talk α} {r : α}
    (alone : w.published.foreign = none) (hasks : talk.Asks (·.isRead = true))
    (h : Holds (answering answer) talk w r w') : talk.consult w.answers = r := by
  induction talk generalizing w with
  | done a => exact (Dialogue.holds_done_iff.mp h).1.symm
  | ask q next ih =>
    obtain ⟨a, m, answered, rest⟩ := Dialogue.holds_ask_iff.mp h
    obtain ⟨queries, hm⟩ := world_answer_of_isRead hasks.1 alone
    rw [show answer q w = (a, m) from answered] at hm
    obtain rfl : m = { w with serviceQueries := queries } := hm
    have ha : w.answers q = a := congrArg Prod.fst answered
    have hrest := ih a (w := { w with serviceQueries := queries }) alone (hasks.2 a) rest
    rw [Dialogue.consult, ha, ← hrest]
    exact (hasks.2 a).consult_congr fun q hq => (answers_of_isRead hq queries).symm

theorem verdict_of_holds {r : Except SyncError (Endpoints × Endpoints)}
    (alone : w.published.foreign = none)
    (h : Holds (answering answer) (Reconcile.plan scope).run w r w') : w.verdict scope = r :=
  consult_of_holds alone (Reconcile.asks_plan scope) h

/-! ## What the verdict depends on -/

theorem consult_draft (hcircumstances : w'.circumstances = w.circumstances)
    (bootstrap : Option EndpointAddress) :
    (Reconcile.draft scope bootstrap).run.consult w'.answers
      = (Reconcile.draft scope bootstrap).run.consult w.answers :=
  (Reconcile.asks_draft scope bootstrap).consult_congr fun _ hq =>
    answers_of_isSurvey hq hcircumstances

/-- The same object in the same circumstances gets the same verdict. -/
theorem verdict_congr (hcircumstances : w'.circumstances = w.circumstances)
    (hobject : w'.published.object = w.published.object) : w'.verdict scope = w.verdict scope := by
  have hread : (Reconcile.readEndpoints Names.published scope).run.consult w'.answers
      = (Reconcile.readEndpoints Names.published scope).run.consult w.answers :=
    answers_readEndpoints hcircumstances hobject _ _
  unfold verdict
  rw [Reconcile.plan_eq_draft, Dialogue.consult_run_bind, Dialogue.consult_run_bind, hread]
  refine bind_congr fun found => ?_
  cases found with
  | none => rfl
  | some published =>
    dsimp only
    rw [Dialogue.consult_run_bind, Dialogue.consult_run_bind, consult_draft hcircumstances]
    rfl

/-- An object with the same bootstrap entry makes the same object desired. -/
theorem verdict_of_find? {before after required : Endpoints}
    (hcircumstances : w'.circumstances = w.circumstances)
    (hfound : w'.published.find? Names.published scope = some after)
    (hbootstrap : Desired.bootstrapAddress? after = Desired.bootstrapAddress? before)
    (h : w.verdict scope = .ok (before, required)) : w'.verdict scope = .ok (after, required) := by
  unfold verdict at h ⊢
  rw [Reconcile.plan_eq_draft] at h ⊢
  obtain ⟨found, hread, hrest⟩ := Dialogue.consult_run_bind_eq_ok_iff.mp h
  cases found with
  | none => cases hrest
  | some published =>
    obtain ⟨drafted, hdraft, hpair⟩ := Dialogue.consult_run_bind_eq_ok_iff.mp hrest
    obtain ⟨rfl, rfl⟩ := Prod.mk.inj (Except.ok.inj hpair)
    refine Dialogue.consult_run_bind_eq_ok_iff.mpr ⟨some after, ?_, ?_⟩
    · have hfault := (answers_readEndpoints_eq_ok_iff.mp hread).1
      rw [← show w'.faults = w.faults from congrArg Circumstances.faults hcircumstances] at hfault
      exact answers_readEndpoints_eq_ok_iff.mpr ⟨hfault, hfound⟩
    · refine Dialogue.consult_run_bind_eq_ok_iff.mpr ⟨drafted, ?_, rfl⟩
      rw [hbootstrap, consult_draft hcircumstances]
      exact hdraft

end EtcdRoster.Rehearsal.World
