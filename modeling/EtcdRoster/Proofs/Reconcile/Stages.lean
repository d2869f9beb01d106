import EtcdRoster.Proofs.Dialogue.Holding
import EtcdRoster.Reconcile.Sync

/-!
# The stages of a sync

A sync first plans, which only reads, then applies its plan and at last reports. This file says once
what each stage can ask and how it can end, whoever answers, so that no later proof opens the
dialogues again.

* `syncEndpoints_eq_plan` — a sync of the object is a plan, an application of it and a count;
  `plan_eq_draft` — a plan is made from the published object and a draft, which only asks about the
  cluster.
* `asks_plan`, `asks_report`, `asks_conclude` — planning only reads; reporting never writes the
  published object, and counts nothing itself.
* `planned_of_holds` — what a plan that succeeds has read and computed.
* `applied_of_holds` — the six ways in which an application ends.
-/

namespace EtcdRoster.Reconcile

open Dialogue (Holds Answering Asks)

/-! ## Kinds of questions -/

/-- Questions that only read. -/
def Ask.isRead : Ask → Bool
  | .createEndpoints _ | .replaceEndpoints _ | .writeConditions _ | .emit _ | .record _ => false
  | _ => true

/-- Questions about the cluster itself. -/
def Ask.isSurvey : Ask → Bool
  | .memberNodes _ | .networkConfig _ | .infrastructureConfig _ | .lookup _ => true
  | _ => false

theorem Ask.isRead_of_isSurvey {q : Ask} (h : q.isSurvey = true) : q.isRead = true := by
  cases q <;> first | rfl | cases h

/-- Questions that write the published object. -/
def Ask.isPublication : Ask → Bool
  | .createEndpoints _ | .replaceEndpoints _ => true
  | _ => false

/-- Questions that neither write the published object nor count anything. -/
def Ask.isSilent : Ask → Bool
  | .createEndpoints _ | .replaceEndpoints _ | .record _ => false
  | _ => true

theorem Ask.isSilent_of_isRead {q : Ask} (h : q.isRead = true) : q.isSilent = true := by
  cases q <;> first | rfl | cases h

theorem Ask.not_isPublication_of_isSilent {q : Ask} (h : q.isSilent = true) :
    q.isPublication = false := by
  cases q <;> first | rfl | cases h

/-! ## The parts -/

/-- The part of a sync that only reads: the published object and the desired one. -/
def plan (scope : String) : ExceptT SyncError Talk (Endpoints × Endpoints) := do
  let some published ← readEndpoints Names.published scope
    | throw (.preconditionNotFound Names.published scope)
  let infrastructure ← infrastructureConfig Names.cluster
  let some domain := infrastructure.discoveryDomain? | throw (.configMissing Names.cluster)
  let network ← networkConfig Names.cluster
  let nodes ← memberNodes Names.memberLabel
  let required ←
    inquire (Desired.build nodes network domain (Desired.bootstrapAddress? published) scope)
  return (published, required)

/-- The part of a plan that asks about the cluster and makes the desired object. -/
def draft (scope : String) (bootstrap : Option EndpointAddress) :
    ExceptT SyncError Talk Endpoints := do
  let infrastructure ← infrastructureConfig Names.cluster
  let some domain := infrastructure.discoveryDomain? | throw (.configMissing Names.cluster)
  let network ← networkConfig Names.cluster
  let nodes ← memberNodes Names.memberLabel
  inquire (Desired.build nodes network domain bootstrap scope)

/-- The part of a sync that measures and reports the result. -/
def conclude (result : Except SyncError Outcome) : Talk (Except SyncError Unit) := do
  let took ← elapsed
  match result with
  | .ok _ =>
    record (.succeeded took)
    report (.ok ())
  | .error e =>
    record (.failed took)
    record (.error e.label)
    report (.error e)

/-- A sync of the published object plans, applies the plan and counts what is published. -/
theorem syncEndpoints_eq_plan (scope : String) :
    syncEndpoints scope = do
      let planned ← plan scope
      let outcome ← apply planned.2
      ExceptT.lift (record (.published planned.2.firstAddresses.length))
      return outcome := by
  unfold syncEndpoints plan
  rw [bind_assoc]
  refine bind_congr fun found => ?_
  cases found with
  | none => rfl
  | some published =>
    dsimp only
    rw [bind_assoc]
    refine bind_congr fun infrastructure => ?_
    cases infrastructure.discoveryDomain? with
    | none => rfl
    | some domain => simp only [bind_assoc, pure_bind]

/-- A plan needs the bootstrap entry of the published object and nothing else of it. -/
theorem plan_eq_draft (scope : String) :
    plan scope = do
      let some published ← readEndpoints Names.published scope
        | throw (.preconditionNotFound Names.published scope)
      let required ← draft scope (Desired.bootstrapAddress? published)
      return (published, required) := by
  unfold plan draft
  refine bind_congr fun found => ?_
  cases found with
  | none => rfl
  | some published =>
    dsimp only
    rw [bind_assoc]
    refine bind_congr fun infrastructure => ?_
    cases infrastructure.discoveryDomain? with
    | none => rfl
    | some domain => simp only [bind_assoc]

theorem sync_eq_conclude (scope : String) :
    sync scope = (syncEndpoints scope).run.bind conclude := rfl

/-! ## What the parts ask -/

theorem asks_inquire {α : Type} (inquiry : ExceptT SyncError Dns.Inquiry α) :
    (inquire inquiry).run.Asks (·.isSurvey = true) := by
  suffices h : ∀ d : Dns.Inquiry (Except SyncError α),
      Asks (·.isSurvey = true) (d.interpret fun question =>
        Dialogue.question (A := Ask.Answer) (.lookup question)) from h inquiry.run
  intro d
  induction d with
  | done => trivial
  | ask q next ih => exact ⟨rfl, fun a => ih a⟩

/-- A draft only asks about the cluster. -/
theorem asks_draft (scope : String) (bootstrap : Option EndpointAddress) :
    (draft scope bootstrap).run.Asks (·.isSurvey = true) := by
  unfold draft
  refine Dialogue.asks_run_bind (Dialogue.asks_question rfl) fun infrastructure => ?_
  cases infrastructure.discoveryDomain? with
  | none => trivial
  | some domain =>
    refine Dialogue.asks_run_bind (Dialogue.asks_question rfl) fun network => ?_
    exact Dialogue.asks_run_bind (Dialogue.asks_question rfl) fun nodes => asks_inquire _

/-- Planning only reads. -/
theorem asks_plan (scope : String) : (plan scope).run.Asks (·.isRead = true) := by
  rw [plan_eq_draft]
  refine Dialogue.asks_run_bind (Dialogue.asks_question rfl) fun found => ?_
  cases found with
  | none => trivial
  | some published =>
    have hdraft := (asks_draft scope (Desired.bootstrapAddress? published)).mono
      fun _ => Ask.isRead_of_isSurvey
    exact Dialogue.asks_run_bind hdraft fun required => trivial

theorem asks_setDegraded (degraded : Bool) (reason message : String) :
    (setDegraded degraded reason message).Asks (·.isSilent = true) := by
  refine Dialogue.asks_bind (Dialogue.asks_question rfl) fun conditions => ?_
  cases conditions with
  | error e => trivial
  | ok current =>
    refine Dialogue.asks_bind (Dialogue.asks_question rfl) fun now => ?_
    dsimp only
    split
    · trivial
    · refine Dialogue.asks_bind (Dialogue.asks_question rfl) fun written => ?_
      cases written <;> trivial

/-- Reporting writes the condition and tells of failures, and does nothing else. -/
theorem asks_report (result : Except SyncError Unit) :
    (report result).Asks (·.isSilent = true) := by
  cases result with
  | error e =>
    refine Dialogue.asks_bind (asks_setDegraded _ _ _) fun written => ?_
    cases written with
    | error statusError => exact ⟨rfl, fun _ => trivial⟩
    | ok _ => trivial
  | ok _ =>
    refine Dialogue.asks_bind (asks_setDegraded _ _ _) fun written => ?_
    cases written with
    | error statusError => exact ⟨rfl, fun _ => trivial⟩
    | ok _ => trivial

/-- Reporting never writes the published object. -/
theorem asks_conclude (result : Except SyncError Outcome) :
    (conclude result).Asks (·.isPublication = false) := by
  have hreport : ∀ told, (report told).Asks (·.isPublication = false) := fun told =>
    (asks_report told).mono fun _ => Ask.not_isPublication_of_isSilent
  refine Dialogue.asks_bind (Dialogue.asks_question rfl) fun took => ?_
  cases result with
  | error e =>
    refine Dialogue.asks_bind (Dialogue.asks_question rfl) fun _ => ?_
    exact Dialogue.asks_bind (Dialogue.asks_question rfl) fun _ => hreport _
  | ok outcome => exact Dialogue.asks_bind (Dialogue.asks_question rfl) fun _ => hreport _

/-! ## How the parts end -/

variable {σ : Type} {step : Answering Ask.Answer σ} {s t : σ} {scope : String}

/-- What a plan that succeeds has read, question by question, and computed. -/
theorem planned_of_holds {published required : Endpoints}
    (h : Holds step (plan scope).run s (.ok (published, required)) t) :
    ∃ infrastructure domain network nodes s₁ s₂ s₃ s₄,
      step (.readEndpoints Names.published scope) s (.ok (some published)) s₁ ∧
      step (.infrastructureConfig Names.cluster) s₁ (.ok infrastructure) s₂ ∧
      infrastructure.discoveryDomain? = some domain ∧
      step (.networkConfig Names.cluster) s₂ (.ok network) s₃ ∧
      step (.memberNodes Names.memberLabel) s₃ (.ok nodes) s₄ ∧
      Holds step (inquire (Desired.build nodes network domain
        (Desired.bootstrapAddress? published) scope)).run s₄ (.ok required) t := by
  unfold plan at h
  obtain ⟨e, -, hne⟩ | ⟨found, s₁, hread, h⟩ := Dialogue.holds_run_bind_iff.mp h
  · cases hne
  cases found with
  | none => cases (Dialogue.holds_run_throw_iff.mp h).1
  | some read =>
    obtain ⟨e, -, hne⟩ | ⟨infrastructure, s₂, hinfra, h⟩ := Dialogue.holds_run_bind_iff.mp h
    · cases hne
    cases hdomain : infrastructure.discoveryDomain? with
    | none =>
      rw [hdomain] at h
      cases (Dialogue.holds_run_throw_iff.mp h).1
    | some domain =>
      rw [hdomain] at h
      obtain ⟨e, -, hne⟩ | ⟨network, s₃, hnetwork, h⟩ := Dialogue.holds_run_bind_iff.mp h
      · cases hne
      obtain ⟨e, -, hne⟩ | ⟨nodes, s₄, hnodes, h⟩ := Dialogue.holds_run_bind_iff.mp h
      · cases hne
      obtain ⟨e, -, hne⟩ | ⟨built, s₅, hbuilt, h⟩ := Dialogue.holds_run_bind_iff.mp h
      · cases hne
      obtain ⟨hpair, rfl⟩ := Dialogue.holds_run_pure_iff.mp h
      cases hpair
      exact ⟨infrastructure, domain, network, nodes, s₁, s₂, s₃, s₄,
        Dialogue.holds_question_iff.mp hread, Dialogue.holds_question_iff.mp hinfra, hdomain,
        Dialogue.holds_question_iff.mp hnetwork, Dialogue.holds_question_iff.mp hnodes, hbuilt⟩

/-- The name under which an application reads the published object. -/
abbrev readName (required : Endpoints) : String := required.metadata.nameOrGenerated

/-- The namespace in which an application reads the published object. -/
abbrev readScope (required : Endpoints) : String := required.metadata.namespace.getD ""

/-- The ways in which an application ends. -/
inductive Applied (step : Answering Ask.Answer σ) (required : Endpoints) (s : σ) :
    Except SyncError Outcome → σ → Prop
  | unreadable {e : SyncError} {t : σ}
      (read : step (.readEndpoints (readName required) (readScope required)) s (.error e) t) :
      Applied step required s (.error e) t
  | created {m n o t : σ}
      (read : step (.readEndpoints (readName required) (readScope required)) s (.ok none) m)
      (wrote : step (.createEndpoints required) m (.ok ()) n)
      (told : step (.emit (createdEvent (readName required) (readScope required))) n () o)
      (counted : step (.record (.write Outcome.created.label)) o () t) :
      Applied step required s (.ok .created) t
  | createFailed {e : SyncError} {m n t : σ}
      (read : step (.readEndpoints (readName required) (readScope required)) s (.ok none) m)
      (wrote : step (.createEndpoints required) m (.error e) n)
      (told : step (.emit (createFailedEvent (readName required) (readScope required) e)) n () t) :
      Applied step required s (.error e) t
  | unchanged {existing : Endpoints} {t : σ}
      (read : step (.readEndpoints (readName required) (readScope required)) s
        (.ok (some existing)) t)
      (same : (Difference.reconcile existing required).2 = false) :
      Applied step required s (.ok .unchanged) t
  | updated {existing : Endpoints} {m n o t : σ}
      (read : step (.readEndpoints (readName required) (readScope required)) s
        (.ok (some existing)) m)
      (differs : (Difference.reconcile existing required).2 = true)
      (wrote : step (.replaceEndpoints (Difference.reconcile existing required).1) m (.ok ()) n)
      (told : step (.emit (updatedEvent (readName required) (readScope required)
        (Difference.patch existing (Difference.reconcile existing required).1))) n () o)
      (counted : step (.record (.write Outcome.updated.label)) o () t) :
      Applied step required s (.ok .updated) t
  | updateFailed {existing : Endpoints} {e : SyncError} {m n t : σ}
      (read : step (.readEndpoints (readName required) (readScope required)) s
        (.ok (some existing)) m)
      (differs : (Difference.reconcile existing required).2 = true)
      (wrote : step (.replaceEndpoints (Difference.reconcile existing required).1) m (.error e) n)
      (told : step (.emit (updateFailedEvent (readName required) (readScope required) e)) n () t) :
      Applied step required s (.error e) t

theorem holds_question_bind_iff {α : Type} {q : Ask} {f : q.Answer → Talk α} {r : α} :
    Holds step ((Dialogue.question (A := Ask.Answer) q).bind f) s r t ↔
      ∃ a m, step q s a m ∧ Holds step (f a) m r t := by
  simp only [Dialogue.holds_bind_iff, Dialogue.holds_question_iff]

/-- An application ends in one of the six ways. -/
theorem applied_of_holds {required : Endpoints} {r : Except SyncError Outcome}
    (h : Holds step (apply required).run s r t) : Applied step required s r t := by
  unfold apply at h
  obtain ⟨e, hread, rfl⟩ | ⟨found, m, hread, h⟩ := Dialogue.holds_run_bind_iff.mp h
  · exact .unreadable (Dialogue.holds_question_iff.mp hread)
  have hread := Dialogue.holds_question_iff.mp hread
  cases found with
  | none =>
    obtain ⟨wrote, n, hwrote, h⟩ := holds_question_bind_iff.mp h
    cases wrote with
    | ok _ =>
      obtain ⟨_, o, htold, h⟩ := holds_question_bind_iff.mp h
      obtain ⟨_, p, hcounted, h⟩ := holds_question_bind_iff.mp h
      obtain ⟨rfl, rfl⟩ := Dialogue.holds_done_iff.mp h
      exact .created hread hwrote htold hcounted
    | error e =>
      obtain ⟨_, o, htold, h⟩ := holds_question_bind_iff.mp h
      obtain ⟨rfl, rfl⟩ := Dialogue.holds_done_iff.mp h
      exact .createFailed hread hwrote htold
  | some existing =>
    dsimp only at h
    cases hdiffers : (Difference.reconcile existing required).2 with
    | false =>
      rw [hdiffers, if_neg (by decide)] at h
      obtain ⟨rfl, rfl⟩ := Dialogue.holds_run_pure_iff.mp h
      exact .unchanged hread hdiffers
    | true =>
      rw [hdiffers, if_pos rfl] at h
      obtain ⟨wrote, n, hwrote, h⟩ := holds_question_bind_iff.mp h
      cases wrote with
      | ok _ =>
        obtain ⟨_, o, htold, h⟩ := holds_question_bind_iff.mp h
        obtain ⟨_, p, hcounted, h⟩ := holds_question_bind_iff.mp h
        obtain ⟨rfl, rfl⟩ := Dialogue.holds_done_iff.mp h
        exact .updated hread hdiffers hwrote htold hcounted
      | error e =>
        obtain ⟨_, o, htold, h⟩ := holds_question_bind_iff.mp h
        obtain ⟨rfl, rfl⟩ := Dialogue.holds_done_iff.mp h
        exact .updateFailed hread hdiffers hwrote htold

/-- A sync that fails has failed while planning or while applying its plan; one that succeeds has
done both and counted what is published. -/
theorem synced_of_holds {r : Except SyncError Outcome}
    (h : Holds step (syncEndpoints scope).run s r t) :
    (∃ e, Holds step (plan scope).run s (.error e) t ∧ r = .error e) ∨
    ∃ published required m, Holds step (plan scope).run s (.ok (published, required)) m ∧
      ((∃ e, Applied step required m (.error e) t ∧ r = .error e) ∨
      ∃ outcome n, Applied step required m (.ok outcome) n ∧
        step (.record (.published required.firstAddresses.length)) n () t ∧ r = .ok outcome) := by
  rw [syncEndpoints_eq_plan] at h
  obtain ⟨e, hplan, rfl⟩ | ⟨⟨published, required⟩, m, hplan, h⟩ := Dialogue.holds_run_bind_iff.mp h
  · exact .inl ⟨e, hplan, rfl⟩
  refine .inr ⟨published, required, m, hplan, ?_⟩
  obtain ⟨e, happly, rfl⟩ | ⟨outcome, n, happly, h⟩ := Dialogue.holds_run_bind_iff.mp h
  · exact .inl ⟨e, applied_of_holds happly, rfl⟩
  refine .inr ⟨outcome, n, applied_of_holds happly, ?_⟩
  obtain ⟨e, hcount, -⟩ | ⟨_, o, hcount, h⟩ := Dialogue.holds_run_bind_iff.mp h
  · obtain ⟨_, _, hne⟩ := Dialogue.holds_run_lift_iff.mp hcount
    cases hne
  obtain ⟨rfl, rfl⟩ := Dialogue.holds_run_pure_iff.mp h
  obtain ⟨_, hcounted, -⟩ := Dialogue.holds_run_lift_iff.mp hcount
  exact ⟨Dialogue.holds_question_iff.mp hcounted, rfl⟩

end EtcdRoster.Reconcile
