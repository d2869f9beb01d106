import EtcdRoster.Proofs.Desired.Addresses
import EtcdRoster.Proofs.Dialogue.Recording
import EtcdRoster.Proofs.Reconcile.Stages

/-!
# How a sync fails

The errors of a sync are told apart by `SyncError.isBuildStage`, away from the code that raises
them. Whoever answers, as long as reads and writes fail with errors of their own kinds
(`Ask.Admits`), this tells what was done.

* `plan_failsWith` — all errors of a plan belong to the build stage: those of the reads, those of
  the members (`Desired.build_failsEarly`) and those of the plan itself.
* `failed_of_holds` — **a sync that fails at the build stage has only read, and any other has tried
  one publication after its reads and warned that it failed.**
-/

namespace EtcdRoster

open Dialogue (Holds Answering recording FailsWith failsWith_bind failsWith_pure failsWith_throw)

namespace SyncError

/-- The errors with which a read of an object or a lookup can fail. -/
def isReadFailure : SyncError → Bool
  | storeRead .. | dnsFailure .. => true
  | _ => false

/-- The errors with which a write of the published object can fail. -/
def isWriteFailure : SyncError → Bool
  | storeWrite .. | conflict .. => true
  | _ => false

theorem isBuildStage_of_isReadFailure {e : SyncError} (h : e.isReadFailure = true) :
    e.isBuildStage = true := by
  cases e <;> first | rfl | cases h

theorem isBuildStage_of_isWriteFailure {e : SyncError} (h : e.isWriteFailure = true) :
    e.isBuildStage = false := by
  cases e <;> first | rfl | cases h

end SyncError

/-! ## The errors of the members -/

namespace Dns

/-- Lookups fail with errors of reads. -/
def Question.Admits : (q : Question) → q.Answer → Prop
  | .service _, a => ∀ e, a = .error e → e.isReadFailure = true
  | .host _, a => ∀ e, a = .error e → e.isReadFailure = true

/-- Only errors of the build stage can end the inquiry. -/
abbrev FailsEarly {α : Type} (inquiry : ExceptT SyncError Inquiry α) : Prop :=
  FailsWith Question.Admits (·.isBuildStage = true) inquiry

theorem askService_failsEarly (name : String) : FailsEarly (askService name) :=
  ⟨fun _ ha e he => SyncError.isBuildStage_of_isReadFailure (ha e he)⟩

theorem askHost_failsEarly (name : String) : FailsEarly (askHost name) :=
  ⟨fun _ ha e he => SyncError.isBuildStage_of_isReadFailure (ha e he)⟩

theorem serviceName_error {service proto domain : String} {e : SyncError}
    (h : serviceName service proto domain = .error e) : e.isBuildStage = true := by
  unfold serviceName at h
  dsimp only at h
  split at h <;> cases h
  rfl

theorem lastMatch_failsEarly (ip : IpAddress) (found : Option String) (targets : List String) :
    FailsEarly (lastMatch ip found targets) := by
  induction targets generalizing found with
  | nil => exact failsWith_pure found
  | cons target rest ih =>
    refine failsWith_bind (askHost_failsEarly target) fun addresses => ?_
    split
    · exact ih _
    · exact ih _

theorem resolveMember_failsEarly (service proto domain : String) (ip : IpAddress) :
    FailsEarly (resolveMember service proto domain ip) := by
  refine failsWith_bind ⟨fun e he => serviceName_error he⟩ fun name => ?_
  refine failsWith_bind (askService_failsEarly _) fun targets => ?_
  refine failsWith_bind (lastMatch_failsEarly ip none targets) fun found => ?_
  cases found with
  | some target => exact failsWith_pure _
  | none => exact failsWith_throw rfl

end Dns

namespace Desired

theorem preferredInternalIp_error {network : Network} {node : Node} {e : SyncError}
    (h : preferredInternalIp network node = .error e) : e.isBuildStage = true := by
  obtain ⟨-, rfl⟩ := preferredInternalIp_eq_error_iff.mp h
  rfl

theorem memberAddress_failsEarly (network : Network) (domain : String) (node : Node) :
    Dns.FailsEarly (memberAddress network domain node) := by
  refine failsWith_bind ⟨fun e he => preferredInternalIp_error he⟩ fun found => ?_
  exact failsWith_bind (Dns.resolveMember_failsEarly ..) fun name => failsWith_pure _

theorem memberAddresses_failsEarly (network : Network) (domain : String) (nodes : List Node) :
    Dns.FailsEarly (memberAddresses network domain nodes) := by
  induction nodes with
  | nil => exact failsWith_pure []
  | cons node rest ih =>
    refine failsWith_bind (memberAddress_failsEarly network domain node) fun address => ?_
    exact failsWith_bind ih fun addresses => failsWith_pure _

/-- Only errors of the build stage can end a build. -/
theorem build_failsEarly (nodes : List Node) (network : Network) (domain : String)
    (bootstrap : Option EndpointAddress) (scope : String) :
    Dns.FailsEarly (build nodes network domain bootstrap scope) := by
  refine failsWith_bind (memberAddresses_failsEarly network domain _) fun members => ?_
  dsimp only
  split
  · exact failsWith_bind (failsWith_throw rfl) fun _ => failsWith_pure _
  · exact failsWith_pure _

end Desired

/-! ## The errors of a plan -/

namespace Reconcile

/-- Reads and lookups fail with errors of reads, publications with errors of writes. -/
def Ask.Admits : (q : Ask) → q.Answer → Prop
  | .readEndpoints .., a => ∀ e, a = .error e → e.isReadFailure = true
  | .memberNodes _, a => ∀ e, a = .error e → e.isReadFailure = true
  | .networkConfig _, a => ∀ e, a = .error e → e.isReadFailure = true
  | .infrastructureConfig _, a => ∀ e, a = .error e → e.isReadFailure = true
  | .lookup question, a => question.Admits a
  | .createEndpoints _, a => ∀ e, a = .error e → e.isWriteFailure = true
  | .replaceEndpoints _, a => ∀ e, a = .error e → e.isWriteFailure = true
  | _, _ => True

/-- Only errors of the build stage can end a plan. -/
theorem plan_failsWith (scope : String) :
    FailsWith Ask.Admits (·.isBuildStage = true) (plan scope) := by
  have hread : ∀ {e : SyncError}, e.isReadFailure = true → e.isBuildStage = true :=
    SyncError.isBuildStage_of_isReadFailure
  unfold plan
  refine failsWith_bind ⟨fun _ ha e he => hread (ha e he)⟩ fun found => ?_
  cases found with
  | none => exact failsWith_throw rfl
  | some published =>
    refine failsWith_bind ⟨fun _ ha e he => hread (ha e he)⟩ fun infrastructure => ?_
    cases infrastructure.discoveryDomain? with
    | none => exact failsWith_throw rfl
    | some domain =>
      refine failsWith_bind ⟨fun _ ha e he => hread (ha e he)⟩ fun network => ?_
      refine failsWith_bind ⟨fun _ ha e he => hread (ha e he)⟩ fun nodes => ?_
      refine failsWith_bind ?_ fun required => failsWith_pure _
      exact ⟨Dialogue.ensures_interpret (fun question => Dialogue.ensures_question fun _ ha => ha)
        (Desired.build_failsEarly nodes network domain _ scope).ensures⟩

/-! ## What a failed sync has asked -/

/-- Only reads have been asked. -/
def OnlyRead (asked : List Ask) : Prop := ∀ q ∈ asked, q.isRead = true

/-- After some reads one publication has been tried, and then a warning was emitted. -/
def PublishedInVain (asked : List Ask) : Prop :=
  ∃ reads publication event, asked = reads ++ [publication, .emit event] ∧ OnlyRead reads ∧
    publication.isPublication = true ∧ event.isWarning = true

theorem onlyRead_concat {asked : List Ask} {q : Ask} (h : OnlyRead asked) (hq : q.isRead = true) :
    OnlyRead (asked ++ [q]) := by
  intro q' hq'
  rcases List.mem_append.mp hq' with hq' | hq'
  · exact h q' hq'
  · obtain rfl := List.mem_singleton.mp hq'
    exact hq

theorem publishedInVain_concat {reads : List Ask} {publication : Ask} {event : Event}
    (h : OnlyRead reads) (hp : publication.isPublication = true) (hw : event.isWarning = true) :
    PublishedInVain (reads ++ [publication] ++ [.emit event]) :=
  ⟨reads, publication, event, List.append_assoc .., h, hp, hw⟩

variable {σ : Type} {step : Answering Ask.Answer σ} {s t : σ} {scope : String} {e : SyncError}

/-- **How a sync fails.** At the build stage it has only read; otherwise it has tried one
publication and warned. -/
theorem failed_of_holds {I : σ → Prop} {asked : List Ask}
    (admits : ∀ q s a m, I s → step q s a m → I m ∧ q.Admits a) (hs : I s)
    (h : Holds (recording step) (syncEndpoints scope).run (s, []) (.error e) (t, asked)) :
    (e.isBuildStage = true ∧ OnlyRead asked) ∨
      (e.isBuildStage = false ∧ PublishedInVain asked) := by
  have admits' : ∀ q (s : σ × List Ask) a m, I s.1 → recording step q s a m →
      I m.1 ∧ q.Admits a := fun q s a m hs answered => admits q s.1 a m.1 hs answered.1
  obtain ⟨e', hplan, he⟩ | ⟨published, required, m, hplan, hrest⟩ := synced_of_holds h
  · cases he
    obtain ⟨added, hasked, hadded⟩ := Dialogue.record_of_asks (asks_plan scope) hplan
    refine .inl ⟨hplan.of_ensures admits' hs (plan_failsWith scope).ensures e rfl, ?_⟩
    rwa [show asked = added from hasked]
  obtain ⟨reads, hreads, honly⟩ := Dialogue.record_of_asks (asks_plan scope) hplan
  have hm : m.2 = reads := hreads
  have hIm : I m.1 := hplan.leads.invariant (I := fun u => I u.1)
    (fun q u a n hu answered => (admits' q u a n hu answered).1) hs
  obtain ⟨e', happly, he⟩ | ⟨outcome, n, -, -, he⟩ := hrest
  · cases he
    cases happly with
    | unreadable read =>
      obtain ⟨-, hread⟩ := admits' _ _ _ _ hIm read
      refine .inl ⟨SyncError.isBuildStage_of_isReadFailure (hread e rfl), ?_⟩
      rw [show asked = m.2 ++ _ from read.2, hm]
      exact onlyRead_concat honly rfl
    | createFailed read wrote told =>
      obtain ⟨-, hwrote⟩ := admits' _ _ _ _ (admits' _ _ _ _ hIm read).1 wrote
      refine .inr ⟨SyncError.isBuildStage_of_isWriteFailure (hwrote e rfl), ?_⟩
      rw [show asked = _ from told.2, wrote.2, read.2, hm]
      exact publishedInVain_concat (onlyRead_concat honly rfl) rfl rfl
    | updateFailed read differs wrote told =>
      obtain ⟨-, hwrote⟩ := admits' _ _ _ _ (admits' _ _ _ _ hIm read).1 wrote
      refine .inr ⟨SyncError.isBuildStage_of_isWriteFailure (hwrote e rfl), ?_⟩
      rw [show asked = _ from told.2, wrote.2, read.2, hm]
      exact publishedInVain_concat (onlyRead_concat honly rfl) rfl rfl
  · cases he

end Reconcile

end EtcdRoster
