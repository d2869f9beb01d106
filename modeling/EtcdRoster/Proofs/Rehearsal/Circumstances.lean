import EtcdRoster.Proofs.Membership
import EtcdRoster.Proofs.Reconcile.Stages
import EtcdRoster.Rehearsal.World

/-!
# The circumstances of a sync

A sync changes the published object, the conditions, the events and the metrics, and leaves the
topology, the zone and the failures of its collaborators as they are. These are its circumstances:
`circumstances_answer`. They decide who the members are (`Circumstances.Members`), also when
somebody else writes the published object meanwhile (`built_of_holds`).
-/

namespace EtcdRoster.Rehearsal

open Dialogue (Holds Answering Leads)
open Reconcile (Ask)

/-- What surrounds a sync and is not changed by it. -/
structure Circumstances where
  topology : Topology
  zone : Dns.Zone
  /-- Writes of the published object fail. -/
  failing : Bool
  /-- Writes of the conditions fail. -/
  statusFailing : Bool
  faults : Collaborator → Option SyncError

namespace World

def circumstances (w : World) : Circumstances :=
  ⟨w.topology, w.zone, w.published.failing, w.status.failing, w.faults⟩

/-- The same world under other circumstances. -/
def under (w : World) (c : Circumstances) : World :=
  { w with
    topology := c.topology
    zone := c.zone
    published.failing := c.failing
    status.failing := c.statusFailing
    faults := c.faults }

theorem through_snd {α : Type} {P : World → Prop} {w : World} {collaborator : Collaborator}
    {work : World → Except SyncError α × World} (hw : P w) (hwork : P (work w).2) :
    P (w.through collaborator work).2 := by
  unfold through
  split
  · exact hw
  · exact hwork

/-! ## What an answer leaves alone -/

theorem failing_interfere (s : PublishedStore) : s.interfere.failing = s.failing := by
  unfold PublishedStore.interfere
  split <;> rfl

/-- No answer changes the circumstances. -/
theorem circumstances_answer (q : Ask) (w : World) :
    (answer q w).2.circumstances = w.circumstances := by
  cases q with
  | readEndpoints name scope =>
    refine through_snd (P := fun w' => w'.circumstances = w.circumstances) rfl ?_
    simp only [circumstances, PublishedStore.read, failing_interfere]
  | createEndpoints e =>
    refine through_snd (P := fun w' => w'.circumstances = w.circumstances) rfl ?_
    simp only [circumstances, PublishedStore.create]
    split <;> rfl
  | replaceEndpoints e =>
    refine through_snd (P := fun w' => w'.circumstances = w.circumstances) rfl ?_
    simp only [circumstances, PublishedStore.replace]
    split
    · rfl
    · split <;> rfl
  | writeConditions conditions =>
    refine through_snd (P := fun w' => w'.circumstances = w.circumstances) rfl ?_
    simp only [circumstances, StatusStore.update]
    split <;> rfl
  | lookup question => cases question <;> rfl
  | memberNodes | networkConfig | infrastructureConfig | readConditions =>
    exact through_snd (P := fun w' => w'.circumstances = w.circumstances) rfl rfl
  | emit | record | clock | elapsed => rfl

/-- Nor does a dialogue. -/
theorem circumstances_hold {α : Type} (talk : Reconcile.Talk α) (w : World) :
    (w.hold talk).2.circumstances = w.circumstances := by
  unfold hold
  induction talk generalizing w with
  | done a => rfl
  | ask q next ih => exact (ih _ _).trans (circumstances_answer q w)

theorem interfere_eq_self {s : PublishedStore} (alone : s.foreign = none) : s.interfere = s := by
  unfold PublishedStore.interfere
  rw [alone]

/-- Where nobody else waits to write, only a publication changes the store of the published
object. -/
theorem published_answer {q : Ask} {w : World} (hq : q.isPublication = false)
    (alone : w.published.foreign = none) : (answer q w).2.published = w.published := by
  cases q with
  | createEndpoints | replaceEndpoints => cases hq
  | readEndpoints name scope =>
    refine through_snd (P := fun w' => w'.published = w.published) rfl ?_
    exact interfere_eq_self alone
  | writeConditions conditions =>
    exact through_snd (P := fun w' => w'.published = w.published) rfl rfl
  | lookup question => cases question <;> rfl
  | memberNodes | networkConfig | infrastructureConfig | readConditions =>
    exact through_snd (P := fun w' => w'.published = w.published) rfl rfl
  | emit | record | clock | elapsed => rfl

/-- No answer makes anybody wait to write. -/
theorem foreign_answer (q : Ask) {w : World} (alone : w.published.foreign = none) :
    (answer q w).2.published.foreign = none := by
  cases hq : q.isPublication with
  | false => rw [published_answer hq alone, alone]
  | true =>
    cases q with
    | createEndpoints e =>
      refine through_snd (P := fun w' => w'.published.foreign = none) alone ?_
      simp only [PublishedStore.create]
      split <;> exact alone
    | replaceEndpoints e =>
      refine through_snd (P := fun w' => w'.published.foreign = none) alone ?_
      simp only [PublishedStore.replace]
      split
      · exact alone
      · split <;> exact alone
    | _ => cases hq

/-- Where nobody else waits to write, a question that only reads changes nothing but the count of
service queries. -/
theorem world_answer_of_isRead {q : Ask} {w : World} (hq : q.isRead = true)
    (alone : w.published.foreign = none) :
    ∃ queries, (answer q w).2 = { w with serviceQueries := queries } := by
  cases q with
  | createEndpoints | replaceEndpoints | writeConditions | emit | record => cases hq
  | readEndpoints name scope =>
    refine through_snd (P := fun w' => ∃ n, w' = { w with serviceQueries := n }) ⟨_, rfl⟩ ?_
    exact ⟨w.serviceQueries, by simp only [PublishedStore.read, interfere_eq_self alone]⟩
  | lookup question => cases question <;> exact ⟨_, rfl⟩
  | memberNodes | networkConfig | infrastructureConfig | readConditions =>
    exact through_snd (P := fun w' => ∃ n, w' = { w with serviceQueries := n }) ⟨_, rfl⟩ ⟨_, rfl⟩
  | clock | elapsed => exact ⟨_, rfl⟩

end World

/-! ## What the circumstances decide -/

namespace Circumstances

/-- What an answer that is no error says in these circumstances. -/
def Informs (c : Circumstances) : (q : Ask) → q.Answer → Prop
  | .infrastructureConfig _, a => ∀ i, a = .ok i → c.topology.infrastructure = some i
  | .networkConfig _, a => ∀ n, a = .ok n → c.topology.network = some n
  | .memberNodes label, a => ∀ nodes, a = .ok nodes → nodes = c.topology.labelled label
  | .lookup question, a => a = c.zone.resolver.answer question
  | _, _ => True

/-- These are the addresses of the members, in node order, for a discovery domain. -/
structure Members (c : Circumstances) (domain : String) (members : List EndpointAddress) :
    Prop where
  domain_eq : c.topology.infrastructure.bind (·.discoveryDomain?) = some domain
  entries : ∃ network, c.topology.network = some network ∧
    List.Forall₂ (Desired.IsEntry c.zone.resolver network domain)
      (Desired.sortNodes (c.topology.labelled Names.memberLabel)) members

theorem informs_answer (q : Ask) (w : World) : w.circumstances.Informs q (World.answer q w).1 := by
  cases q with
  | infrastructureConfig name =>
    intro i h
    simp only [World.answer, World.through, Topology.infrastructureNamed] at h
    cases hfault : w.faults .infrastructure <;> rw [hfault] at h
    · cases hinfra : w.topology.infrastructure <;> rw [hinfra] at h <;> cases h
      exact hinfra
    · cases h
  | networkConfig name =>
    intro n h
    simp only [World.answer, World.through, Topology.networkNamed] at h
    cases hfault : w.faults .network <;> rw [hfault] at h
    · cases hnetwork : w.topology.network <;> rw [hnetwork] at h <;> cases h
      exact hnetwork
    · cases h
  | memberNodes label =>
    intro nodes h
    simp only [World.answer, World.through] at h
    cases hfault : w.faults .nodes <;> rw [hfault] at h <;> cases h
    rfl
  | lookup question => cases question <;> rfl
  | _ => trivial

variable {c : Circumstances} {σ : Type} {step : Answering Ask.Answer σ} {I : σ → Prop} {s t : σ}

/-- Lookups are answered from the zone, so an inquiry ends as the zone decides. -/
theorem consult_of_holds_inquire {α : Type} {inquiry : ExceptT SyncError Dns.Inquiry α}
    {r : Except SyncError α}
    (informs : ∀ q s a m, I s → step q s a m → I m ∧ c.Informs q a) (hs : I s)
    (h : Holds step (Reconcile.inquire inquiry).run s r t) :
    inquiry.run.consult c.zone.resolver.answer = r := by
  suffices hd : ∀ d : Dns.Inquiry (Except SyncError α), ∀ s, I s →
      Holds step (d.interpret fun question =>
        Dialogue.question (A := Ask.Answer) (.lookup question)) s r t →
      d.consult c.zone.resolver.answer = r from hd inquiry.run s hs h
  intro d
  induction d with
  | done result =>
    intro s _ h
    exact (Dialogue.holds_done_iff.mp h).1.symm
  | ask question next ih =>
    intro s hs h
    obtain ⟨a, m, answered, rest⟩ := Reconcile.holds_question_bind_iff.mp h
    obtain ⟨hm, ha⟩ := informs _ _ _ _ hs answered
    rw [Dialogue.consult, ← show a = c.zone.resolver.answer question from ha]
    exact ih a m hm rest

/-- Whoever else writes the published object, a plan that succeeds wants the members that the
circumstances decide, and the bootstrap entry of the object that was read first. -/
theorem built_of_holds {scope : String} {published required : Endpoints}
    (informs : ∀ q s a m, I s → step q s a m → I m ∧ c.Informs q a) (hs : I s)
    (h : Holds step (Reconcile.plan scope).run s (.ok (published, required)) t) :
    ∃ s₁ domain members, step (.readEndpoints Names.published scope) s (.ok (some published)) s₁ ∧
      Leads step s₁ t ∧ c.Members domain members ∧
      required =
        Desired.desired scope domain (members ++ (Desired.bootstrapAddress? published).toList) := by
  obtain ⟨infrastructure, domain, network, nodes, s₁, s₂, s₃, s₄, hread, hinfra, hdomain, hnetwork,
    hnodes, hbuild⟩ := Reconcile.planned_of_holds h
  have hleads : Leads step s₁ t :=
    .head ⟨_, _, hinfra⟩ (.head ⟨_, _, hnetwork⟩ (.head ⟨_, _, hnodes⟩ hbuild.leads))
  obtain ⟨h₁, -⟩ := informs _ _ _ _ hs hread
  obtain ⟨h₂, hinfra⟩ := informs _ _ _ _ h₁ hinfra
  obtain ⟨h₃, hnetwork⟩ := informs _ _ _ _ h₂ hnetwork
  obtain ⟨h₄, hnodes⟩ := informs _ _ _ _ h₃ hnodes
  obtain ⟨members, hmembers, -, rfl⟩ :=
    Desired.build_eq_ok_iff.mp (consult_of_holds_inquire informs h₄ hbuild)
  have hnodes : nodes = c.topology.labelled Names.memberLabel := hnodes _ rfl
  refine ⟨s₁, domain, members, hread, hleads, ⟨?_, network, hnetwork _ rfl, hnodes ▸ hmembers⟩, rfl⟩
  rw [hinfra _ rfl]
  exact hdomain

end Circumstances

end EtcdRoster.Rehearsal
