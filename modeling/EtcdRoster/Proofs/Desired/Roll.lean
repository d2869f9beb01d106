import EtcdRoster.Proofs.Desired.Addresses
import EtcdRoster.Proofs.Dns.Lookups
import EtcdRoster.Proofs.Membership

/-!
# Calling the roll

A build calls one node after the other and searches for the name of each, with a resolver that may
answer the same question differently each time. What it finds out about the nodes is a row of
findings (`Finds`); the first node about which it finds out nothing ends it (`Fails`).

* `memberAddresses_run_ok_iff` — a build that succeeds has found out about every node, in order.
* `memberAddresses_run_error_iff` — a build that fails has found out about the nodes before one that
  fails, and ends with the error of this node.
* `Finds.countP_isService_asked` — for every node a service is asked for once.
-/

namespace EtcdRoster.Desired

variable {σ : Type}

/-- What is found out about a node: its address, read and as the node spells it, and the short form
of its name. -/
structure Finding where
  node : Node
  ip : IpAddress
  spelled : String
  name : String
  short : String

/-- The address that a node contributes. -/
def Finding.entry (f : Finding) : EndpointAddress :=
  { ip := f.spelled, hostname := some f.short, nodeName := some f.node.metadata.nameOrGenerated }

section Run

variable (answer : (q : Dns.Question) → σ → q.Answer × σ) (network : Network) (domain : String)

/-- The search for the member at an address, and the state in which it leaves the resolver. -/
abbrev search (ip : IpAddress) (s : σ) : Except SyncError String × σ :=
  (Dns.resolveMember Dns.etcdService Dns.etcdProto domain ip).run.run answer s

/-- The roll call finds out about all nodes. -/
inductive Finds : σ → List Node → List Finding → σ → Prop
  | nil (s : σ) : Finds s [] [] s
  | cons {s m t : σ} {node : Node} {nodes : List Node} {f : Finding} {findings : List Finding}
      (called : f.node = node) (addressed : HasAddress network node f.ip f.spelled)
      (named : search answer domain f.ip s = (.ok f.name, m))
      (shortened : Dns.Shortens domain f.name f.short) (rest : Finds m nodes findings t) :
      Finds s (node :: nodes) (f :: findings) t

/-- The roll call finds out nothing about a node: it has no address, or no name is found for it. -/
inductive Fails : σ → Node → SyncError → σ → Prop
  | unreached {s : σ} {node : Node} (h : Unreached network node) :
      Fails s node (.topologyIncomplete node.metadata.nameOrGenerated (addressProblem network)) s
  | unnamed {s t : σ} {node : Node} {ip : IpAddress} {spelled : String} {e : SyncError}
      (addressed : HasAddress network node ip spelled)
      (unnamed : search answer domain ip s = (.error e, t)) : Fails s node e t

end Run

variable {answer : (q : Dns.Question) → σ → q.Answer × σ} {network : Network} {domain : String}
  {node : Node} {nodes : List Node} {address : EndpointAddress} {addresses : List EndpointAddress}
  {findings : List Finding} {s t : σ} {e : SyncError}

/-! ## One node -/

theorem memberAddress_run_ok_iff :
    (memberAddress network domain node).run.run answer s = (.ok address, t) ↔
      ∃ f : Finding, f.node = node ∧ HasAddress network node f.ip f.spelled ∧
        search answer domain f.ip s = (.ok f.name, t) ∧ Dns.Shortens domain f.name f.short ∧
        address = f.entry := by
  rw [memberAddress, Dialogue.run_run_bind_eq_ok_iff]
  constructor
  · rintro ⟨⟨ip, spelled⟩, m, hfound, h⟩
    obtain ⟨haddress, rfl⟩ := Prod.mk.inj
      (show (preferredInternalIp network node, s) = (.ok (ip, spelled), m) from hfound)
    obtain ⟨name, _, hnamed, h⟩ := Dialogue.run_run_bind_eq_ok_iff.mp h
    cases h
    exact ⟨⟨node, ip, spelled, name, Dns.stripDomain name domain⟩, rfl,
      preferredInternalIp_eq_ok_iff.mp haddress, hnamed, Dns.stripDomain_eq_iff.mp rfl, rfl⟩
  · rintro ⟨f, rfl, haddress, hnamed, hshort, rfl⟩
    refine ⟨(f.ip, f.spelled), s, congrArg (·, s) (preferredInternalIp_eq_ok_iff.mpr haddress), ?_⟩
    refine Dialogue.run_run_bind_eq_ok_iff.mpr ⟨f.name, t, hnamed, ?_⟩
    rw [Dns.stripDomain_eq_iff.mpr hshort]
    rfl

theorem memberAddress_run_error_iff :
    (memberAddress network domain node).run.run answer s = (.error e, t) ↔
      Fails answer network domain s node e t := by
  rw [memberAddress, Dialogue.run_run_bind_eq_error_iff]
  constructor
  · rintro (hfailed | ⟨⟨ip, spelled⟩, m, hfound, h⟩)
    · obtain ⟨hproblem, rfl⟩ := Prod.mk.inj
        (show (preferredInternalIp network node, s) = (.error e, t) from hfailed)
      obtain ⟨hunreached, rfl⟩ := preferredInternalIp_eq_error_iff.mp hproblem
      exact .unreached hunreached
    · obtain ⟨haddress, rfl⟩ := Prod.mk.inj
        (show (preferredInternalIp network node, s) = (.ok (ip, spelled), m) from hfound)
      rcases Dialogue.run_run_bind_eq_error_iff.mp h with hunnamed | ⟨_, _, -, h⟩
      · exact .unnamed (preferredInternalIp_eq_ok_iff.mp haddress) hunnamed
      · cases h
  · intro h
    cases h with
    | unreached h =>
      exact .inl (congrArg (·, s) (preferredInternalIp_eq_error_iff.mpr ⟨h, rfl⟩))
    | unnamed haddress hunnamed =>
      refine .inr ⟨_, s, congrArg (·, s) (preferredInternalIp_eq_ok_iff.mpr haddress), ?_⟩
      exact Dialogue.run_run_bind_eq_error_iff.mpr (.inl hunnamed)

/-! ## All nodes -/

theorem Finds.length_eq (h : Finds answer network domain s nodes findings t) :
    findings.length = nodes.length := by
  induction h with
  | nil => rfl
  | cons _ _ _ _ _ ih => exact congrArg (· + 1) ih

/-- A build that succeeds has found out about every node, in order. -/
theorem memberAddresses_run_ok_iff :
    (memberAddresses network domain nodes).run.run answer s = (.ok addresses, t) ↔
      ∃ findings, Finds answer network domain s nodes findings t ∧
        addresses = findings.map Finding.entry := by
  induction nodes generalizing s addresses with
  | nil =>
    constructor
    · intro h
      cases h
      exact ⟨[], .nil _, rfl⟩
    · rintro ⟨_, ⟨⟩, rfl⟩
      rfl
  | cons node rest ih =>
    rw [memberAddresses, Dialogue.run_run_bind_eq_ok_iff]
    constructor
    · rintro ⟨address, m, hfirst, h⟩
      obtain ⟨later, _, hrest, h⟩ := Dialogue.run_run_bind_eq_ok_iff.mp h
      cases h
      obtain ⟨f, hcalled, haddressed, hnamed, hshortened, rfl⟩ := memberAddress_run_ok_iff.mp hfirst
      obtain ⟨findings, hfindings, rfl⟩ := ih.mp hrest
      exact ⟨f :: findings, .cons hcalled haddressed hnamed hshortened hfindings, rfl⟩
    · rintro ⟨_, hfindings, rfl⟩
      cases hfindings with
      | @cons _ m _ _ _ f findings hcalled haddressed hnamed hshortened hrest =>
        refine ⟨f.entry, m, memberAddress_run_ok_iff.mpr
          ⟨f, hcalled, haddressed, hnamed, hshortened, rfl⟩, ?_⟩
        exact Dialogue.run_run_bind_eq_ok_iff.mpr ⟨_, t, ih.mpr ⟨findings, hrest, rfl⟩, rfl⟩

variable (answer network domain) in
/-- The roll call gets to a node that fails. -/
def Stops (s : σ) (nodes : List Node) (e : SyncError) (t : σ) : Prop :=
  ∃ before node after findings m, nodes = before ++ node :: after ∧
    Finds answer network domain s before findings m ∧ Fails answer network domain m node e t

theorem stops_cons_iff {rest : List Node} :
    Stops answer network domain s (node :: rest) e t ↔
      Fails answer network domain s node e t ∨
        ∃ address m, (memberAddress network domain node).run.run answer s = (.ok address, m) ∧
          Stops answer network domain m rest e t := by
  constructor
  · rintro ⟨before, failing, after, findings, m, hnodes, hbefore, hfails⟩
    cases hbefore with
    | nil =>
      obtain ⟨rfl, rfl⟩ := List.cons.inj hnodes
      exact .inl hfails
    | @cons _ m' _ first before f findings hcalled haddressed hnamed hshortened hbefore =>
      obtain ⟨rfl, hrest⟩ := List.cons.inj hnodes
      refine .inr ⟨f.entry, m', memberAddress_run_ok_iff.mpr
        ⟨f, hcalled, haddressed, hnamed, hshortened, rfl⟩, ?_⟩
      exact ⟨before, failing, after, findings, m, hrest, hbefore, hfails⟩
  · rintro (hfails | ⟨address, m', hfirst, before, failing, after, findings, m, rfl, hbefore, hfails⟩)
    · exact ⟨[], node, rest, [], s, rfl, .nil s, hfails⟩
    · obtain ⟨f, hcalled, haddressed, hnamed, hshortened, rfl⟩ := memberAddress_run_ok_iff.mp hfirst
      exact ⟨node :: before, failing, after, f :: findings, m, rfl,
        .cons hcalled haddressed hnamed hshortened hbefore, hfails⟩

/-- A build that fails ends with the error of the first node that fails. -/
theorem memberAddresses_run_error_iff :
    (memberAddresses network domain nodes).run.run answer s = (.error e, t) ↔
      Stops answer network domain s nodes e t := by
  induction nodes generalizing s with
  | nil =>
    constructor
    · intro h
      cases h
    · rintro ⟨before, failing, after, findings, m, hnodes, -, -⟩
      simp at hnodes
  | cons node rest ih =>
    rw [memberAddresses, Dialogue.run_run_bind_eq_error_iff, stops_cons_iff,
      memberAddress_run_error_iff]
    refine or_congr_right (exists₂_congr fun address m => and_congr_right fun _ => ?_)
    rw [Dialogue.run_run_bind_eq_error_iff, ih]
    constructor
    · rintro (h | ⟨_, _, -, h⟩)
      · exact h
      · cases h
    · exact .inl

/-! ## What is asked -/

/-- A node that has an address and a name is asked about once. -/
theorem countP_isService_asked_memberAddress
    {f : Finding} (addressed : HasAddress network node f.ip f.spelled)
    (named : search answer domain f.ip s = (.ok f.name, t)) :
    ((memberAddress network domain node).run.asked answer s).countP Dns.Question.isService = 1 := by
  have hfound : (ExceptT.mk (pure (preferredInternalIp network node)) :
      ExceptT SyncError Dns.Inquiry _).run.run answer s = (.ok (f.ip, f.spelled), s) :=
    congrArg (·, s) (preferredInternalIp_eq_ok_iff.mpr addressed)
  rw [memberAddress, Dialogue.asked_run_bind_of_ok hfound, Dialogue.asked_run_bind_of_ok named,
    List.countP_append, List.countP_append, Dns.countP_isService_asked named]
  rfl

/-- For every node a service is asked for once. -/
theorem Finds.countP_isService_asked (h : Finds answer network domain s nodes findings t) :
    ((memberAddresses network domain nodes).run.asked answer s).countP Dns.Question.isService
      = nodes.length := by
  induction h with
  | nil => rfl
  | cons called addressed named shortened rest ih =>
    have hfirst := memberAddress_run_ok_iff.mpr ⟨_, called, addressed, named, shortened, rfl⟩
    have hrest := memberAddresses_run_ok_iff.mpr ⟨_, rest, rfl⟩
    rw [memberAddresses, Dialogue.asked_run_bind_of_ok hfirst, Dialogue.asked_run_bind_of_ok hrest,
      List.countP_append, List.countP_append, countP_isService_asked_memberAddress addressed named,
      ih, List.length_cons]
    exact Nat.add_comm ..

end EtcdRoster.Desired
