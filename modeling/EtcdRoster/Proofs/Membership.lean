import EtcdRoster.Proofs.Stability
import EtcdRoster.Reconcile.Desired
import Mathlib.Data.List.Perm.Basic

/-!
# The members of a desired object

A build consults a resolver once for each node, in name order, and stops at the first node that has
no entry. Against a resolver with fixed answers:

* `isEntry_iff` — what the entry of one node is made of.
* `memberAddresses_eq_ok_iff` — a build collects exactly one entry for each node, in order.
* `build_eq_ok_iff` — a build succeeds exactly when every node has an entry and something is left to
  publish; the object then holds the entries in node order and the bootstrap entry after them.
* `exists_entries_perm` — up to order, the entries do not depend on the order of the nodes.
-/

namespace EtcdRoster.Desired

variable {resolver : Dns.Resolver} {network : Network} {domain : String}

/-- The address that a node contributes when this resolver answers. -/
def IsEntry (resolver : Dns.Resolver) (network : Network) (domain : String) (node : Node)
    (address : EndpointAddress) : Prop :=
  (memberAddress network domain node).run.consult resolver.answer = .ok address

/-- The address that a node contributes, if it has one. -/
def entry? (resolver : Dns.Resolver) (network : Network) (domain : String) (node : Node) :
    Option EndpointAddress :=
  ((memberAddress network domain node).run.consult resolver.answer).toOption

theorem entry?_eq_some_iff {node : Node} {address : EndpointAddress} :
    entry? resolver network domain node = some address ↔
      IsEntry resolver network domain node address := by
  unfold entry? IsEntry
  cases (memberAddress network domain node).run.consult resolver.answer <;> simp [Except.toOption]

/-- The entry of a node is made of its address, the name found for it and the name of the node. -/
theorem isEntry_iff {node : Node} {address : EndpointAddress} :
    IsEntry resolver network domain node address ↔
      ∃ ip spelled name, preferredInternalIp network node = .ok (ip, spelled) ∧
        (Dns.resolveMember Dns.etcdService Dns.etcdProto domain ip).run.consult resolver.answer
          = .ok name ∧
        address = {
          ip := spelled
          hostname := some (Dns.stripDomain name domain)
          nodeName := some node.metadata.nameOrGenerated } := by
  rw [IsEntry, memberAddress, Dialogue.consult_run_bind_eq_ok_iff]
  constructor
  · rintro ⟨⟨ip, spelled⟩, haddress, h⟩
    obtain ⟨name, hname, h⟩ := Dialogue.consult_run_bind_eq_ok_iff.mp h
    cases h
    exact ⟨ip, spelled, name, haddress, hname, rfl⟩
  · rintro ⟨ip, spelled, name, haddress, hname, rfl⟩
    refine ⟨(ip, spelled), haddress, ?_⟩
    exact Dialogue.consult_run_bind_eq_ok_iff.mpr ⟨name, hname, rfl⟩

theorem sortNodes_perm (nodes : List Node) : (sortNodes nodes).Perm nodes :=
  Sorting.sort_perm _ nodes

/-- The build collects one entry for each node, in order. -/
theorem memberAddresses_eq_ok_iff {nodes : List Node} {addresses : List EndpointAddress} :
    (memberAddresses network domain nodes).run.consult resolver.answer = .ok addresses ↔
      List.Forall₂ (IsEntry resolver network domain) nodes addresses := by
  induction nodes generalizing addresses with
  | nil =>
    rw [memberAddresses, ExceptT.run_pure, List.forall₂_nil_left_iff]
    constructor
    · intro h
      cases h
      rfl
    · rintro rfl
      rfl
  | cons node rest ih =>
    rw [memberAddresses, Dialogue.consult_run_bind_eq_ok_iff, List.forall₂_cons_left_iff]
    constructor
    · rintro ⟨address, hfirst, h⟩
      obtain ⟨later, hrest, h⟩ := Dialogue.consult_run_bind_eq_ok_iff.mp h
      cases h
      exact ⟨address, later, hfirst, ih.mp hrest, rfl⟩
    · rintro ⟨address, later, hfirst, hrest, rfl⟩
      exact ⟨address, hfirst, Dialogue.consult_run_bind_eq_ok_iff.mpr ⟨later, ih.mpr hrest, rfl⟩⟩

/-- The object that publishes these addresses under a discovery domain. -/
def desired (scope domain : String) (addresses : List EndpointAddress) : Endpoints :=
  hostEndpoints scope (some (Dict.empty.insert Names.domainAnnotation domain)) (some addresses)

/-- A build succeeds exactly when every node has an entry and there is something to publish. -/
theorem build_eq_ok_iff {nodes : List Node} {bootstrap : Option EndpointAddress} {scope : String}
    {required : Endpoints} :
    (build nodes network domain bootstrap scope).run.consult resolver.answer = .ok required ↔
      ∃ members, List.Forall₂ (IsEntry resolver network domain) (sortNodes nodes) members ∧
        members ++ bootstrap.toList ≠ [] ∧
        required = desired scope domain (members ++ bootstrap.toList) := by
  rw [build, Dialogue.consult_run_bind_eq_ok_iff]
  simp only [memberAddresses_eq_ok_iff, List.isEmpty_iff]
  refine exists_congr fun members => and_congr_right fun _ => ?_
  by_cases hempty : members ++ bootstrap.toList = []
  · rw [if_pos hempty]
    constructor
    · intro h
      cases h
    · rintro ⟨hne, _⟩
      exact absurd hempty hne
  · rw [if_neg hempty]
    constructor
    · intro h
      cases h
      exact ⟨hempty, rfl⟩
    · rintro ⟨_, rfl⟩
      rfl

/-- Nodes in another order have the same entries in another order. -/
theorem exists_entries_perm {nodes sorted : List Node} {entries : List EndpointAddress}
    (hperm : sorted.Perm nodes)
    (h : List.Forall₂ (IsEntry resolver network domain) sorted entries) :
    ∃ members, List.Forall₂ (IsEntry resolver network domain) nodes members ∧
      entries.Perm members := by
  obtain ⟨members, hmembers, hentries⟩ := List.perm_comp_forall₂ hperm.symm h
  exact ⟨members, hmembers, hentries.symm⟩

/-- Every entry is that of some node. -/
theorem exists_node_of_mem {nodes : List Node} {entries : List EndpointAddress}
    (h : List.Forall₂ (IsEntry resolver network domain) nodes entries) :
    ∀ address ∈ entries, ∃ node ∈ nodes, entry? resolver network domain node = some address := by
  induction h with
  | nil =>
    intro address haddress
    cases haddress
  | cons hentry _ ih =>
    intro address haddress
    rcases List.mem_cons.mp haddress with rfl | haddress
    · exact ⟨_, List.mem_cons_self .., entry?_eq_some_iff.mpr hentry⟩
    · obtain ⟨node, hnode, hfound⟩ := ih address haddress
      exact ⟨node, List.mem_cons_of_mem _ hnode, hfound⟩

/-! ## What a desired object holds -/

/-- The carried-over entry is the bootstrap entry of the desired object, unless a member has its
name. -/
theorem bootstrapAddress?_of_members {members : List EndpointAddress} {b : EndpointAddress}
    (hb : isBootstrap b = true) (hmembers : ∀ a ∈ members, isBootstrap a = false) :
    (members ++ (some b).toList).find? isBootstrap = some b := by
  rw [List.find?_append, List.find?_eq_none.mpr fun a ha => by simp [hmembers a ha]]
  simp [hb]

theorem isBootstrap_of_bootstrapAddress? {published : Endpoints} {b : EndpointAddress}
    (h : bootstrapAddress? published = some b) : isBootstrap b = true :=
  List.find?_some h

end EtcdRoster.Desired
