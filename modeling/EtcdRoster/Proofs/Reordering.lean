import EtcdRoster.Dns.Zone
import EtcdRoster.Proofs.Desired.NameOrder
import EtcdRoster.Proofs.Dns.Member
import EtcdRoster.Proofs.Membership
import EtcdRoster.Proofs.Stability
import EtcdRoster.Rehearsal.Cast
import Mathlib.Data.List.Nodup

/-!
# The order of what a build is made from

Nodes come in the order of a cache, and targets and their addresses in the order of a reply. None of
these orders is ever the same for long.

* `sortNodes_eq_of_perm` — nodes of different names are sorted in one way only.
* `isEntry_reordered_iff` — a node has the same entry, whatever order the replies are in.
* `build_reordered_iff` — **the desired object does not depend on any of these orders**, provided
  that nodes have different names and that each address has one name.
-/

namespace EtcdRoster.Desired

open Dns (Resolver)

variable {resolver resolver' : Resolver} {network : Network} {domain : String} {node : Node}
  {nodes nodes' : List Node}

/-! ## Nodes -/

/-- No two nodes have the same name. -/
def DistinctNames (nodes : List Node) : Prop :=
  (nodes.map fun node => node.metadata.nameOrGenerated).Nodup

instance : DecidablePred DistinctNames := fun nodes =>
  inferInstanceAs (Decidable (nodes.map fun node => node.metadata.nameOrGenerated).Nodup)

/-- Nodes of different names are sorted in one way only. -/
theorem sortNodes_eq_of_perm (distinct : DistinctNames nodes) (h : nodes'.Perm nodes) :
    sortNodes nodes' = sortNodes nodes := by
  refine Sorting.sort_eq_of_perm namedBefore_total namedBefore_trans ?_ h
  intro a ha b hb hab hba
  exact List.inj_on_of_nodup_map distinct ha hb (name_eq_of_namedBefore hab hba)

/-! ## Entries -/

/-- Each address that a node of the list contributes has one name. -/
def Unambiguous (resolver : Resolver) (network : Network) (domain : String) (nodes : List Node) :
    Prop :=
  ∀ node ∈ nodes, ∀ address, preferredInternalIp network node = .ok address →
    resolver.Unambiguous Dns.etcdService Dns.etcdProto domain address.1

instance : Decidable (Unambiguous resolver network domain nodes) :=
  inferInstanceAs (Decidable (∀ node ∈ nodes, ∀ address,
    preferredInternalIp network node = .ok address →
      resolver.Unambiguous Dns.etcdService Dns.etcdProto domain address.1))

/-- A node has the same entry, whatever order the replies are in. -/
theorem isEntry_reordered_iff {address : EndpointAddress} (reordered : resolver.Reordered resolver')
    (unambiguous : Unambiguous resolver network domain nodes) (hnode : node ∈ nodes) :
    IsEntry resolver' network domain node address ↔
      IsEntry resolver network domain node address := by
  rw [isEntry_iff, isEntry_iff]
  refine exists_congr fun ip => exists_congr fun spelled => exists_congr fun name => ?_
  refine and_congr_right fun haddress => and_congr_left fun _ => ?_
  exact reordered.resolveMember_reordered_iff (unambiguous node hnode (ip, spelled) haddress)

/-- Nodes have the same entries, whatever order the replies are in. -/
theorem forall₂_isEntry_reordered_iff {addresses : List EndpointAddress}
    (reordered : resolver.Reordered resolver')
    (unambiguous : Unambiguous resolver network domain nodes) :
    List.Forall₂ (IsEntry resolver' network domain) nodes addresses ↔
      List.Forall₂ (IsEntry resolver network domain) nodes addresses := by
  rw [List.forall₂_iff_zip, List.forall₂_iff_zip]
  refine and_congr_right fun _ => forall₂_congr fun node address => ?_
  refine imp_congr_right fun hzip => ?_
  exact isEntry_reordered_iff reordered unambiguous (List.of_mem_zip hzip).1

/-! ## The desired object -/

/-- **The desired object does not depend on the order of nodes, targets or addresses**, provided
that nodes have different names and that each address has one name: a build that succeeds with one
order succeeds with the other, and gives the same object. -/
theorem build_reordered_iff {bootstrap : Option EndpointAddress} {scope : String}
    (distinct : DistinctNames nodes) (permuted : nodes'.Perm nodes)
    (reordered : resolver.Reordered resolver')
    (unambiguous : Unambiguous resolver network domain nodes) (required : Endpoints) :
    (build nodes' network domain bootstrap scope).run.consult resolver'.answer = .ok required ↔
      (build nodes network domain bootstrap scope).run.consult resolver.answer = .ok required := by
  have hsorted : Unambiguous resolver network domain (sortNodes nodes) := fun node hnode =>
    unambiguous node ((sortNodes_perm nodes).mem_iff.mp hnode)
  rw [build_eq_ok_iff, build_eq_ok_iff, sortNodes_eq_of_perm distinct permuted]
  simp only [forall₂_isEntry_reordered_iff reordered hsorted]

def masters : List Node :=
  [Rehearsal.Cast.node "master-1" ["10.0.0.2"] true,
    Rehearsal.Cast.node "master-0" ["10.0.0.1"] true]

/-- One of the masters is advertised twice, once without a dot at the end. -/
def doubled : Dns.Zone where
  services := Dict.empty.insert "_etcd-server-ssl._tcp.example.com."
    ["etcd-0.example.com.", "etcd-1.example.com.", "etcd-0.example.com"]
  hosts :=
    ((Dict.empty.insert "etcd-0.example.com" (Dns.Zone.addresses ["10.0.0.1"])).insert
      "etcd-0.example.com." (Dns.Zone.addresses ["10.0.0.1", "10.1.0.1"])).insert
      "etcd-1.example.com." (Dns.Zone.addresses ["10.0.0.2"])

theorem masters_reordered :
    (build masters.reverse (Rehearsal.Cast.network "172.30.0.0/16") "example.com" none
      Names.defaultScope).run.consult doubled.resolver.reversed.answer
        = .ok (desired Names.defaultScope "example.com"
            [Rehearsal.Cast.address "10.0.0.1" "etcd-0" (some "master-0"),
              Rehearsal.Cast.address "10.0.0.2" "etcd-1" (some "master-1")]) := by
  refine (build_reordered_iff (by decide +kernel) (List.reverse_perm masters)
    (Resolver.reordered_reversed doubled.resolver) ?_ _).mpr ?_
  · decide +kernel
  · decide +kernel

end EtcdRoster.Desired
