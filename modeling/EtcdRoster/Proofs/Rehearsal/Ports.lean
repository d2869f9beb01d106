import EtcdRoster.Proofs.Rehearsal.Alone
import EtcdRoster.Rehearsal.Cast

/-!
# The published port

A desired object always has the one port of etcd clients. Subsets are compared by how many ports
they have, though, and not by which: an object that publishes the right addresses through another
port passes for the desired one.

* `port_written_iff` — the object to write has one port, and it is the etcd port unless the
  published object is such an object.
* `published_port_iff` — so this is what decides the port after a sync.
* `other_port_kept` — and such objects exist.
-/

namespace EtcdRoster.Rehearsal

open Reconcile (Outcome)

/-- The port that etcd serves its clients on. -/
def IsEtcdPort (port : EndpointPort) : Prop :=
  port.name = some Names.portName ∧ port.port = Names.clientPort ∧
    port.protocol = some Names.portProtocol

instance : DecidablePred IsEtcdPort := fun port =>
  inferInstanceAs (Decidable (port.name = _ ∧ port.port = _ ∧ port.protocol = _))

/-- The object has one subset with one port, which publishes what is desired but for this port. -/
def Misported (before required : Endpoints) : Prop :=
  ∃ subset port, before.subsets = some [subset] ∧ subset.ports = some [port] ∧
    ¬ IsEtcdPort port ∧ Difference.subsetsEqual [subset] (required.subsets.getD []) = true

/-- The object to write has one subset with one port. It is the etcd port, unless the published
object passes for the desired one with another port; then it keeps its subset, and the port in it.
-/
theorem port_written_iff (scope domain : String) (members : List EndpointAddress)
    (before : Endpoints) :
    ∃ subset port, (written scope domain members before).subsets = some [subset] ∧
      subset.ports = some [port] ∧
      (IsEtcdPort port ↔ ¬ Misported before (wanted scope domain members before)) ∧
      (Misported before (wanted scope domain members before) →
        before.subsets = some [subset]) := by
  obtain ⟨subset, hsubsets, hequal⟩ := Difference.exists_subset_reconcile before
    (wanted scope domain members before) rfl
  have hcount : Difference.count subset.ports = 1 := Difference.count_ports_of_subsetEqual hequal
  obtain ⟨port, hport⟩ := List.length_eq_one_iff.mp hcount
  have hports : subset.ports = some [port] := Difference.eq_some_singleton_of_getD hport
  refine ⟨subset, port, hsubsets, hports, ?_⟩
  have hchoice := Difference.subsets_reconcile_eq before (wanted scope domain members before)
  by_cases hsame : Difference.subsetsEqual (before.subsets.getD [])
      ((wanted scope domain members before).subsets.getD []) = true
  · -- The published subset is kept, and its port with it.
    rw [if_pos hsame, hsubsets] at hchoice
    refine ⟨?_, fun _ => hchoice.symm⟩
    constructor
    · rintro hetcd ⟨other, otherPort, hother, hotherPorts, hnot, -⟩
      obtain rfl : subset = other := by simpa using hchoice.trans hother
      obtain rfl : port = otherPort := by simpa using hports.symm.trans hotherPorts
      exact hnot hetcd
    · intro hright
      by_contra hnot
      rw [← hchoice] at hsame
      exact hright ⟨subset, port, hchoice.symm, hports, hnot, hsame⟩
  · -- The desired subset takes its place.
    rw [if_neg hsame, hsubsets] at hchoice
    have hright : ¬ Misported before (wanted scope domain members before) := by
      rintro ⟨other, _, hother, -, -, hequal⟩
      rw [hother] at hsame
      exact hsame hequal
    have hdesired : port = Desired.etcdPort := by
      obtain rfl : subset = _ := by
        simpa [wanted, Desired.desired, Desired.hostEndpoints] using hchoice
      simpa using hports.symm
    rw [hdesired]
    exact ⟨iff_of_true ⟨rfl, rfl, rfl⟩ hright, fun hmisported => absurd hmisported hright⟩

/-- **What decides the published port.** Whatever object is published and whatever the cluster looks
like, after an undisturbed sync that succeeds the stored object has one subset with one port. It is
the etcd port, unless the object before published all that is desired through another port; such an
object keeps its subset, and this port with it. -/
theorem published_port_iff {w after : World} {scope : String} {before : Endpoints}
    {outcome : Outcome} (stored : w.published.object = some before)
    (alone : w.published.foreign = none)
    (synced : w.hold (Reconcile.syncEndpoints scope).run = (.ok outcome, after)) :
    ∃ domain members result subset port, w.circumstances.Members domain members ∧
      after.published.object = some result ∧ result.subsets = some [subset] ∧
      subset.ports = some [port] ∧
      (IsEtcdPort port ↔ ¬ Misported before (wanted scope domain members before)) ∧
      (Misported before (wanted scope domain members before) →
        before.subsets = some [subset]) := by
  obtain ⟨found, result, domain, members, hfound, hmembers, hresult, hsubsets⟩ :=
    (World.synced_of_hold alone synced).stored
  obtain ⟨hobject, -, -⟩ := PublishedStore.find?_eq_some_iff.mp hfound
  obtain rfl : found = before := Option.some.inj (hobject.symm.trans stored)
  obtain ⟨subset, port, hwritten, hports, hiff, hkept⟩ :=
    port_written_iff scope domain members found
  exact ⟨domain, members, result, subset, port, hmembers, hresult, hsubsets.trans hwritten, hports,
    hiff, hkept⟩

/-- The object that publishes one master through this port. -/
def throughPort (port : EndpointPort) : Endpoints :=
  let addresses := some [Cast.address "10.0.0.1" "etcd-0" (some "master-0")]
  let required := Desired.hostEndpoints Names.defaultScope
    (some (Dict.empty.insert Names.domainAnnotation "example.com")) addresses
  { metadata := { required.metadata with resourceVersion := some "1" }
    subsets := some [{ addresses, ports := some [port] }] }

/-- One master, published through this port. -/
def servedThrough (port : EndpointPort) : World where
  topology :=
    { nodes := [Cast.node "master-0" ["10.0.0.1"] true]
      network := some (Cast.network "172.30.0.0/16")
      infrastructure := some (Cast.infrastructure "example.com") }
  zone := Dns.Zone.cluster "example.com" ["10.0.0.1"]
  published := { object := some (throughPort port) }

/-- The port that etcd members serve each other on. -/
def peerPort : EndpointPort := { Desired.etcdPort with port := 2380 }

theorem peerPort_published_iff :
    ∃ domain members result subset port,
      (servedThrough peerPort).circumstances.Members domain members ∧
      ((servedThrough peerPort).hold
        (Reconcile.syncEndpoints Names.defaultScope).run).2.published.object = some result ∧
      result.subsets = some [subset] ∧ subset.ports = some [port] ∧
      (IsEtcdPort port ↔
        ¬ Misported (throughPort peerPort)
          (wanted Names.defaultScope domain members (throughPort peerPort))) ∧
      (Misported (throughPort peerPort)
          (wanted Names.defaultScope domain members (throughPort peerPort)) →
        (throughPort peerPort).subsets = some [subset]) := by
  have synced : ((servedThrough peerPort).hold
      (Reconcile.syncEndpoints Names.defaultScope).run).1 = .ok .unchanged := by decide +kernel
  exact published_port_iff rfl rfl (Prod.ext synced rfl)

/-- **Another port is kept**: a sync succeeds, and the addresses are still published through it. -/
theorem other_port_kept :
    ¬ ∀ (w after : World) (scope : String) (before : Endpoints) (outcome : Outcome),
      w.published.object = some before → w.published.foreign = none →
      w.hold (Reconcile.syncEndpoints scope).run = (.ok outcome, after) →
      ∃ result subset port, after.published.object = some result ∧
        result.subsets = some [subset] ∧ subset.ports = some [port] ∧ IsEtcdPort port := by
  intro hetcd
  have synced : ((servedThrough peerPort).hold
      (Reconcile.syncEndpoints Names.defaultScope).run).1 = .ok .unchanged := by decide +kernel
  have kept : ((servedThrough peerPort).hold
      (Reconcile.syncEndpoints Names.defaultScope).run).2.published.object =
        some (throughPort peerPort) := by decide +kernel
  obtain ⟨result, subset, port, hresult, hsubsets, hports, -, hnumber, -⟩ :=
    hetcd _ _ _ _ _ rfl rfl (Prod.ext synced rfl)
  obtain rfl := Option.some.inj (kept.symm.trans hresult)
  obtain rfl := List.head_eq_of_cons_eq (Option.some.inj hsubsets)
  obtain rfl := List.head_eq_of_cons_eq (Option.some.inj hports)
  exact absurd hnumber (by decide)

end EtcdRoster.Rehearsal
