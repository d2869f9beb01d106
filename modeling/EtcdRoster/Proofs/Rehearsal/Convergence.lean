import EtcdRoster.Proofs.Rehearsal.Alone
import EtcdRoster.Rehearsal.Cast

/-!
# Convergence

One undisturbed sync that succeeds leaves the published object as it ought to be, whatever it was
before: `syncEndpoints_converges`. It takes no second sync to remove a stray subset, an address of a
node that is gone, or a wrong domain. Labels, annotations of others and the rest of the metadata
survive, so the object stays the one that others know.

All outcomes go through `converged_written`: the object to write has converged in every case, and if
nothing is reported to differ it is the published object itself.
-/

namespace EtcdRoster

/-- The value of an annotation, if there is one. -/
def ObjectMeta.annotation? (m : ObjectMeta) (key : String) : Option String :=
  m.annotations.bind (·.get? key)

namespace Rehearsal

open Reconcile (Outcome)

/-- What an object must be after a sync that found `before` and resolved these members: one subset
with one port that holds the members and the bootstrap entry of `before`, each exactly once, and
metadata that differs from that of `before` only in the annotation of the domain and the version. -/
structure Converged (domain : String) (members : List EndpointAddress) (before after : Endpoints) :
    Prop where
  one_subset : ∃ subset port, after.subsets = some [subset] ∧
    (subset.addresses.getD []).Perm (members ++ (Desired.bootstrapAddress? before).toList) ∧
    subset.notReadyAddresses.getD [] = [] ∧ subset.ports = some [port]
  annotation_eq : ∀ key, after.metadata.annotation? key =
    if key = Names.domainAnnotation then some domain else before.metadata.annotation? key
  metadata_eq : { after.metadata with
    annotations := before.metadata.annotations
    resourceVersion := before.metadata.resourceVersion } = before.metadata

namespace Converged

variable {domain : String} {members entries : List EndpointAddress} {before after : Endpoints}

theorem withVersion (h : Converged domain members before after) (version : String) :
    Converged domain members before (PublishedStore.withVersion after version) :=
  ⟨h.one_subset, h.annotation_eq, h.metadata_eq⟩

theorem of_perm (h : Converged domain entries before after) (hperm : entries.Perm members) :
    Converged domain members before after := by
  obtain ⟨subset, port, hsubsets, haddresses, hrest⟩ := h.one_subset
  exact ⟨⟨subset, port, hsubsets, haddresses.trans (hperm.append_right _), hrest⟩,
    h.annotation_eq, h.metadata_eq⟩

end Converged

/-- The object to write has converged, whether its subsets were kept or replaced. -/
theorem converged_written {scope domain : String} {members : List EndpointAddress}
    {before : Endpoints} (hname : before.metadata.name = some Names.published)
    (hscope : before.metadata.namespace = some scope) :
    Converged domain members before (written scope domain members before) := by
  have hmeta : (written scope domain members before).metadata
      = { before.metadata with
          annotations := (Difference.mergeDict before.metadata.annotations
            (some (Dict.empty.insert Names.domainAnnotation domain))).1 } := by
    rw [Difference.metadata_reconcile]
    simp only [Difference.mergeMeta, wanted, Desired.desired, Desired.hostEndpoints, hname, hscope,
      Difference.mergeText_self, Difference.mergeDict]
  refine ⟨?_, fun key => ?_, ?_⟩
  · obtain ⟨subset, hsubsets, hequal⟩ := Difference.exists_subset_reconcile before
      (wanted scope domain members before) rfl
    have hports : Difference.count subset.ports = 1 := Difference.count_ports_of_subsetEqual hequal
    have hnotReady : Difference.count subset.notReadyAddresses = 0 :=
      Difference.count_notReady_of_subsetEqual hequal
    obtain ⟨port, hport⟩ := List.length_eq_one_iff.mp hports
    exact ⟨subset, port, hsubsets, Difference.perm_of_subsetEqual hequal,
      List.length_eq_zero_iff.mp hnotReady, Difference.eq_some_singleton_of_getD hport⟩
  · rw [hmeta]
    exact Difference.get?_mergeDict_single (by decide) key
  · rw [hmeta]

/-- In this world `after` is the object to which `before` converges: its members are the entries of
exactly the labelled nodes, one each. -/
def ConvergesTo (w : World) (before after : Endpoints) : Prop :=
  ∃ domain network members,
    w.topology.infrastructure.bind (·.discoveryDomain?) = some domain ∧
    w.topology.network = some network ∧
    List.Forall₂ (Desired.IsEntry w.zone.resolver network domain)
      (w.topology.labelled Names.memberLabel) members ∧
    Converged domain members before after

/-- **Convergence in one sync.** Whatever object is published, if an undisturbed sync succeeds then
the object afterwards has converged. -/
theorem syncEndpoints_converges {w after : World} {scope : String} {before : Endpoints}
    {outcome : Outcome} (stored : w.published.object = some before)
    (alone : w.published.foreign = none)
    (synced : w.hold (Reconcile.syncEndpoints scope).run = (.ok outcome, after)) :
    ∃ result, after.published.object = some result ∧ ConvergesTo w before result := by
  have hends := World.synced_of_hold alone synced
  -- What both ways to succeed have in common: the plan was made from the stored object.
  have hplan : ∀ {published : Endpoints} {domain : String} {entries : List EndpointAddress},
      w.published.find? Names.published scope = some published →
      w.circumstances.Members domain entries → published = before ∧ ∃ network members,
        w.topology.network = some network ∧
        List.Forall₂ (Desired.IsEntry w.zone.resolver network domain)
          (w.topology.labelled Names.memberLabel) members ∧
        Converged domain members before (written scope domain entries before) := by
    intro published domain entries found decided
    obtain ⟨hobject, hname, hscope⟩ := PublishedStore.find?_eq_some_iff.mp found
    obtain rfl : published = before := Option.some.inj (hobject.symm.trans stored)
    obtain ⟨network, hnetwork, hentries⟩ := decided.entries
    obtain ⟨members, hmembers, hperm⟩ :=
      Desired.exists_entries_perm (Desired.sortNodes_perm _) hentries
    exact ⟨rfl, network, members, hnetwork, hmembers,
      (converged_written hname hscope).of_perm hperm⟩
  cases hends with
  | unchanged queries found decided same =>
    obtain ⟨rfl, network, members, hnetwork, hmembers, hconverged⟩ := hplan found decided
    rw [written, Difference.reconcile_unchanged same] at hconverged
    exact ⟨_, stored, _, network, members, decided.domain_eq, hnetwork, hmembers, hconverged⟩
  | updated queries found decided differs =>
    obtain ⟨rfl, network, members, hnetwork, hmembers, hconverged⟩ := hplan found decided
    exact ⟨_, rfl, _, network, members, decided.domain_eq, hnetwork, hmembers,
      hconverged.withVersion _⟩

/-- A published object in disorder: two subsets, the first with the entry of a node that is gone,
the bootstrap entry and no port, and metadata of somebody else. -/
def disorderly : Endpoints where
  metadata :=
    { name := some Names.published
      «namespace» := some Names.defaultScope
      labels := some (Dict.empty.insert "owner" "bootstrap")
      annotations := some (Dict.empty.insert Names.domainAnnotation "old.example")
      resourceVersion := some "41" }
  subsets := some [
    { addresses := some [Cast.address "10.0.0.9" "etcd-9" (some "master-9"),
        Cast.address "10.0.0.7" Names.bootstrapHost none]
      notReadyAddresses := some [Cast.address "10.0.0.8" "etcd-8" none] },
    { addresses := none, ports := some [Desired.etcdPort, Desired.etcdPort] }]

/-- Two masters, listed out of order, and a worker. -/
def masters : World where
  topology :=
    { nodes := [Cast.node "master-1" ["10.0.0.2"] true, Cast.node "worker-0" ["10.0.0.3"] false,
        Cast.node "master-0" ["10.0.0.1"] true]
      network := some (Cast.network "172.30.0.0/16")
      infrastructure := some (Cast.infrastructure "example.com") }
  zone := Dns.Zone.cluster "example.com" ["10.0.0.1", "10.0.0.2"]
  published := { object := some disorderly }

theorem masters_converge :
    (masters.hold (Reconcile.syncEndpoints Names.defaultScope).run).1 = .ok .updated ∧
    ∃ result, (masters.hold (Reconcile.syncEndpoints Names.defaultScope).run).2.published.object
      = some result ∧ ConvergesTo masters disorderly result := by
  have synced : (masters.hold (Reconcile.syncEndpoints Names.defaultScope).run).1
      = .ok .updated := by decide +kernel
  exact ⟨synced, syncEndpoints_converges rfl rfl (Prod.ext synced rfl)⟩

end Rehearsal

end EtcdRoster
