import EtcdRoster.Proofs.Rehearsal.Bootstrap
import EtcdRoster.Proofs.Reordering

/-!
# No entry twice

An entry is known by its address, its host name and its node. Nodes have different names, so members
have different keys. The bootstrap entry comes from another source: it is whatever the published
object holds under the name that is reserved for it, and what one sync publishes is the source of
the next one.

* `Circumstances.Members.nodup_keys` — members have different keys.
* `distinct_after_sync_iff` — after a sync that succeeds no key is there twice, exactly if the
  bootstrap entry carried over is none of the members; `Synced.distinctKeys_of_bootstrapFree` says
  when this is sure.
* `member_published_twice` — a member that resolves to the reserved name is taken for the bootstrap
  member by the next sync, and published twice.
-/

namespace EtcdRoster

/-- No two entries of the first subset have the same key. -/
def Endpoints.DistinctKeys (e : Endpoints) : Prop :=
  (e.firstAddresses.map EndpointAddress.key).Nodup

instance : DecidablePred Endpoints.DistinctKeys := fun e =>
  inferInstanceAs (Decidable (e.firstAddresses.map EndpointAddress.key).Nodup)

namespace Rehearsal

open Reconcile (Outcome)

/-! ## One sync -/

/-- Every entry bears the name of its node. -/
theorem map_nodeName_of_forall₂ {resolver : Dns.Resolver} {network : Network} {domain : String}
    {nodes : List Node} {entries : List EndpointAddress}
    (h : List.Forall₂ (Desired.IsEntry resolver network domain) nodes entries) :
    entries.map (·.nodeName) = (nodes.map fun node => node.metadata.nameOrGenerated).map some := by
  induction h with
  | nil => rfl
  | cons hentry _ ih =>
    obtain ⟨ip, spelled, name, -, -, rfl⟩ := Desired.isEntry_iff.mp hentry
    exact congrArg (List.cons _) ih

/-- Members of differently named nodes have different keys. -/
theorem Circumstances.Members.nodup_keys {c : Circumstances} {domain : String}
    {members : List EndpointAddress} (h : c.Members domain members)
    (distinct : Desired.DistinctNames c.topology.nodes) :
    (members.map EndpointAddress.key).Nodup := by
  obtain ⟨network, -, hentries⟩ := h.entries
  have hlabelled : Desired.DistinctNames (c.topology.labelled Names.memberLabel) :=
    distinct.sublist (List.filter_sublist.map _)
  have hsorted : Desired.DistinctNames
      (Desired.sortNodes (c.topology.labelled Names.memberLabel)) :=
    ((Desired.sortNodes_perm _).map _).nodup_iff.mpr hlabelled
  have hnames : (members.map (·.nodeName)).Nodup := by
    rw [map_nodeName_of_forall₂ hentries]
    exact hsorted.map fun _ _ => Option.some.inj
  refine List.Nodup.of_map (fun key => key.2.2) ?_
  rwa [List.map_map]

/-- After a sync that succeeds no key is there twice, exactly if the bootstrap entry that was
carried over is none of the members. -/
theorem Synced.distinctKeys_iff {w m : World} {scope : String} {outcome : Outcome}
    (h : Synced w scope (.ok outcome) m) (distinct : Desired.DistinctNames w.topology.nodes) :
    ∃ before result domain members, w.published.object = some before ∧
      w.circumstances.Members domain members ∧ m.published.object = some result ∧
      (result.DistinctKeys ↔
        ∀ b ∈ Desired.bootstrapAddress? before, b.key ∉ members.map EndpointAddress.key) := by
  obtain ⟨before, result, domain, members, hfound, hmembers, hresult, hsubsets⟩ := h.stored
  obtain ⟨hobject, -, -⟩ := PublishedStore.find?_eq_some_iff.mp hfound
  refine ⟨before, result, domain, members, hobject, hmembers, hresult, ?_⟩
  have hkeys : (members.map EndpointAddress.key).Nodup := hmembers.nodup_keys distinct
  have hperm : result.firstAddresses.Perm
      (members ++ (Desired.bootstrapAddress? before).toList) := by
    have hfirst := firstAddresses_reconcile_perm before scope domain
      (members ++ (Desired.bootstrapAddress? before).toList)
    rwa [Endpoints.firstAddresses, ← hsubsets] at hfirst
  rw [Endpoints.DistinctKeys, (hperm.map _).nodup_iff, List.map_append, List.nodup_append']
  cases Desired.bootstrapAddress? before with
  | none => simp [hkeys]
  | some b => simp [hkeys]

/-- If no member has the reserved name, no key is there twice. -/
theorem Synced.distinctKeys_of_bootstrapFree {w m : World} {scope : String} {outcome : Outcome}
    (h : Synced w scope (.ok outcome) m) (distinct : Desired.DistinctNames w.topology.nodes)
    (free : w.circumstances.BootstrapFree) :
    ∃ result, m.published.object = some result ∧ result.DistinctKeys := by
  obtain ⟨before, result, domain, members, -, hmembers, hresult, hiff⟩ :=
    h.distinctKeys_iff distinct
  refine ⟨result, hresult, hiff.mpr fun b hb hmem => ?_⟩
  have hbootstrap : b.hostname = some Names.bootstrapHost := by
    simpa [Desired.isBootstrap] using Desired.isBootstrap_of_bootstrapAddress? hb
  obtain ⟨a, ha, hkey⟩ := List.mem_map.mp hmem
  have hnot : a.hostname ≠ some Names.bootstrapHost := by
    simpa [Desired.isBootstrap] using hmembers.not_bootstrap free a ha
  exact hnot ((congrArg (·.2.1) hkey).trans hbootstrap)

/-! ## Rows of syncs -/

/-- **When no entry is published twice.** In a row of syncs, each under circumstances of its own
with differently named nodes and with no other writer, after every sync that succeeds the keys in
the stored object are different, exactly if the bootstrap entry of the object before is none of the
members of that sync. -/
theorem distinct_after_sync_iff {w : World} {scope : String} {row : List Circumstances}
    (alone : w.published.foreign = none)
    (distinct : ∀ c ∈ row, Desired.DistinctNames c.topology.nodes) :
    ∀ turn ∈ w.turns scope row, ∀ outcome,
      (turn.1.hold (Reconcile.syncEndpoints scope).run).1 = .ok outcome →
      ∃ before result domain members, turn.1.published.object = some before ∧
        turn.1.circumstances.Members domain members ∧ turn.2.published.object = some result ∧
        (result.DistinctKeys ↔
          ∀ b ∈ Desired.bootstrapAddress? before, b.key ∉ members.map EndpointAddress.key) := by
  intro turn hturn outcome succeeded
  obtain ⟨hforeign, hrow, hafter⟩ := World.exists_of_mem_turns alone turn hturn
  have hsynced : Synced turn.1 scope (.ok outcome)
      (turn.1.hold (Reconcile.syncEndpoints scope).run).2 :=
    World.synced_of_hold hforeign (Prod.ext succeeded rfl)
  have hpublished : turn.2.published =
      (turn.1.hold (Reconcile.syncEndpoints scope).run).2.published := by
    rw [hafter, World.published_hold_sync hforeign]
  rw [hpublished]
  exact hsynced.distinctKeys_iff (distinct turn.1.circumstances hrow)

/-- The service records give the reserved name to a master. -/
def reserved : Circumstances where
  topology :=
    { nodes := [Cast.node "master-0" ["10.0.0.1"] true]
      network := some (Cast.network "172.30.0.0/16")
      infrastructure := some (Cast.infrastructure "example.com") }
  zone :=
    { services := Dict.empty.insert "_etcd-server-ssl._tcp.example.com."
        ["etcd-bootstrap.example.com."]
      hosts := Dict.empty.insert "etcd-bootstrap.example.com." (Dns.Zone.addresses ["10.0.0.1"]) }
  failing := false
  statusFailing := false
  faults := fun _ => none

/-- The master is published, under the name that it had before. -/
def renamed : World where
  published :=
    { object := some (Cast.endpoints [Cast.address "10.0.0.1" "etcd-0" (some "master-0")]) }

/-- The second sync succeeds and leaves an object that holds the master twice. -/
theorem exists_turn_renamed :
    ∃ turn ∈ renamed.turns Names.defaultScope [reserved, reserved],
      (turn.1.hold (Reconcile.syncEndpoints Names.defaultScope).run).1 = .ok .updated ∧
      ∃ result, turn.2.published.object = some result ∧ ¬ result.DistinctKeys := by
  have hlast : (renamed.turns Names.defaultScope [reserved, reserved]).any (fun turn =>
      (turn.1.hold (Reconcile.syncEndpoints Names.defaultScope).run).1 = .ok .updated ∧
        turn.2.published.object.any fun result => !decide result.DistinctKeys) = true := by
    decide +kernel
  obtain ⟨turn, hturn, hend⟩ := List.any_eq_true.mp hlast
  obtain ⟨succeeded, htwice⟩ := of_decide_eq_true hend
  obtain ⟨result, hresult, hkeys⟩ := (Option.any_eq_true ..).mp htwice
  exact ⟨turn, hturn, succeeded, result, hresult, by simpa using hkeys⟩

theorem renamed_distinct_iff :
    ∃ turn ∈ renamed.turns Names.defaultScope [reserved, reserved],
      (turn.1.hold (Reconcile.syncEndpoints Names.defaultScope).run).1 = .ok .updated ∧
      ∃ before result domain members, turn.1.published.object = some before ∧
        turn.1.circumstances.Members domain members ∧ turn.2.published.object = some result ∧
        (result.DistinctKeys ↔
          ∀ b ∈ Desired.bootstrapAddress? before, b.key ∉ members.map EndpointAddress.key) := by
  obtain ⟨turn, hturn, succeeded, -⟩ := exists_turn_renamed
  have distinct : ∀ c ∈ [reserved, reserved], Desired.DistinctNames c.topology.nodes := by
    decide +kernel
  exact ⟨turn, hturn, succeeded, distinct_after_sync_iff rfl distinct turn hturn _ succeeded⟩

/-- **A member is published twice** if it resolves to the reserved name: the second sync takes what
the first one has published for the bootstrap entry. -/
theorem member_published_twice :
    ¬ ∀ (w : World) (scope : String) (row : List Circumstances), w.published.foreign = none →
      (∀ c ∈ row, Desired.DistinctNames c.topology.nodes) →
      ∀ turn ∈ w.turns scope row, ∀ outcome,
        (turn.1.hold (Reconcile.syncEndpoints scope).run).1 = .ok outcome →
        ∃ result, turn.2.published.object = some result ∧ result.DistinctKeys := by
  intro hdistinct
  obtain ⟨turn, hturn, succeeded, result, hresult, htwice⟩ := exists_turn_renamed
  obtain ⟨other, hother, hkeys⟩ :=
    hdistinct _ _ _ rfl (by decide +kernel) turn hturn _ succeeded
  obtain rfl := Option.some.inj (hresult.symm.trans hother)
  exact htwice hkeys

end Rehearsal

end EtcdRoster
