import EtcdRoster.Proofs.Rehearsal.Convergence
import EtcdRoster.Proofs.Rehearsal.Runs

/-!
# The bootstrap entry survives

Only the published object knows the bootstrap member, so each sync must hand its entry on. A row of
undisturbed syncs does, whatever happens to the topology and whichever of them fail:
`bootstrap_survives`. The entry is carried over field by field, and stays the first of its name as
long as no member resolves to the name that is reserved for it.
-/

namespace EtcdRoster.Rehearsal

/-- No labelled node resolves to the short name of the bootstrap member. -/
def Circumstances.BootstrapFree (c : Circumstances) : Prop :=
  ∀ domain ∈ c.topology.infrastructure.bind (·.discoveryDomain?), ∀ network ∈ c.topology.network,
    ∀ node ∈ c.topology.labelled Names.memberLabel,
      ∀ entry ∈ Desired.entry? c.zone.resolver network domain node,
        entry.hostname ≠ some Names.bootstrapHost

instance : DecidablePred Circumstances.BootstrapFree := fun c =>
  inferInstanceAs (Decidable (∀ domain ∈ c.topology.infrastructure.bind (·.discoveryDomain?),
    ∀ network ∈ c.topology.network, ∀ node ∈ c.topology.labelled Names.memberLabel,
      ∀ entry ∈ Desired.entry? c.zone.resolver network domain node,
        entry.hostname ≠ some Names.bootstrapHost))

/-- The published object holds exactly this bootstrap entry, and nobody else waits to write it. -/
structure World.Publishes (w : World) (b : EndpointAddress) : Prop where
  alone : w.published.foreign = none
  entry : ∃ object, w.published.object = some object ∧ Desired.bootstrapAddress? object = some b

theorem Circumstances.Members.not_bootstrap {c : Circumstances} {domain : String}
    {members : List EndpointAddress} (h : c.Members domain members) (free : c.BootstrapFree) :
    ∀ a ∈ members, Desired.isBootstrap a = false := by
  obtain ⟨network, hnetwork, hentries⟩ := h.entries
  intro a ha
  obtain ⟨node, hnode, hentry⟩ := Desired.exists_node_of_mem hentries a ha
  have hlabelled := (Desired.sortNodes_perm _).mem_iff.mp hnode
  have hname := free domain h.domain_eq network hnetwork node hlabelled a hentry
  simpa [Desired.isBootstrap] using hname

theorem bootstrapAddress?_congr {a b : Endpoints} (h : a.subsets = b.subsets) :
    Desired.bootstrapAddress? a = Desired.bootstrapAddress? b := by
  simp only [Desired.bootstrapAddress?, Endpoints.firstAddresses, h]

/-- The object to write has the bootstrap entry of the published one. -/
theorem bootstrapAddress?_written {scope domain : String} {members : List EndpointAddress}
    {before : Endpoints} {b : EndpointAddress} (hb : Desired.bootstrapAddress? before = some b)
    (hmembers : ∀ a ∈ members, Desired.isBootstrap a = false) :
    Desired.bootstrapAddress? (written scope domain members before) = some b := by
  obtain hkept | hreplaced :=
    Difference.subsets_reconcile before (wanted scope domain members before)
  · rw [bootstrapAddress?_congr hkept, hb]
  · rw [bootstrapAddress?_congr hreplaced, wanted, hb]
    have hname := Desired.isBootstrap_of_bootstrapAddress? hb
    exact Desired.bootstrapAddress?_of_members hname hmembers

/-- One undisturbed sync hands the bootstrap entry on, however it ends. -/
theorem Synced.publishes {w m : World} {scope : String} {r : Except SyncError Reconcile.Outcome}
    {b : EndpointAddress} (h : Synced w scope r m) (free : w.circumstances.BootstrapFree)
    (hw : w.Publishes b) : m.Publishes b := by
  obtain ⟨object, hobject, hb⟩ := hw.entry
  cases h with
  | unplanned | unchanged | refused => exact ⟨hw.alone, object, hobject, hb⟩
  | updated queries found decided differs =>
    obtain rfl := Option.some.inj ((PublishedStore.find?_eq_some_iff.mp found).1.symm.trans hobject)
    exact ⟨hw.alone, _, rfl, bootstrapAddress?_written hb (decided.not_bootstrap free)⟩

/-- **The bootstrap entry survives.** In a row of syncs, each under circumstances of its own, with
no other writer and no member of the reserved name, the published object holds exactly the same
bootstrap entry after every sync, whether it succeeded or failed. -/
theorem bootstrap_survives {w : World} {scope : String} {before : Endpoints} {b : EndpointAddress}
    {row : List Circumstances} (alone : w.published.foreign = none)
    (stored : w.published.object = some before)
    (bootstrap : Desired.bootstrapAddress? before = some b) (free : ∀ c ∈ row, c.BootstrapFree) :
    ∀ after ∈ w.syncs scope row, ∃ object,
      after.published.object = some object ∧ Desired.bootstrapAddress? object = some b := by
  have hkeeps : ∀ (w' : World) (c : Circumstances), c.BootstrapFree → w'.Publishes b →
      World.Publishes ((w'.under c).hold (Reconcile.sync scope)).2 b := by
    intro w' c hfree hw'
    have hunder : (w'.under c).Publishes b := ⟨hw'.alone, hw'.entry⟩
    obtain ⟨r, m, hsynced, hpublished⟩ := World.synced_of_hold_sync hunder.alone rfl
    obtain ⟨halone, hentry⟩ := hsynced.publishes hfree hunder
    rw [← hpublished] at halone hentry
    exact ⟨halone, hentry⟩
  intro after hafter
  have hstart : w.Publishes b := ⟨alone, before, stored, bootstrap⟩
  exact (World.syncs_invariant hkeeps hstart free after hafter).entry

/-- A cluster that grows while it is published: at first its service network is unknown, then one
master is found but cannot be published, then both masters are. -/
def growing : List Circumstances :=
  let infrastructure := some (Cast.infrastructure "example.com")
  let network := some (Cast.network "172.30.0.0/16")
  let first := Cast.node "master-0" ["10.0.0.1"] true
  let second := Cast.node "master-1" ["10.0.0.2"] true
  let zone := Dns.Zone.cluster "example.com" ["10.0.0.1", "10.0.0.2"]
  [⟨{ nodes := [first], infrastructure }, zone, false, false, fun _ => none⟩,
    ⟨{ nodes := [first], network, infrastructure }, zone, true, true, fun _ => none⟩,
    ⟨{ nodes := [second, first], network, infrastructure }, zone, false, true, fun _ => none⟩]

theorem growing_keeps_bootstrap :
    ((masters.syncs Names.defaultScope growing).map (·.published.writes)) = [0, 0, 1] ∧
    ∀ after ∈ masters.syncs Names.defaultScope growing, ∃ object,
      after.published.object = some object ∧ Desired.bootstrapAddress? object
        = some (Cast.address "10.0.0.7" Names.bootstrapHost none) := by
  have free : ∀ c ∈ growing, c.BootstrapFree := by decide +kernel
  have hbootstrap : Desired.bootstrapAddress? disorderly
      = some (Cast.address "10.0.0.7" Names.bootstrapHost none) := by decide +kernel
  exact ⟨by decide +kernel, bootstrap_survives rfl rfl hbootstrap free⟩

end EtcdRoster.Rehearsal
