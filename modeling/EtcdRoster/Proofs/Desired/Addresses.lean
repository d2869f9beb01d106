import EtcdRoster.Reconcile.Desired

/-!
# The address of a node

A node is reached at the first of its internal addresses that can be read and belongs to the family
of the first service network.

* `preferredInternalIp_eq_ok_iff` — that address is the one that is found, as the node spells it.
* `preferredInternalIp_eq_error_iff` — a node without one ends the build, and the reason does not
  depend on the node.
-/

namespace EtcdRoster.Desired

variable {network : Network} {node : Node} {address : NodeAddress} {family : IpFamily}
  {ip : IpAddress} {spelled : String} {e : SyncError}

/-- The first service network begins, up to its first slash, with an address of the family. -/
def ServesFamily (network : Network) (family : IpFamily) : Prop :=
  ∃ status range first, network.status = some status ∧ status.serviceNetwork.head? = some range ∧
    IpAddress.parse? (String.ofList (range.toList.takeWhile (· ≠ '/'))) = some first ∧
    first.family = family

theorem preferredFamily_eq_ok_iff :
    preferredFamily network = .ok family ↔ ServesFamily network family := by
  unfold preferredFamily ServesFamily
  cases network.status with
  | none => simp
  | some status =>
    simp only [Option.bind_some, Option.some.injEq, exists_and_left, exists_eq_left']
    cases status.serviceNetwork.head? with
    | none => simp
    | some range =>
      simp only [Option.some.injEq, exists_eq_left']
      cases IpAddress.parse? (String.ofList (range.toList.takeWhile (· ≠ '/'))) <;> simp

/-- An internal address that reads as this one, in the family of the first service network. -/
structure Suits (network : Network) (address : NodeAddress) (ip : IpAddress) : Prop where
  internal : address.type = Names.internalAddress
  reads : IpAddress.parse? address.address = some ip
  family : ServesFamily network ip.family

/-- The first address of the node that suits is this one, so spelled. -/
def HasAddress (network : Network) (node : Node) (ip : IpAddress) (spelled : String) : Prop :=
  ∃ before address after, node.addresses = before ++ address :: after ∧
    Suits network address ip ∧ address.address = spelled ∧
    ∀ other ∈ before, ∀ ip, ¬ Suits network other ip

/-- No address of the node suits. -/
def Unreached (network : Network) (node : Node) : Prop :=
  ∀ address ∈ node.addresses, ∀ ip, ¬ Suits network address ip

/-- Why no address of a node suits. -/
def addressProblem (network : Network) : String :=
  match preferredFamily network with
  | .ok family => "no matches found for ip family " ++ family.label
  | .error reason => reason

/-- What is read off an address, if it is internal and in the family. -/
theorem internalIp?_eq_some_iff :
    internalIp? family address = some (ip, spelled) ↔
      address.type = Names.internalAddress ∧ IpAddress.parse? address.address = some ip ∧
        ip.family = family ∧ address.address = spelled := by
  unfold internalIp?
  by_cases hinternal : address.type = Names.internalAddress
  · rw [if_pos hinternal]
    cases IpAddress.parse? address.address with
    | none => simp
    | some first =>
      by_cases hfamily : first.family = family
      · simp only [if_pos hfamily, hinternal, true_and, Option.some.injEq, Prod.mk.injEq]
        constructor
        · rintro ⟨rfl, rfl⟩
          exact ⟨rfl, hfamily, rfl⟩
        · rintro ⟨rfl, -, rfl⟩
          exact ⟨rfl, rfl⟩
      · simp only [if_neg hfamily, hinternal, true_and, Option.some.injEq]
        constructor
        · intro h
          cases h
        · rintro ⟨rfl, h, -⟩
          exact absurd h hfamily
  · simp [hinternal]

variable (hfamily : preferredFamily network = .ok family)
include hfamily

theorem servesFamily_iff {other : IpFamily} : ServesFamily network other ↔ other = family := by
  rw [← preferredFamily_eq_ok_iff, hfamily, Except.ok.injEq, eq_comm]

theorem internalIp?_eq_some_iff_suits :
    internalIp? family address = some (ip, spelled) ↔
      Suits network address ip ∧ address.address = spelled := by
  rw [internalIp?_eq_some_iff]
  constructor
  · rintro ⟨hinternal, hreads, hip, hspelled⟩
    exact ⟨⟨hinternal, hreads, (servesFamily_iff hfamily).mpr hip⟩, hspelled⟩
  · rintro ⟨⟨hinternal, hreads, hip⟩, hspelled⟩
    exact ⟨hinternal, hreads, (servesFamily_iff hfamily).mp hip, hspelled⟩

theorem internalIp?_eq_none_iff_suits :
    internalIp? family address = none ↔ ∀ ip, ¬ Suits network address ip := by
  rw [Option.eq_none_iff_forall_ne_some]
  constructor
  · intro h ip hsuits
    exact h (ip, address.address) ((internalIp?_eq_some_iff_suits hfamily).mpr ⟨hsuits, rfl⟩)
  · rintro h ⟨ip, spelled⟩ hfound
    exact h ip ((internalIp?_eq_some_iff_suits hfamily).mp hfound).1

omit hfamily

/-- Without a family no address suits. -/
theorem unreached_of_error {reason : String} (h : preferredFamily network = .error reason) :
    Unreached network node := by
  intro address _ ip hsuits
  rw [preferredFamily_eq_ok_iff.mpr hsuits.family] at h
  cases h

theorem HasAddress.not_unreached (h : HasAddress network node ip spelled) :
    ¬ Unreached network node := by
  obtain ⟨before, address, after, haddresses, hsuits, -, -⟩ := h
  intro hnone
  exact hnone address (by simp [haddresses]) ip hsuits

/-- The address that is found is the first one that suits, as the node spells it. -/
theorem preferredInternalIp_eq_ok_iff :
    preferredInternalIp network node = .ok (ip, spelled) ↔ HasAddress network node ip spelled := by
  unfold preferredInternalIp
  cases hfamily : preferredFamily network with
  | error reason =>
    constructor
    · intro h
      cases h
    · intro h
      exact absurd (unreached_of_error hfamily) h.not_unreached
  | ok family =>
    have hfirst : node.addresses.findSome? (internalIp? family) = some (ip, spelled) ↔
        HasAddress network node ip spelled := by
      rw [List.findSome?_eq_some_iff]
      simp only [internalIp?_eq_some_iff_suits hfamily, internalIp?_eq_none_iff_suits hfamily,
        and_assoc, HasAddress]
    rw [← hfirst]
    dsimp only
    cases node.addresses.findSome? (internalIp? family) <;> simp

/-- A node without an address that suits ends the build. -/
theorem preferredInternalIp_eq_error_iff :
    preferredInternalIp network node = .error e ↔ Unreached network node ∧
      e = .topologyIncomplete node.metadata.nameOrGenerated (addressProblem network) := by
  unfold preferredInternalIp addressProblem
  cases hfamily : preferredFamily network with
  | error reason => simp [unreached_of_error hfamily, eq_comm]
  | ok family =>
    have hnone : node.addresses.findSome? (internalIp? family) = none ↔ Unreached network node := by
      rw [List.findSome?_eq_none_iff]
      simp only [internalIp?_eq_none_iff_suits hfamily, Unreached]
    rw [← hnone]
    dsimp only
    cases node.addresses.findSome? (internalIp? family) <;> simp [eq_comm]

end EtcdRoster.Desired
