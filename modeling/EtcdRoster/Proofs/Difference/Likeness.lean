import EtcdRoster.Proofs.Difference.Subsets
import EtcdRoster.Proofs.Stability
import Mathlib.Data.List.Forall2

/-!
# When subsets are equal

Subsets are compared after sorting their addresses by key. Entries with one key may differ in what
the key leaves out, and then their order does count, because sorting keeps it. So a subset is known
by two counts and, for each key, the row of its entries with that key.

* `sortAddresses_eq_iff` — two lists are sorted to the same list exactly if they hold the same row
  of entries for each key.
* `subsetEqual_exact` — **equal subsets agree in the two counts and in all rows, and in nothing
  else**. So the comparison is an equivalence, place by place also of lists of subsets, and it does
  not see the order of entries that their keys tell apart.
-/

namespace EtcdRoster

/-- The entries with a key, in the order of the list. -/
def EndpointSubset.row (s : EndpointSubset) (key : String × Option String × Option String) :
    List EndpointAddress :=
  (s.addresses.getD []).filter (·.key = key)

namespace Difference

/-! ## The order of addresses -/

theorem compareAddresses_eq_compareLex :
    compareAddresses = compareLex (compareOn EndpointAddress.ip)
      (compareLex (compareOn EndpointAddress.hostname) (compareOn EndpointAddress.nodeName)) :=
  rfl

instance : Std.TransCmp compareAddresses := by
  rw [compareAddresses_eq_compareLex]
  infer_instance

theorem compareAddresses_eq_eq_iff {a b : EndpointAddress} :
    compareAddresses a b = .eq ↔ a.key = b.key := by
  simp [compareAddresses, EndpointAddress.key]

/-- Whether an address may come before another one. -/
abbrev precedes (a b : EndpointAddress) : Bool := (compareAddresses a b).isLE

theorem precedes_total (a b : EndpointAddress) (h : precedes a b = false) : precedes b a = true := by
  have hswap : compareAddresses b a = (compareAddresses a b).swap := Std.OrientedCmp.eq_swap
  rw [precedes, hswap, Ordering.isLE_swap]
  cases hab : compareAddresses a b <;> simp_all [precedes]

theorem precedes_trans (a b c : EndpointAddress) (hab : precedes a b = true)
    (hbc : precedes b c = true) : precedes a c = true :=
  Std.TransCmp.isLE_trans hab hbc

/-- The comparison tells two entries apart exactly if their keys do. -/
theorem alike_precedes {a b : EndpointAddress} :
    Sorting.alike precedes a b = true ↔ a.key = b.key := by
  rw [← compareAddresses_eq_eq_iff, Sorting.alike, Bool.and_eq_true]
  constructor
  · rintro ⟨hab, hba⟩
    exact Std.OrientedCmp.isLE_antisymm hab hba
  · intro h
    have hba : compareAddresses b a = .eq := Std.OrientedCmp.eq_symm h
    simp [precedes, h, hba]

/-- Two lists are sorted to the same list exactly if they hold the same row of entries for each
key. -/
theorem sortAddresses_eq_iff {l l' : List EndpointAddress} :
    sortAddresses l = sortAddresses l' ↔
      ∀ key, l.filter (·.key = key) = l'.filter (·.key = key) := by
  have hclass : ∀ a, Sorting.alike precedes a = fun b => decide (b.key = a.key) := by
    intro a
    funext b
    rw [Bool.eq_iff_iff, alike_precedes, decide_eq_true_iff, eq_comm]
  rw [sortAddresses, sortAddresses, Sorting.sort_eq_sort_iff precedes_total precedes_trans]
  simp only [hclass]
  constructor
  · rintro h ⟨ip, hostname, nodeName⟩
    exact h { ip, hostname, nodeName }
  · intro h a
    exact h a.key

/-! ## Equal subsets -/

/-- Equal subsets have the same two counts and the same row of entries for each key. -/
theorem subsetEqual_iff {a b : EndpointSubset} :
    subsetEqual a b = true ↔
      count a.notReadyAddresses = count b.notReadyAddresses ∧ count a.ports = count b.ports ∧
        ∀ key, a.row key = b.row key := by
  have hrows : (∀ key, a.row key = b.row key) ↔
      sortAddresses (a.addresses.getD []) = sortAddresses (b.addresses.getD []) :=
    sortAddresses_eq_iff.symm
  rw [hrows]
  simp only [subsetEqual, Bool.and_eq_true, beq_iff_eq]
  constructor
  · rintro ⟨⟨⟨-, hnotReady⟩, hports⟩, hsorted⟩
    exact ⟨hnotReady, hports, hsorted⟩
  · rintro ⟨hnotReady, hports, hsorted⟩
    have hcount : count a.addresses = count b.addresses := by
      have hlength : ∀ l : List EndpointAddress, (sortAddresses l).length = l.length := fun l =>
        (Sorting.sort_perm _ l).length_eq
      rw [count, count, ← hlength, hsorted, hlength]
    exact ⟨⟨⟨hcount, hnotReady⟩, hports⟩, hsorted⟩

theorem equivalence_subsetEqual : Equivalence fun a b => subsetEqual a b = true where
  refl := subsetEqual_refl
  symm := by
    intro a b h
    obtain ⟨hnotReady, hports, hrows⟩ := subsetEqual_iff.mp h
    exact subsetEqual_iff.mpr ⟨hnotReady.symm, hports.symm, fun key => (hrows key).symm⟩
  trans := by
    intro a b c hab hbc
    obtain ⟨hnotReady, hports, hrows⟩ := subsetEqual_iff.mp hab
    obtain ⟨hnotReady', hports', hrows'⟩ := subsetEqual_iff.mp hbc
    exact subsetEqual_iff.mpr ⟨hnotReady.trans hnotReady', hports.trans hports',
      fun key => (hrows key).trans (hrows' key)⟩

/-- Lists of subsets are compared place by place. -/
theorem subsetsEqual_iff {a b : List EndpointSubset} :
    subsetsEqual a b = true ↔ List.Forall₂ (fun x y => subsetEqual x y = true) a b := by
  induction a generalizing b with
  | nil => cases b <;> simp [subsetsEqual]
  | cons x a ih => cases b <;> simp [subsetsEqual, ih]

theorem equivalence_subsetsEqual : Equivalence fun a b => subsetsEqual a b = true where
  refl := subsetsEqual_refl
  symm := by
    intro a b h
    rw [subsetsEqual_iff] at h ⊢
    exact h.flip.imp fun _ _ => equivalence_subsetEqual.symm
  trans := by
    intro a b c hab hbc
    rw [subsetsEqual_iff] at hab hbc ⊢
    induction hab generalizing c with
    | nil => exact hbc
    | cons hfirst _ ih =>
      cases hbc with
      | cons hfirst' hrest' =>
        exact .cons (equivalence_subsetEqual.trans hfirst hfirst') (ih hrest')

/-! ## Entries that their keys tell apart -/

/-- Entries with the same key are the same. -/
def KeysTell (addresses : List EndpointAddress) : Prop :=
  ∀ a ∈ addresses, ∀ b ∈ addresses, a.key = b.key → a = b

instance : DecidablePred KeysTell := fun addresses =>
  inferInstanceAs (Decidable (∀ a ∈ addresses, ∀ b ∈ addresses, a.key = b.key → a = b))

/-- The order of entries does not matter if their keys tell them apart. -/
theorem subsetEqual_of_perm {s : EndpointSubset} {l p q : List EndpointAddress} (tell : KeysTell l)
    (hp : p.Perm l) (hq : q.Perm l) :
    subsetEqual { s with addresses := some p } { s with addresses := some q } = true := by
  have apart : ∀ a ∈ l, ∀ b ∈ l, precedes a b = true → precedes b a = true → a = b := by
    intro a ha b hb hab hba
    exact tell a ha b hb (alike_precedes.mp (by simp [Sorting.alike, hab, hba]))
  have hsorted : ∀ l', l'.Perm l → sortAddresses l' = sortAddresses l := fun l' h =>
    Sorting.sort_eq_of_perm precedes_total precedes_trans apart h
  refine subsetEqual_iff.mpr ⟨rfl, rfl, ?_⟩
  exact sortAddresses_eq_iff.mp ((hsorted p hp).trans (hsorted q hq).symm)

/-! ## The meaning of the comparison -/

/-- **What equal subsets have in common.** Two subsets are equal exactly if they have as many
entries not ready and as many ports, and for each address, host name and node name the same row of
entries, in order and with all that the entries hold. So both comparisons are equivalences, and no
subset tells two orders of a list apart whose keys tell its entries apart. -/
theorem subsetEqual_exact :
    (∀ a b : EndpointSubset, subsetEqual a b = true ↔
      count a.notReadyAddresses = count b.notReadyAddresses ∧ count a.ports = count b.ports ∧
        ∀ ip hostname nodeName, a.row (ip, hostname, nodeName) = b.row (ip, hostname, nodeName)) ∧
    Equivalence (fun a b : EndpointSubset => subsetEqual a b = true) ∧
    Equivalence (fun a b : List EndpointSubset => subsetsEqual a b = true) ∧
    ∀ (s : EndpointSubset) (l p q : List EndpointAddress), KeysTell l → p.Perm l → q.Perm l →
      subsetEqual { s with addresses := some p } { s with addresses := some q } = true ∧
      ∀ other, subsetEqual { s with addresses := some p } other
        = subsetEqual { s with addresses := some q } other := by
  refine ⟨?meaning, equivalence_subsetEqual, equivalence_subsetsEqual, ?orders⟩
  case meaning =>
    intro a b
    rw [subsetEqual_iff]
    simp only [Prod.forall]
  case orders =>
    intro s l p q tell hp hq
    have hequal := subsetEqual_of_perm (s := s) tell hp hq
    refine ⟨hequal, fun other => ?_⟩
    rw [Bool.eq_iff_iff]
    constructor
    · exact equivalence_subsetEqual.trans (equivalence_subsetEqual.symm hequal)
    · exact equivalence_subsetEqual.trans hequal

/-- Two entries that stand for different objects behind one key. -/
def twins : List EndpointAddress :=
  [{ ip := "10.0.0.1", targetRef := some { name := some "blue" } },
    { ip := "10.0.0.1", targetRef := some { name := some "green" } }]

/-- Entries of different keys, one of them twice. -/
def siblings : List EndpointAddress :=
  [{ ip := "10.0.0.2" }, { ip := "10.0.0.1", hostname := some "etcd-0" }, { ip := "10.0.0.2" },
    { ip := "10.0.0.1" }]

/-- The order of siblings does not count, that of twins does. -/
theorem siblings_in_any_order :
    KeysTell siblings ∧ siblings.reverse.Perm siblings ∧
    subsetEqual { addresses := some siblings.reverse } { addresses := some siblings } = true ∧
    ¬ KeysTell twins ∧
    subsetEqual { addresses := some twins.reverse } { addresses := some twins } = false := by
  have tell : KeysTell siblings := by decide +kernel
  obtain ⟨meaning, -, -, orders⟩ := subsetEqual_exact
  refine ⟨tell, List.reverse_perm siblings, ?_, by decide +kernel, ?_⟩
  · exact (orders {} siblings _ _ tell (List.reverse_perm siblings) .rfl).1
  · rw [Bool.eq_false_iff, ne_eq, meaning]
    rintro ⟨-, -, hrows⟩
    exact absurd (hrows "10.0.0.1" none none) (by decide +kernel)

end Difference

end EtcdRoster
