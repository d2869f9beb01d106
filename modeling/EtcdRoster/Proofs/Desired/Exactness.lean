import EtcdRoster.Proofs.Desired.NameOrder
import EtcdRoster.Proofs.Desired.Roll
import EtcdRoster.Proofs.Reordering

/-!
# A build is all or nothing

A build calls the nodes in name order and publishes what it has found out about them and, last, the
bootstrap entry. `build_run_ok_iff` and `build_run_error_iff` tell how it ends. **It succeeds
exactly if it finds out about every node and there is something to publish; otherwise it ends with
the error of the first node that fails, or because there is nothing** (`build_exact`). The resolver
may answer the same question differently each time.
-/

namespace EtcdRoster

/-- A resolver that answers some questions and then no more. -/
def Dns.Resolver.lasting (resolver : Dns.Resolver) : (q : Dns.Question) → Nat → q.Answer × Nat
  | q, left + 1 => (resolver.answer q, left)
  | .service name, 0 => (.error (.dnsFailure name "timed out"), 0)
  | .host name, 0 => (.error (.dnsFailure name "timed out"), 0)

namespace Desired

variable {σ : Type} {answer : (q : Dns.Question) → σ → q.Answer × σ} {network : Network}
  {domain scope : String} {nodes : List Node} {bootstrap : Option EndpointAddress}
  {required : Endpoints} {s t : σ} {e : SyncError}

/-! ## How a build ends -/

/-- There is nothing to publish exactly if there is neither a node nor a bootstrap entry. -/
theorem Finds.entries_isEmpty_iff {findings : List Finding}
    (h : Finds answer network domain s (sortNodes nodes) findings t) :
    (findings.map Finding.entry ++ bootstrap.toList).isEmpty = true ↔
      nodes = [] ∧ bootstrap = none := by
  have hlength : findings.length = nodes.length :=
    h.length_eq.trans (sortNodes_perm nodes).length_eq
  have hempty : findings = [] ↔ nodes = [] := by
    rw [← List.length_eq_zero_iff, hlength, List.length_eq_zero_iff]
  rw [List.isEmpty_iff, List.append_eq_nil_iff, List.map_eq_nil_iff, hempty,
    Option.toList_eq_nil_iff]

/-- A build succeeds if it finds out about every node and there is something to publish. -/
theorem build_run_ok_iff :
    (build nodes network domain bootstrap scope).run.run answer s = (.ok required, t) ↔
      ∃ findings, Finds answer network domain s (sortNodes nodes) findings t ∧
        ¬ (nodes = [] ∧ bootstrap = none) ∧
        required = desired scope domain (findings.map Finding.entry ++ bootstrap.toList) := by
  rw [build, Dialogue.run_run_bind_eq_ok_iff]
  constructor
  · rintro ⟨members, m, hmembers, h⟩
    obtain ⟨findings, hfindings, rfl⟩ := memberAddresses_run_ok_iff.mp hmembers
    by_cases hnothing : nodes = [] ∧ bootstrap = none
    · rw [if_pos (hfindings.entries_isEmpty_iff.mpr hnothing)] at h
      cases h
    · rw [if_neg (mt hfindings.entries_isEmpty_iff.mp hnothing)] at h
      cases h
      exact ⟨findings, hfindings, hnothing, rfl⟩
  · rintro ⟨findings, hfindings, hsome, rfl⟩
    refine ⟨_, t, memberAddresses_run_ok_iff.mpr ⟨findings, hfindings, rfl⟩, ?_⟩
    rw [if_neg (mt hfindings.entries_isEmpty_iff.mp hsome)]
    rfl

/-- A build fails if a node fails, or if there is nothing to publish. -/
theorem build_run_error_iff :
    (build nodes network domain bootstrap scope).run.run answer s = (.error e, t) ↔
      Stops answer network domain s (sortNodes nodes) e t ∨
        nodes = [] ∧ bootstrap = none ∧ e = .noReadyMembers ∧ t = s := by
  rw [build, Dialogue.run_run_bind_eq_error_iff, memberAddresses_run_error_iff]
  refine or_congr_right ⟨?_, ?_⟩
  · rintro ⟨members, m, hmembers, h⟩
    obtain ⟨findings, hfindings, rfl⟩ := memberAddresses_run_ok_iff.mp hmembers
    by_cases hnothing : nodes = [] ∧ bootstrap = none
    · rw [if_pos (hfindings.entries_isEmpty_iff.mpr hnothing)] at h
      obtain ⟨rfl, rfl⟩ := hnothing
      cases h
      cases (show Finds answer network domain s [] findings t from hfindings)
      exact ⟨rfl, rfl, rfl, rfl⟩
    · rw [if_neg (mt hfindings.entries_isEmpty_iff.mp hnothing)] at h
      cases h
  · rintro ⟨rfl, rfl, rfl, rfl⟩
    exact ⟨[], t, rfl, rfl⟩

/-! ## All or nothing -/

/-- **A build is all or nothing, and exact.** Nodes are called in name order, those of one name in
the order in which they came.

* The build succeeds exactly if it finds out about every node, one after the other, and there is a
  node or a bootstrap entry. It then publishes the entries of the nodes in this order and the
  bootstrap entry after them.
* It fails exactly if it gets to a node that fails, and then with the error of this node, or if
  there is neither a node nor a bootstrap entry.
* If it succeeds, it has asked for a service once for every node. -/
theorem build_exact (answer : (q : Dns.Question) → σ → q.Answer × σ) (nodes : List Node)
    (network : Network) (domain : String) (bootstrap : Option EndpointAddress) (scope : String)
    (s : σ) :
    (∀ sorted, InNameOrder nodes sorted ↔ sorted = sortNodes nodes) ∧
    (∀ required t, (build nodes network domain bootstrap scope).run.run answer s = (.ok required, t) ↔
      ∃ findings, Finds answer network domain s (sortNodes nodes) findings t ∧
        ¬ (nodes = [] ∧ bootstrap = none) ∧
        required = desired scope domain (findings.map Finding.entry ++ bootstrap.toList)) ∧
    (∀ e t, (build nodes network domain bootstrap scope).run.run answer s = (.error e, t) ↔
      Stops answer network domain s (sortNodes nodes) e t ∨
        nodes = [] ∧ bootstrap = none ∧ e = .noReadyMembers ∧ t = s) ∧
    ∀ required t, (build nodes network domain bootstrap scope).run.run answer s = (.ok required, t) →
      ((build nodes network domain bootstrap scope).run.asked answer s).countP
        Dns.Question.isService = nodes.length := by
  refine ⟨fun _ => inNameOrder_iff, fun _ _ => build_run_ok_iff, fun _ _ => build_run_error_iff, ?_⟩
  intro required t h
  obtain ⟨findings, hfindings, hsome, rfl⟩ := build_run_ok_iff.mp h
  have hmembers := memberAddresses_run_ok_iff.mpr ⟨findings, hfindings, rfl⟩
  rw [build, Dialogue.asked_run_bind_of_ok hmembers, List.countP_append,
    hfindings.countP_isService_asked, (sortNodes_perm nodes).length_eq]
  rw [if_neg (mt hfindings.entries_isEmpty_iff.mp hsome)]
  rfl

/-- Four questions are asked for each of the two masters. A resolver that answers five leaves the
second one without a name. -/
theorem masters_built :
    ((build masters (Rehearsal.Cast.network "172.30.0.0/16") "example.com" none
      Names.defaultScope).run.asked doubled.resolver.lasting 8).countP Dns.Question.isService = 2 ∧
    Stops doubled.resolver.lasting (Rehearsal.Cast.network "172.30.0.0/16") "example.com" 5
      (sortNodes masters) (.dnsFailure "etcd-0.example.com." "timed out") 0 := by
  have hbuild := build_exact doubled.resolver.lasting masters
    (Rehearsal.Cast.network "172.30.0.0/16") "example.com" none Names.defaultScope
  constructor
  · refine (hbuild 8).2.2.2 (desired Names.defaultScope "example.com"
      [Rehearsal.Cast.address "10.0.0.1" "etcd-0" (some "master-0"),
        Rehearsal.Cast.address "10.0.0.2" "etcd-1" (some "master-1")]) 0 ?_
    decide +kernel
  · refine (((hbuild 5).2.2.1 _ 0).mp ?_).resolve_right fun h => ?_
    · decide +kernel
    · exact absurd h.1 (List.cons_ne_nil _ _)

end Desired

end EtcdRoster
