import EtcdRoster.Proofs.Desired.Exactness

/-!
# Dots at the end of the discovery domain

The search for a member leaves out the dots at the end of the discovery domain, and names are found
without the dots at their ends. The short form of a name does not leave them out: it takes the
domain as it is written.

* `Finds.add_dots`, `Stops.add_dots` — with dots at the end of the domain a build finds out the
  same, but names stay whole; and it ends with the same errors.
* `addresses_dotted_iff` — the addresses are the same exactly if no name that is found lies in the
  domain.
* `dot_noticed` — so the addresses of an ordinary cluster do change.
-/

namespace EtcdRoster

namespace Dns

variable {domain name short : String}

@[simp] theorem dotted_zero (domain : String) : dotted domain 0 = domain := String.append_empty

/-- The short form of a name is the whole name exactly if the name lies outside the domain. -/
theorem Shortens.eq_name_iff (h : Shortens domain name short) :
    short = name ↔ ∀ rest, name ≠ rest ++ "." ++ domain := by
  rcases h with rfl | ⟨rfl, h⟩
  · constructor
    · intro hshort
      have hlength := congrArg String.length hshort
      simp only [String.length_append] at hlength
      have hdot : ".".length = 1 := rfl
      omega
    · intro h
      exact absurd rfl (h short)
  · exact iff_of_true rfl h

end Dns

namespace Desired

open Dns (dotted)

variable {σ : Type} {answer : (q : Dns.Question) → σ → q.Answer × σ} {network : Network}
  {domain scope : String} {dots : Nat} {node : Node} {nodes : List Node} {findings : List Finding}
  {bootstrap : Option EndpointAddress} {s t : σ} {e : SyncError}

/-! ## What a build finds out -/

/-- The finding, with the whole name instead of its short form. -/
def Finding.unshortened (f : Finding) : Finding := { f with short := f.name }

theorem search_dotted (ip : IpAddress) :
    search answer (dotted domain dots) ip s = search answer domain ip s := by
  rw [search, search, Dns.resolveMember_dotted]

/-- With dots at the end of the domain the same is found out, but names stay whole. -/
theorem Finds.add_dots (hdots : 0 < dots) (h : Finds answer network domain s nodes findings t) :
    Finds answer network (dotted domain dots) s nodes (findings.map Finding.unshortened) t := by
  induction h with
  | nil s => exact .nil s
  | cons called addressed named _ _ ih =>
    refine .cons called addressed ((search_dotted _).trans named) ?_ ih
    exact Dns.stripDomain_eq_iff.mp (Dns.stripDomain_dotted hdots (Dns.getLast?_ne_dot named))

theorem Fails.add_dots (h : Fails answer network domain s node e t) :
    Fails answer network (dotted domain dots) s node e t := by
  cases h with
  | unreached h => exact .unreached h
  | unnamed addressed unnamed => exact .unnamed addressed ((search_dotted _).trans unnamed)

/-- With dots at the end of the domain a build stops at the same node. -/
theorem Stops.add_dots (hdots : 0 < dots) (h : Stops answer network domain s nodes e t) :
    Stops answer network (dotted domain dots) s nodes e t := by
  obtain ⟨before, failing, after, findings, m, hnodes, hbefore, hfails⟩ := h
  exact ⟨before, failing, after, _, m, hnodes, hbefore.add_dots hdots, hfails.add_dots⟩

theorem Finds.shortens (h : Finds answer network domain s nodes findings t) :
    ∀ f ∈ findings, Dns.Shortens domain f.name f.short := by
  induction h with
  | nil => exact List.forall_mem_nil _
  | cons _ _ _ shortened _ ih => exact List.forall_mem_cons.mpr ⟨shortened, ih⟩

/-- The entries are those of whole names exactly if all names lie outside the domain. -/
theorem Finds.entries_unshortened_iff (h : Finds answer network domain s nodes findings t) :
    (findings.map Finding.unshortened).map Finding.entry = findings.map Finding.entry ↔
      ∀ f ∈ findings, ∀ rest, f.name ≠ rest ++ "." ++ domain := by
  rw [List.map_map, List.map_inj_left]
  refine forall₂_congr fun f hf => ?_
  rw [← (h.shortens f hf).eq_name_iff]
  simp [Finding.entry, Finding.unshortened, eq_comm]

/-! ## What a build publishes -/

/-- How a build ends under a discovery domain, and the state in which it leaves the resolver. -/
abbrev ending (answer : (q : Dns.Question) → σ → q.Answer × σ) (nodes : List Node)
    (network : Network) (bootstrap : Option EndpointAddress) (scope : String) (s : σ)
    (domain : String) : Except SyncError Endpoints × σ :=
  (build nodes network domain bootstrap scope).run.run answer s

theorem firstAddresses_desired (scope domain : String) (addresses : List EndpointAddress) :
    (desired scope domain addresses).firstAddresses = addresses := rfl

/-- With dots at the end of the domain the same build succeeds, and publishes whole names. -/
theorem ending_dotted_of_finds (scope : String) (hdots : 0 < dots)
    (h : Finds answer network domain s (sortNodes nodes) findings t)
    (hsome : ¬ (nodes = [] ∧ bootstrap = none)) :
    ending answer nodes network bootstrap scope s (dotted domain dots) =
      (.ok (desired scope (dotted domain dots)
        ((findings.map Finding.unshortened).map Finding.entry ++ bootstrap.toList)), t) :=
  build_run_ok_iff.mpr ⟨_, h.add_dots hdots, hsome, rfl⟩

/-- With dots at the end of the domain the same build fails in the same way. -/
theorem ending_dotted_of_error (hdots : 0 < dots)
    (h : ending answer nodes network bootstrap scope s domain = (.error e, t)) :
    ending answer nodes network bootstrap scope s (dotted domain dots) = (.error e, t) :=
  build_run_error_iff.mpr ((build_run_error_iff.mp h).imp_left (·.add_dots hdots))

/-- The same addresses are published exactly if all names lie outside the domain. -/
theorem Finds.same_addresses_iff (hdots : 0 < dots)
    (h : Finds answer network domain s (sortNodes nodes) findings t) :
    (ending answer nodes network bootstrap scope s (dotted domain dots)).1.map
        Endpoints.firstAddresses =
      (ending answer nodes network bootstrap scope s domain).1.map Endpoints.firstAddresses ↔
        ∀ f ∈ findings, ∀ rest, f.name ≠ rest ++ "." ++ domain := by
  by_cases hnothing : nodes = [] ∧ bootstrap = none
  · obtain ⟨rfl, rfl⟩ := hnothing
    cases (show Finds answer network domain s [] findings t from h)
    exact iff_of_true rfl (List.forall_mem_nil _)
  · rw [ending_dotted_of_finds scope hdots h hnothing, ending,
      build_run_ok_iff.mpr ⟨findings, h, hnothing, rfl⟩, ← h.entries_unshortened_iff]
    simp only [Except.map, firstAddresses_desired, Except.ok.injEq, List.append_left_inj]

/-- **Dots at the end of the discovery domain are noticed in the names alone.** With them and
without them a build leaves the resolver in the same state and ends with the same errors. The
addresses are the same exactly if there are no dots or no name that is found lies in the domain. -/
theorem addresses_dotted_iff (answer : (q : Dns.Question) → σ → q.Answer × σ) (nodes : List Node)
    (network : Network) (bootstrap : Option EndpointAddress) (scope : String) (s : σ)
    (domain : String) (dots : Nat) :
    (ending answer nodes network bootstrap scope s (dotted domain dots)).2 =
      (ending answer nodes network bootstrap scope s domain).2 ∧
    (∀ e, (ending answer nodes network bootstrap scope s (dotted domain dots)).1 = .error e ↔
      (ending answer nodes network bootstrap scope s domain).1 = .error e) ∧
    ((ending answer nodes network bootstrap scope s (dotted domain dots)).1.map
        Endpoints.firstAddresses =
      (ending answer nodes network bootstrap scope s domain).1.map Endpoints.firstAddresses ↔
        dots = 0 ∨ ∀ findings t, Finds answer network domain s (sortNodes nodes) findings t →
          ∀ f ∈ findings, ∀ rest, f.name ≠ rest ++ "." ++ domain) := by
  rcases Nat.eq_zero_or_pos dots with rfl | hdots
  · simp
  · rcases hbare : ending answer nodes network bootstrap scope s domain with ⟨e | required, t⟩
    · have hdotted := ending_dotted_of_error hdots hbare
      rw [hdotted]
      refine ⟨rfl, fun _ => Iff.rfl, iff_of_true rfl (.inr fun findings u hfindings => ?_)⟩
      exact (hfindings.same_addresses_iff hdots).mp (by rw [hdotted, hbare])
    · obtain ⟨findings, hfindings, hsome, rfl⟩ := build_run_ok_iff.mp hbare
      have hdotted := ending_dotted_of_finds scope hdots hfindings hsome
      refine ⟨by rw [hdotted], fun e => ?_, ?_⟩
      · rw [hdotted]
        simp
      · rw [← hbare]
        constructor
        · intro hsame
          exact .inr fun _ _ h => (h.same_addresses_iff hdots).mp hsame
        · rintro (rfl | h)
          · exact absurd hdots (Nat.lt_irrefl 0)
          · exact (hfindings.same_addresses_iff hdots).mpr (h findings t hfindings)

def master : Node := Rehearsal.Cast.node "master-0" ["10.0.0.1"] true

/-- The member of the domain `example.com` has a name in another domain. -/
def abroad : Dns.Zone where
  services := Dict.empty.insert "_etcd-server-ssl._tcp.example.com." ["etcd-0.example.org."]
  hosts := Dict.empty.insert "etcd-0.example.org." (Dns.Zone.addresses ["10.0.0.1"])

theorem abroad_outside :
    ∀ findings t, Finds abroad.resolver.lasting (Rehearsal.Cast.network "172.30.0.0/16")
      "example.com" 2 [master] findings t →
        ∀ f ∈ findings, ∀ rest, f.name ≠ rest ++ "." ++ "example.com" := by
  have hsame := (addresses_dotted_iff abroad.resolver.lasting [master]
    (Rehearsal.Cast.network "172.30.0.0/16") none Names.defaultScope 2 "example.com" 1).2.2
  exact (hsame.mp (by decide +kernel)).resolve_left Nat.one_ne_zero

/-- The addresses of an ordinary cluster of one member under a discovery domain. -/
def ordinary (domain : String) : Except SyncError (List EndpointAddress) :=
  (ending (Dns.Zone.cluster "example.com" ["10.0.0.1"]).resolver.lasting [master]
    (Rehearsal.Cast.network "172.30.0.0/16") none Names.defaultScope 2 domain).1.map
      Endpoints.firstAddresses

/-- **A dot is noticed.** The name of the one member of an ordinary cluster is published as
`etcd-0`, and with a dot at the end of the domain as `etcd-0.example.com`. -/
theorem dot_noticed :
    ¬ ∀ (σ : Type) (answer : (q : Dns.Question) → σ → q.Answer × σ) (nodes : List Node)
      (network : Network) (bootstrap : Option EndpointAddress) (scope : String) (s : σ)
      (domain : String) (dots : Nat), domain ≠ "" → domain.toList.getLast? ≠ some '.' →
      (ending answer nodes network bootstrap scope s (dotted domain dots)).1.map
          Endpoints.firstAddresses =
        (ending answer nodes network bootstrap scope s domain).1.map Endpoints.firstAddresses := by
  intro hsame
  have haddresses : ordinary (dotted "example.com" 1) = ordinary "example.com" :=
    hsame Nat _ _ _ _ _ _ "example.com" 1 (by decide) (by decide)
  have hwhole : ordinary (dotted "example.com" 1)
      = .ok [Rehearsal.Cast.address "10.0.0.1" "etcd-0.example.com" (some "master-0")] := by
    decide +kernel
  have hshort : ordinary "example.com"
      = .ok [Rehearsal.Cast.address "10.0.0.1" "etcd-0" (some "master-0")] := by
    decide +kernel
  rw [hwhole, hshort] at haddresses
  exact absurd haddresses (by decide)

end Desired

end EtcdRoster
