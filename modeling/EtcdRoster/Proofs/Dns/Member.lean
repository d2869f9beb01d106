import EtcdRoster.Dns.Member

/-!
# The target at an address

A resolver with fixed answers decides the name of the member at an address.

* `consult_lastMatch`, `consult_resolveMember` — what a search finds: the error of the first target
  that cannot be looked up, or else the last target at the address.
* `Resolver.Unambiguous`, `resolveMember_eq_ok_iff_advertises` — if all targets at the address are
  one name, then this name is found, whichever target comes last.
* `Resolver.Reordered.resolveMember_reordered_iff` — so a resolver whose answers come in another
  order leads to the same name.
-/

namespace EtcdRoster.Dns

variable {resolver resolver' : Resolver} {service proto domain name : String} {ip : IpAddress}

namespace Resolver

/-- Why a target cannot be looked up, if it cannot. -/
def failure? (r : Resolver) (target : String) : Option SyncError :=
  match r.host target with
  | .ok _ => none
  | .error e => some e

/-- Whether a target resolves to an address. -/
def resolves (r : Resolver) (ip : IpAddress) (target : String) : Bool :=
  match r.host target with
  | .ok addresses => addresses.contains ip
  | .error _ => false

/-- The targets of a service in a domain. -/
def targets (r : Resolver) (service proto domain : String) : Except SyncError (List String) := do
  let query ← serviceName service proto domain
  r.service (String.ofList query.text)

end Resolver

/-- A target without dots at its ends. -/
def bareName (target : String) : String := String.ofList (Text.trimBoth '.' target.toList)

/-! ## What a search finds -/

/-- A later match counts before an earlier one. -/
theorem getLast?_cons_or (target : String) (rest : List String) (found : Option String) :
    (target :: rest).getLast?.or found = rest.getLast?.or (some target) := by
  rw [List.getLast?_cons]
  cases rest.getLast? <;> rfl

theorem consult_lastMatch (found : Option String) (targets : List String) :
    (lastMatch ip found targets).run.consult resolver.answer =
      match targets.findSome? resolver.failure? with
      | some e => .error e
      | none => .ok ((targets.filter (resolver.resolves ip)).getLast?.or found) := by
  induction targets generalizing found with
  | nil => rfl
  | cons target rest ih =>
    have hask : (askHost target).run.consult resolver.answer = resolver.host target := rfl
    rw [lastMatch, Dialogue.consult_run_bind, hask, List.findSome?_cons, List.filter_cons]
    cases haddresses : resolver.host target with
    | error e =>
      have hfailure : resolver.failure? target = some e := by simp [Resolver.failure?, haddresses]
      rw [hfailure]
      rfl
    | ok addresses =>
      have hfailure : resolver.failure? target = none := by simp [Resolver.failure?, haddresses]
      have hresolves : resolver.resolves ip target = addresses.contains ip := by
        simp [Resolver.resolves, haddresses]
      rw [hfailure, hresolves]
      show (if addresses.contains ip then lastMatch ip (some target) rest
        else lastMatch ip found rest).run.consult resolver.answer = _
      by_cases hmatch : addresses.contains ip = true
      · rw [if_pos hmatch, if_pos hmatch, ih, getLast?_cons_or]
      · rw [if_neg hmatch, if_neg hmatch, ih]

/-- A search looks all targets up. The first failure ends it, or else the last target at the address
is the member. -/
theorem consult_resolveMember (service proto domain : String) (ip : IpAddress) :
    (resolveMember service proto domain ip).run.consult resolver.answer = (do
      let query ← serviceName service proto domain
      let targets ← resolver.service (String.ofList query.text)
      match targets.findSome? resolver.failure? with
      | some e => .error e
      | none =>
        match (targets.filter (resolver.resolves ip)).getLast? with
        | some target => .ok (bareName target)
        | none => .error (.selfNotFound (String.ofList query.text) ip.text)) := by
  have hquery : (resolveMember.liftExcept (serviceName service proto domain)).run.consult
      resolver.answer = serviceName service proto domain := rfl
  rw [resolveMember, Dialogue.consult_run_bind, hquery]
  cases serviceName service proto domain with
  | error e => rfl
  | ok query =>
    have hservice : (askService (String.ofList query.text)).run.consult resolver.answer
        = resolver.service (String.ofList query.text) := rfl
    refine (Dialogue.consult_run_bind ..).trans ?_
    rw [hservice]
    show _ = resolver.service (String.ofList query.text) >>= _
    cases resolver.service (String.ofList query.text) with
    | error e => rfl
    | ok targets =>
      refine (Dialogue.consult_run_bind ..).trans ?_
      rw [consult_lastMatch, Option.or_none]
      show _ = match targets.findSome? resolver.failure? with
        | some e => _
        | none => _
      cases targets.findSome? resolver.failure? with
      | some e => rfl
      | none => cases (targets.filter (resolver.resolves ip)).getLast? <;> rfl

/-- The records of a service advertise a name for an address: every target can be looked up, and one
that resolves to the address has this name. -/
def Resolver.Advertises (r : Resolver) (service proto domain : String) (ip : IpAddress)
    (name : String) : Prop :=
  ∃ targets, r.targets service proto domain = .ok targets ∧
    (∀ target ∈ targets, r.failure? target = none) ∧
    ∃ target ∈ targets, r.resolves ip target = true ∧ bareName target = name

/-- All targets that resolve to the address are one name, up to dots at its ends. -/
def Resolver.Unambiguous (r : Resolver) (service proto domain : String) (ip : IpAddress) : Prop :=
  ∀ targets, r.targets service proto domain = .ok targets →
    ∀ target ∈ targets, ∀ other ∈ targets, r.resolves ip target = true →
      r.resolves ip other = true → bareName target = bareName other

/-- What is to hold of a result, if there is one, can be checked. -/
instance decidableForallOk {ε α : Type} (x : Except ε α) (p : α → Prop) [DecidablePred p] :
    Decidable (∀ a, x = .ok a → p a) :=
  match x with
  | .ok a => decidable_of_iff (p a) ⟨fun h _ ha => Except.ok.inj ha ▸ h, fun h => h a rfl⟩
  | .error _ => isTrue nofun

instance : Decidable (resolver.Unambiguous service proto domain ip) :=
  inferInstanceAs (Decidable (∀ targets, resolver.targets service proto domain = .ok targets →
    ∀ target ∈ targets, ∀ other ∈ targets, resolver.resolves ip target = true →
      resolver.resolves ip other = true → bareName target = bareName other))

theorem resolveMember_eq_ok_iff :
    (resolveMember service proto domain ip).run.consult resolver.answer = .ok name ↔
      ∃ targets, resolver.targets service proto domain = .ok targets ∧
        (∀ target ∈ targets, resolver.failure? target = none) ∧
        ∃ target, (targets.filter (resolver.resolves ip)).getLast? = some target ∧
          bareName target = name := by
  rw [consult_resolveMember, Resolver.targets]
  cases serviceName service proto domain with
  | error e => simp [bind, Except.bind]
  | ok query =>
    simp only [bind, Except.bind]
    cases resolver.service (String.ofList query.text) with
    | error e => simp
    | ok targets =>
      simp only [Except.ok.injEq, exists_eq_left', ← List.findSome?_eq_none_iff]
      cases targets.findSome? resolver.failure? with
      | some e => simp
      | none => cases (targets.filter (resolver.resolves ip)).getLast? <;> simp

/-- If the name at an address is unambiguous, then it is the one that is found. -/
theorem resolveMember_eq_ok_iff_advertises (h : resolver.Unambiguous service proto domain ip) :
    (resolveMember service proto domain ip).run.consult resolver.answer = .ok name ↔
      resolver.Advertises service proto domain ip name := by
  rw [resolveMember_eq_ok_iff]
  refine exists_congr fun targets => and_congr_right fun htargets => and_congr_right fun _ => ?_
  constructor
  · rintro ⟨target, hlast, hname⟩
    obtain ⟨hmem, hresolves⟩ := List.mem_filter.mp (List.mem_of_getLast? hlast)
    exact ⟨target, hmem, hresolves, hname⟩
  · rintro ⟨target, hmem, hresolves, hname⟩
    have hmatches : target ∈ targets.filter (resolver.resolves ip) :=
      List.mem_filter.mpr ⟨hmem, hresolves⟩
    have hlast := List.getLast?_eq_some_getLast (List.ne_nil_of_mem hmatches)
    obtain ⟨hlastmem, hlastresolves⟩ := List.mem_filter.mp (List.mem_of_getLast? hlast)
    have hsame := h targets htargets _ hlastmem target hmem hlastresolves hresolves
    exact ⟨_, hlast, hsame.trans hname⟩

/-! ## Answers in another order -/

/-- The same answer in another order. -/
inductive Reordered {ε α : Type} : Except ε (List α) → Except ε (List α) → Prop
  | ok {l l' : List α} (perm : l.Perm l') : Reordered (.ok l) (.ok l')
  | error (e : ε) : Reordered (.error e) (.error e)

theorem Reordered.symm {ε α : Type} {x y : Except ε (List α)} (h : Reordered x y) :
    Reordered y x := by
  cases h with
  | ok perm => exact .ok perm.symm
  | error e => exact .error e

/-- A resolver gives all answers of another one, each in some order. -/
structure Resolver.Reordered (r r' : Resolver) : Prop where
  service : ∀ name, Dns.Reordered (r.service name) (r'.service name)
  host : ∀ name, Dns.Reordered (r.host name) (r'.host name)

namespace Resolver.Reordered

variable (h : resolver.Reordered resolver')
include h

theorem symm : resolver'.Reordered resolver :=
  ⟨fun name => (h.service name).symm, fun name => (h.host name).symm⟩

theorem failure?_eq (target : String) : resolver'.failure? target = resolver.failure? target := by
  have hhost := h.host target
  unfold failure?
  generalize resolver.host target = x, resolver'.host target = y at hhost
  cases hhost <;> rfl

theorem resolves_eq (ip : IpAddress) (target : String) :
    resolver'.resolves ip target = resolver.resolves ip target := by
  have hhost := h.host target
  unfold resolves
  generalize resolver.host target = x, resolver'.host target = y at hhost
  cases hhost with
  | ok perm => exact perm.symm.contains_eq
  | error e => rfl

/-- The same targets, in some order. -/
theorem exists_targets_perm {targets : List String}
    (htargets : resolver.targets service proto domain = .ok targets) :
    ∃ targets', resolver'.targets service proto domain = .ok targets' ∧ targets.Perm targets' := by
  unfold Resolver.targets at htargets ⊢
  cases hquery : serviceName service proto domain with
  | error e =>
    rw [hquery] at htargets
    cases htargets
  | ok query =>
    rw [hquery] at htargets
    have hservice := h.service (String.ofList query.text)
    rw [show resolver.service (String.ofList query.text) = .ok targets from htargets] at hservice
    show ∃ targets', resolver'.service (String.ofList query.text) = .ok targets' ∧ _
    generalize resolver'.service (String.ofList query.text) = y at hservice
    cases hservice with
    | ok perm => exact ⟨_, rfl, perm⟩

theorem advertises (hname : resolver.Advertises service proto domain ip name) :
    resolver'.Advertises service proto domain ip name := by
  obtain ⟨targets, htargets, hanswered, target, hmem, hresolves, rfl⟩ := hname
  obtain ⟨targets', htargets', perm⟩ := h.exists_targets_perm htargets
  refine ⟨targets', htargets', ?_, target, perm.mem_iff.mp hmem, ?_, rfl⟩
  · intro other hother
    rw [h.failure?_eq]
    exact hanswered other (perm.mem_iff.mpr hother)
  · rw [h.resolves_eq]
    exact hresolves

theorem unambiguous (hname : resolver.Unambiguous service proto domain ip) :
    resolver'.Unambiguous service proto domain ip := by
  intro targets' htargets' target hmem other hother hresolves hotherResolves
  obtain ⟨targets, htargets, perm⟩ := h.symm.exists_targets_perm htargets'
  rw [h.resolves_eq] at hresolves hotherResolves
  exact hname targets htargets target (perm.mem_iff.mp hmem) other (perm.mem_iff.mp hother)
    hresolves hotherResolves

/-- A search finds the same name, whatever order the answers are in. -/
theorem resolveMember_reordered_iff (hname : resolver.Unambiguous service proto domain ip) :
    (resolveMember service proto domain ip).run.consult resolver'.answer = .ok name ↔
      (resolveMember service proto domain ip).run.consult resolver.answer = .ok name := by
  rw [resolveMember_eq_ok_iff_advertises hname,
    resolveMember_eq_ok_iff_advertises (h.unambiguous hname)]
  exact ⟨h.symm.advertises, h.advertises⟩

end Resolver.Reordered

/-- A resolver that turns every answer around. -/
def Resolver.reversed (r : Resolver) : Resolver where
  service name := (r.service name).map List.reverse
  host name := (r.host name).map List.reverse

theorem Resolver.reordered_reversed (r : Resolver) : r.Reordered r.reversed := by
  have hreverse : ∀ {α : Type} (x : Except SyncError (List α)),
      Dns.Reordered x (x.map List.reverse) := by
    intro α x
    cases x with
    | ok l => exact .ok (List.reverse_perm l).symm
    | error e => exact .error e
  exact ⟨fun name => hreverse (r.service name), fun name => hreverse (r.host name)⟩

end EtcdRoster.Dns
