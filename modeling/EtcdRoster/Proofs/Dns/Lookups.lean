import EtcdRoster.Dns.Zone
import EtcdRoster.Proofs.Dialogue.Recording
import EtcdRoster.Proofs.Dns.Search
import Mathlib.Control.Monad.Basic

/-!
# Target by target

A search asks once for the targets of a service and then looks them up one after the other, with a
resolver that may answer the same question differently each time.

* `LooksUp`, `goesOn_lastMatch` — past targets that resolve a search goes on with the next one, and
  has found the last of them that has the address.
* `Course` — the ways a search can go: the service is not answered for; a target does not resolve;
  a target has the address, and no later one; no target has it.
* `resolveMember_exact` — **every search under a valid name goes one of these ways**, with these
  questions, this result and this state of the resolver; under an invalid name nothing is asked.
-/

namespace EtcdRoster.Dns

variable {σ : Type}

def Question.isService : Question → Bool
  | .service _ => true
  | .host _ => false

/-! ## Targets that resolve -/

/-- A target and the addresses to which it resolves. -/
structure Lookup where
  target : String
  addresses : List IpAddress

/-- The question for the addresses of the target. -/
def Lookup.question (lookup : Lookup) : Question := .host lookup.target

section Run

variable (answer : (q : Question) → σ → q.Answer × σ)

/-- Targets are looked up one after the other, and every one resolves. -/
inductive LooksUp : σ → List Lookup → σ → Prop
  | nil (s : σ) : LooksUp s [] s
  | cons {s m t : σ} {lookup : Lookup} {later : List Lookup}
      (first : answer lookup.question s = (.ok lookup.addresses, m)) (rest : LooksUp m later t) :
      LooksUp s (lookup :: later) t

/-- How a search can go that asks for a service under this name: what it asks, what comes of it, and
the state in which it leaves the resolver. -/
inductive Course (query : String) (ip : IpAddress) (s : σ) :
    List Question → Except SyncError String → σ → Prop
  /-- There is no answer for the service. -/
  | unserved {e : SyncError} {t : σ} (service : answer (.service query) s = (.error e, t)) :
      Course query ip s [.service query] (.error e) t
  /-- A target does not resolve. Whether another one has the address makes no difference. -/
  | broken {before : List Lookup} {target : String} {after : List String} {e : SyncError} {m n t : σ}
      (service : answer (.service query) s = (.ok (before.map (·.target) ++ target :: after), m))
      (resolved : LooksUp answer m before n) (failed : answer (.host target) n = (.error e, t)) :
      Course query ip s (.service query :: before.map Lookup.question ++ [.host target]) (.error e) t
  /-- All targets resolve, and this is the last one that has the address. -/
  | found {before after : List Lookup} {last : Lookup} {name : String} {m t : σ}
      (service : answer (.service query) s = (.ok ((before ++ last :: after).map (·.target)), m))
      (resolved : LooksUp answer m (before ++ last :: after) t) (here : ip ∈ last.addresses)
      (not_later : ∀ lookup ∈ after, ip ∉ lookup.addresses) (named : Bares last.target name) :
      Course query ip s (.service query :: (before ++ last :: after).map Lookup.question) (.ok name) t
  /-- All targets resolve, and none has the address. -/
  | unknown {lookups : List Lookup} {m t : σ}
      (service : answer (.service query) s = (.ok (lookups.map (·.target)), m))
      (resolved : LooksUp answer m lookups t) (nowhere : ∀ lookup ∈ lookups, ip ∉ lookup.addresses) :
      Course query ip s (.service query :: lookups.map Lookup.question)
        (.error (.selfNotFound query ip.text)) t

end Run

variable {answer : (q : Question) → σ → q.Answer × σ} {service proto domain : String}
  {ip : IpAddress} {name : Name} {s m t : σ}

/-- Whatever the resolver answers, all targets resolve, or a first one does not. -/
theorem looksUp_or_fails (answer : (q : Question) → σ → q.Answer × σ) (targets : List String)
    (s : σ) :
    (∃ lookups t, lookups.map (·.target) = targets ∧ LooksUp answer s lookups t) ∨
      ∃ before target after e n t, targets = before.map Lookup.target ++ target :: after ∧
        LooksUp answer s before n ∧ answer (.host target) n = (.error e, t) := by
  induction targets generalizing s with
  | nil => exact .inl ⟨[], s, rfl, .nil s⟩
  | cons target rest ih =>
    cases hanswer : answer (.host target) s with
    | mk result m =>
      cases result with
      | error e => exact .inr ⟨[], target, rest, e, s, m, rfl, .nil s, hanswer⟩
      | ok addresses =>
        have first : answer (Lookup.mk target addresses).question s = (.ok addresses, m) := hanswer
        rcases ih m with ⟨lookups, t, rfl, hrest⟩ | ⟨before, broken, after, e, n, t, rfl, hrest, hfails⟩
        · exact .inl ⟨⟨target, addresses⟩ :: lookups, t, rfl, .cons first hrest⟩
        · exact .inr ⟨⟨target, addresses⟩ :: before, broken, after, e, n, t, rfl,
            .cons first hrest, hfails⟩

/-- No target has the address, or there is a last one that has it. -/
theorem nowhere_or_last (ip : IpAddress) (lookups : List Lookup) :
    (∀ lookup ∈ lookups, ip ∉ lookup.addresses) ∨
      ∃ before last after, lookups = before ++ last :: after ∧ ip ∈ last.addresses ∧
        ∀ lookup ∈ after, ip ∉ lookup.addresses := by
  induction lookups with
  | nil => exact .inl (List.forall_mem_nil _)
  | cons lookup rest ih =>
    rcases ih with hrest | ⟨before, last, after, rfl, hlast, hafter⟩
    · by_cases here : ip ∈ lookup.addresses
      · exact .inr ⟨[], lookup, rest, rfl, here, hrest⟩
      · exact .inl (List.forall_mem_cons.mpr ⟨here, hrest⟩)
    · exact .inr ⟨lookup :: before, last, after, rfl, hlast, hafter⟩

/-! ## Going on with the next target -/

/-- What a search has found after some lookups: the last target that has the address. -/
def foundAfter (ip : IpAddress) (found : Option String) (lookups : List Lookup) : Option String :=
  lookups.foldl (fun found lookup => if ip ∈ lookup.addresses then some lookup.target else found)
    found

theorem foundAfter_of_nowhere (found : Option String) {lookups : List Lookup}
    (nowhere : ∀ lookup ∈ lookups, ip ∉ lookup.addresses) : foundAfter ip found lookups = found := by
  induction lookups with
  | nil => rfl
  | cons lookup rest ih =>
    obtain ⟨here, nowhere⟩ := List.forall_mem_cons.mp nowhere
    rw [foundAfter, List.foldl_cons, if_neg here]
    exact ih nowhere

theorem foundAfter_of_last (found : Option String) (before : List Lookup) {after : List Lookup}
    {last : Lookup} (here : ip ∈ last.addresses)
    (not_later : ∀ lookup ∈ after, ip ∉ lookup.addresses) :
    foundAfter ip found (before ++ last :: after) = some last.target := by
  rw [foundAfter, List.foldl_append, List.foldl_cons, if_pos here]
  exact foundAfter_of_nowhere (some last.target) not_later

/-- Past targets that resolve a search goes on with the next one. -/
theorem goesOn_lastMatch {lookups : List Lookup} (h : LooksUp answer s lookups t) (ip : IpAddress)
    (found : Option String) (rest : List String) :
    Dialogue.GoesOn answer (lastMatch ip found (lookups.map (·.target) ++ rest)).run s
      (lookups.map Lookup.question) (lastMatch ip (foundAfter ip found lookups) rest).run t := by
  -- What has been found so far is an argument of the loop, so it varies along the induction.
  induction h generalizing found with
  | nil s => exact .refl _ s
  | @cons _ m _ lookup later first _ ih =>
    have hfirst : Dialogue.GoesOn answer
        (lastMatch ip found (lookup.target :: (later.map (·.target) ++ rest))).run _
        [lookup.question]
        (if lookup.addresses.contains ip then
            lastMatch ip (some lookup.target) (later.map (·.target) ++ rest)
          else lastMatch ip found (later.map (·.target) ++ rest)).run m :=
      Dialogue.goesOn_ask first
    refine hfirst.trans ?_
    rw [foundAfter, List.foldl_cons]
    by_cases here : ip ∈ lookup.addresses
    · rw [if_pos (List.contains_iff_mem.mpr here), if_pos here]
      exact ih _
    · rw [if_neg (mt List.contains_iff_mem.mp here), if_neg here]
      exact ih _

/-- Where the answer for the service is known, a search goes on with the targets. -/
theorem goesOn_resolveMember {targets : List String}
    (hname : serviceName service proto domain = .ok name)
    (hservice : answer (.service (String.ofList name.text)) s = (.ok targets, m)) :
    Dialogue.GoesOn answer (resolveMember service proto domain ip).run s
      [.service (String.ofList name.text)]
      (do
        match ← lastMatch ip none targets with
        | some target => return bareName target
        | none => throw (.selfNotFound (String.ofList name.text) ip.text) :
          ExceptT SyncError Inquiry String).run m := by
  rw [resolveMember, hname]
  exact Dialogue.goesOn_ask hservice

/-! ## The ways of a search -/

/-- A search under a valid name goes one way, whichever that is. -/
theorem exists_course (answer : (q : Question) → σ → q.Answer × σ) (query : String)
    (ip : IpAddress) (s : σ) : ∃ asked r t, Course answer query ip s asked r t := by
  cases hservice : answer (.service query) s with
  | mk result m =>
    cases result with
    | error e => exact ⟨_, _, _, .unserved hservice⟩
    | ok targets =>
      rcases looksUp_or_fails answer targets m with
        ⟨lookups, t, rfl, resolved⟩ | ⟨before, target, after, e, n, t, rfl, resolved, failed⟩
      · rcases nowhere_or_last ip lookups with nowhere | ⟨before, last, after, rfl, here, not_later⟩
        · exact ⟨_, _, _, .unknown hservice resolved nowhere⟩
        · exact ⟨_, _, _, .found hservice resolved here not_later (bareName_eq_iff.mp rfl)⟩
      · exact ⟨_, _, _, .broken hservice resolved failed⟩

/-- A way that a search can go is the way that it goes. -/
theorem Course.held {asked : List Question} {r : Except SyncError String}
    (hname : serviceName service proto domain = .ok name)
    (h : Course answer (String.ofList name.text) ip s asked r t) :
    Dialogue.GoesOn answer (resolveMember service proto domain ip).run s asked (.done r) t := by
  cases h with
  | unserved hservice =>
    rw [resolveMember, hname]
    exact Dialogue.goesOn_ask hservice
  | @broken before target after e _ n _ hservice resolved failed =>
    have hbefore := goesOn_lastMatch resolved ip none (target :: after)
    have hfails : Dialogue.GoesOn answer
        (lastMatch ip (foundAfter ip none before) (target :: after)).run n [.host target]
        (.done (.error e)) t := Dialogue.goesOn_ask failed
    exact (goesOn_resolveMember hname hservice).trans ((hbefore.trans hfails).bind _)
  | found hservice resolved here not_later named =>
    have hfound := goesOn_lastMatch resolved ip none []
    rw [foundAfter_of_last none _ here not_later, List.append_nil] at hfound
    rw [← bareName_eq_iff.mpr named]
    exact (goesOn_resolveMember hname hservice).trans (hfound.bind _)
  | unknown hservice resolved nowhere =>
    have hnone := goesOn_lastMatch resolved ip none []
    rw [foundAfter_of_nowhere none nowhere, List.append_nil] at hnone
    exact (goesOn_resolveMember hname hservice).trans (hnone.bind _)

/-- Under an invalid name nothing is asked. -/
theorem goesOn_resolveMember_of_error {e : SyncError}
    (hname : serviceName service proto domain = .error e) :
    Dialogue.GoesOn answer (resolveMember service proto domain ip).run s [] (.done (.error e)) s := by
  rw [resolveMember, hname]
  exact .refl _ s

/-- A search under a valid name asks for a service once. -/
theorem Course.countP_isService {query : String} {asked : List Question}
    {r : Except SyncError String} (h : Course answer query ip s asked r t) :
    asked.countP Question.isService = 1 := by
  have hhosts : ∀ lookups : List Lookup,
      (lookups.map Lookup.question).countP Question.isService = 0 := by
    intro lookups
    rw [List.countP_map, List.countP_eq_zero]
    exact fun _ _ => Bool.false_ne_true
  cases h with
  | unserved => rfl
  | broken =>
    rw [List.countP_append, List.countP_cons, hhosts]
    rfl
  | found | unknown =>
    rw [List.countP_cons, hhosts]
    rfl

/-- The name that is found is a target without the dots at its ends. -/
theorem Course.named {query : String} {asked : List Question} {found : String}
    (h : Course answer query ip s asked (.ok found) t) : ∃ target, Bares target found := by
  cases h with
  | found _ _ _ _ named => exact ⟨_, named⟩

/-- A search goes exactly one of the ways that it can go. -/
theorem course_iff (hname : serviceName service proto domain = .ok name) {asked : List Question}
    {r : Except SyncError String} :
    Course answer (String.ofList name.text) ip s asked r t ↔
      (resolveMember service proto domain ip).run.run answer s = (r, t) ∧
        (resolveMember service proto domain ip).run.asked answer s = asked := by
  constructor
  · intro h
    exact (h.held hname).ended
  · rintro ⟨hrun, rfl⟩
    obtain ⟨asked', r', t', hcourse⟩ := exists_course answer (String.ofList name.text) ip s
    obtain ⟨hrun', rfl⟩ := (hcourse.held hname).ended
    cases hrun.symm.trans hrun'
    exact hcourse

/-- A search that finds a name has gone some way. -/
theorem course_of_ok {found : String}
    (h : (resolveMember service proto domain ip).run.run answer s = (.ok found, t)) :
    ∃ query, Course answer query ip s ((resolveMember service proto domain ip).run.asked answer s)
      (.ok found) t := by
  cases hname : serviceName service proto domain with
  | ok name => exact ⟨_, (course_iff hname).mpr ⟨h, rfl⟩⟩
  | error e =>
    have hfails : (resolveMember service proto domain ip).run.run answer s = (.error e, s) :=
      (goesOn_resolveMember_of_error hname).ended.1
    cases h.symm.trans hfails

/-- A search that finds a name has asked for a service once. -/
theorem countP_isService_asked {found : String}
    (h : (resolveMember service proto domain ip).run.run answer s = (.ok found, t)) :
    ((resolveMember service proto domain ip).run.asked answer s).countP Question.isService = 1 := by
  obtain ⟨query, hcourse⟩ := course_of_ok h
  exact hcourse.countP_isService

/-- The name that is found does not end in a dot. -/
theorem getLast?_ne_dot {found : String}
    (h : (resolveMember service proto domain ip).run.run answer s = (.ok found, t)) :
    found.toList.getLast? ≠ some '.' := by
  obtain ⟨query, hcourse⟩ := course_of_ok h
  obtain ⟨target, named⟩ := hcourse.named
  exact named.last

/-- **A search goes exactly one way.** Whatever the resolver answers, and if it answers the same
question differently each time:

* Under a valid name the search asks for the service once. What else it asks, how it ends and how it
  leaves the resolver is one of the ways that it can go, and there is no other.
* Under an invalid name it fails and asks nothing. -/
theorem resolveMember_exact (answer : (q : Question) → σ → q.Answer × σ)
    (service proto domain : String) (ip : IpAddress) (s : σ) :
    (∀ name, serviceName service proto domain = .ok name →
      ((resolveMember service proto domain ip).run.asked answer s).countP Question.isService = 1 ∧
      ∀ asked r t, Course answer (String.ofList name.text) ip s asked r t ↔
        (resolveMember service proto domain ip).run.run answer s = (r, t) ∧
          (resolveMember service proto domain ip).run.asked answer s = asked) ∧
    ∀ e, serviceName service proto domain = .error e →
      (resolveMember service proto domain ip).run.run answer s = (.error e, s) ∧
        (resolveMember service proto domain ip).run.asked answer s = [] := by
  refine ⟨fun name hname => ⟨?once, fun asked r t => course_iff hname⟩, fun e hname => ?invalid⟩
  case once => exact ((course_iff hname).mpr ⟨rfl, rfl⟩).countP_isService
  case invalid => exact (goesOn_resolveMember_of_error hname).ended

/-- A resolver that counts how often it is asked for a service. -/
def Resolver.counting (r : Resolver) : (q : Question) → Nat → q.Answer × Nat
  | .service name, n => (r.service name, n + 1)
  | .host name, n => (r.host name, n)

/-- A member under two names, and another member. -/
def aliased : Zone where
  services := Dict.empty.insert "_etcd-server-ssl._tcp.example.com."
    ["a.example.com.", ".alias.example.com..", "b.example.com."]
  hosts :=
    ((Dict.empty.insert "a.example.com." (Zone.addresses ["fd00::1"])).insert
      ".alias.example.com.." (Zone.addresses ["10.0.0.1", "fd00:0:0:0:0:0:0:1"])).insert
      "b.example.com." (Zone.addresses ["fd00::2"])

/-- The other member cannot be looked up. -/
def severed : Zone := { aliased with failing := ["b.example.com."] }

/-- The name under which the members of the domain are advertised. -/
def etcdName : Name := ⟨["_etcd-server-ssl", "_tcp", "example", "com"].map String.toList, true⟩

theorem alias_resolved_unless_severed :
    serviceName etcdService etcdProto "example.com" = .ok etcdName ∧
    Course aliased.resolver.counting (String.ofList etcdName.text)
      (.v6 #v[0xfd00, 0, 0, 0, 0, 0, 0, 1]) 0
      [.service "_etcd-server-ssl._tcp.example.com.", .host "a.example.com.",
        .host ".alias.example.com..", .host "b.example.com."] (.ok "alias.example.com") 1 ∧
    Course severed.resolver.counting (String.ofList etcdName.text)
      (.v6 #v[0xfd00, 0, 0, 0, 0, 0, 0, 1]) 0
      [.service "_etcd-server-ssl._tcp.example.com.", .host "a.example.com.",
        .host ".alias.example.com..", .host "b.example.com."]
      (.error (.dnsFailure "b.example.com." "injected failure")) 1 ∧
    (resolveMember etcdService etcdProto "example com" .loopback4).run.asked
      severed.resolver.counting 0 = [] := by
  have hname : serviceName etcdService etcdProto "example.com" = .ok etcdName := by decide +kernel
  have hinvalid : serviceName etcdService etcdProto "example com"
      = .error (.dnsFailure "_etcd-server-ssl._tcp.example com"
          "invalid SRV name: unrecognized char:  ") := by decide +kernel
  refine ⟨hname, ?_, ?_, ?_⟩
  · refine (((resolveMember_exact aliased.resolver.counting _ _ _ _ _).1 _ hname).2 _ _ _).mpr ?_
    decide +kernel
  · refine (((resolveMember_exact severed.resolver.counting _ _ _ _ _).1 _ hname).2 _ _ _).mpr ?_
    decide +kernel
  · exact ((resolveMember_exact severed.resolver.counting _ _ _ _ _).2 _ hinvalid).2

end EtcdRoster.Dns
