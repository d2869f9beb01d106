import EtcdRoster.Cluster.Client
import EtcdRoster.Proofs.Backoff.Retrying
import EtcdRoster.Proofs.Conditions.Merging

/-!
# The operator status among other controllers

Every controller keeps its own conditions in the status of one operator. None of them holds a lock:
each reads the list, merges its conditions into it and patches the operator, provided that it still
has the version read. Others may write the whole list at any time. Every write gives the operator a
version that it has never had.

* `Operator`, `Foreign`, `Answers` — the operator with all that was written to it, what others do to
  it, and how requests about it are answered.
* `Attempted`, `attempted_of_holds` — how one attempt to update the conditions can end.
* `updateConditions_loses_nothing` — **no update is lost**: however foreign writes come in between,
  an update writes at most once, what it writes is merged into the conditions that it replaces, and
  conditions of other types stay exactly as others have left them.
-/

namespace EtcdRoster.Cluster

open Dialogue (Answering Holds holds_bind_iff holds_question_iff holds_done_iff)
open Relation (ReflTransGen)

/-- A write of the conditions of an operator. -/
structure StatusWrite where
  isOurs : Bool
  /-- The conditions that were stored at that very moment. -/
  before : List Condition
  after : List Condition
deriving DecidableEq

/-- An operator that several controllers write, with what has happened to it so far. -/
structure Operator where
  conditions : List Condition
  version : String
  /-- The versions that it had before. -/
  past : List String := []
  writes : List StatusWrite := []
  /-- The conditions that we have read last. -/
  lastRead : Option (List Condition) := none
deriving DecidableEq

namespace Operator

/-- An operator before anything happens to it. -/
def start (conditions : List Condition) (version : String) : Operator := { conditions, version }

/-- Stores conditions under a new version. -/
def write (s : Operator) (isOurs : Bool) (conditions : List Condition) (version : String) :
    Operator :=
  { s with
    conditions
    version
    past := s.version :: s.past
    writes := s.writes ++ [⟨isOurs, s.conditions, conditions⟩] }

/-- We have seen the conditions. -/
def see (s : Operator) : Operator := { s with lastRead := some s.conditions }

/-- What we have written, in order. -/
def ours (s : Operator) : List StatusWrite := s.writes.filter (·.isOurs)

/-- The operator has never had this version. -/
def Fresh (s : Operator) (version : String) : Prop := version ∉ s.version :: s.past

instance (s : Operator) (version : String) : Decidable (s.Fresh version) :=
  inferInstanceAs (Decidable (version ∉ s.version :: s.past))

/-- Somebody else overwrites the conditions, with whatever list. -/
def Foreign (s t : Operator) : Prop :=
  ∃ conditions version, s.Fresh version ∧ t = s.write false conditions version

/-- How requests about the operator of a name are answered. A patch that carries an outdated version
can only fail, and any request can fail for other reasons too. What fails has no effect. -/
inductive Answers (name : String) : Answering Ask.Answer Operator
  | read {s : Operator} {latest : Etcd} (current : latest.conditions = s.conditions)
      (versioned : latest.metadata.resourceVersion = some s.version) :
      Answers name (.send (.readEtcd name)) s (.ok latest) s.see
  | patched {s : Operator} {expected : Option String} {conditions : List Condition}
      {version : String} (latest : Etcd) (current : expected = none ∨ expected = some s.version)
      (fresh : s.Fresh version) :
      Answers name (.send (.patchConditions name expected conditions)) s (.ok latest)
        (s.write true conditions version)
  | failed {s : Operator} {request : Request} {e : ApiError} :
      Answers name (.send request) s (.error e) s
  | drawn {s : Operator} {d : Draw} : Answers name .draw s d s
  | paused {s : Operator} {delay : Duration} : Answers name (.sleep delay) s () s

/-- Requests about the operator of a name are answered, with any number of foreign writes before
each answer. -/
abbrev Shared (name : String) : Answering Ask.Answer Operator := (Answers name).among Foreign

variable {s t : Operator} {name : String} {desired : List Condition}

/-! ## What others can have done -/

/-- Whatever others have written shows in the version. -/
theorem version_past_of_foreign (h : ReflTransGen Foreign s t) : t = s ∨ s.version ∈ t.past := by
  induction h with
  | refl => exact .inl rfl
  | tail _ moved ih =>
    obtain ⟨conditions, version, -, rfl⟩ := moved
    refine .inr ?_
    obtain rfl | hpast := ih
    · exact List.mem_cons_self ..
    · exact List.mem_cons_of_mem _ hpast

/-- We have written nothing yet, and the version is not one of the past. -/
structure Untouched (s : Operator) : Prop where
  sound : s.version ∉ s.past
  ours_eq : s.ours = []

theorem untouched_start (conditions : List Condition) (version : String) :
    (start conditions version).Untouched :=
  ⟨List.not_mem_nil, rfl⟩

theorem Untouched.of_foreign (hs : s.Untouched) (h : ReflTransGen Foreign s t) : t.Untouched := by
  induction h with
  | refl => exact hs
  | tail _ moved ih =>
    obtain ⟨conditions, version, hfresh, rfl⟩ := moved
    refine ⟨hfresh, ?_⟩
    rw [← ih.ours_eq]
    simp [ours, write]

theorem Untouched.see (hs : s.Untouched) : s.see.Untouched := ⟨hs.sound, hs.ours_eq⟩

/-- Nobody has written since a moment if the operator still has its version of then. -/
theorem Untouched.eq_of_foreign (ht : t.Untouched) (h : ReflTransGen Foreign s t)
    (same : t.version = s.version) : t = s := by
  refine (version_past_of_foreign h).resolve_right fun hpast => ?_
  exact ht.sound (same ▸ hpast)

/-! ## One attempt -/

/-- The ways in which an attempt to update the conditions ends. The operator `m` is the one that it
has read. -/
inductive Attempted (desired : List Condition) : Except ApiError Unit → Operator → Prop
  | failed {e : ApiError} {t : Operator} (untouched : t.Untouched) :
      Attempted desired (.error e) t
  | skipped {m : Operator} (untouched : m.Untouched)
      (same : Conditions.equal m.conditions (Conditions.merge m.conditions desired) = true) :
      Attempted desired (.ok ()) m.see
  | written {m : Operator} {version : String} (untouched : m.Untouched) :
      Attempted desired (.ok ())
        (m.see.write true (Conditions.merge m.conditions desired) version)

theorem attempted_of_holds {r : Except ApiError Unit} (hs : s.Untouched)
    (h : Holds (Shared name) (updateOnce name desired) s r t) : Attempted desired r t := by
  unfold updateOnce at h
  obtain ⟨reply, k, hread, h⟩ := holds_bind_iff.mp h
  obtain ⟨m, hforeign, hreply⟩ := holds_question_iff.mp hread
  have hm : m.Untouched := hs.of_foreign hforeign
  cases hreply with
  | failed =>
    obtain ⟨rfl, rfl⟩ := holds_done_iff.mp h
    exact .failed hm
  | @read _ latest current versioned =>
    dsimp only at h
    rw [current, versioned] at h
    by_cases same : Conditions.equal m.conditions (Conditions.merge m.conditions desired) = true
    · rw [if_pos same] at h
      obtain ⟨rfl, rfl⟩ := holds_done_iff.mp h
      exact .skipped hm same
    · rw [if_neg same] at h
      obtain ⟨answer, o, hpatch, h⟩ := holds_bind_iff.mp h
      obtain ⟨n, hlater, hanswer⟩ := holds_question_iff.mp hpatch
      have hn : n.Untouched := hm.see.of_foreign hlater
      cases hanswer with
      | failed =>
        obtain ⟨rfl, rfl⟩ := holds_done_iff.mp h
        exact .failed hn
      | patched _ current _ =>
        obtain ⟨rfl, rfl⟩ := holds_done_iff.mp h
        -- The version read is still the current one, so what was read is what is replaced.
        have hversion : n.version = m.version := by simpa [eq_comm] using current
        obtain rfl := hn.eq_of_foreign hlater hversion
        exact .written hm

/-! ## All attempts -/

/-- Attempts that fail write nothing, and others may write while we wait. -/
theorem keeps_untouched (name : String) (desired : List Condition) :
    Conflict.Keeps (Shared name) (ask .draw) (fun delay => ask (.sleep delay))
      (updateOnce name desired) Untouched where
  attempt hs h := by
    cases attempted_of_holds hs h with
    | failed untouched => exact untouched
  draw hs h := by
    obtain ⟨m, hforeign, ⟨⟩⟩ := holds_question_iff.mp h
    exact hs.of_foreign hforeign
  pause hs h := by
    obtain ⟨m, hforeign, ⟨⟩⟩ := holds_question_iff.mp h
    exact hs.of_foreign hforeign

/-- An update of the conditions ends as one of its attempts does. -/
theorem attempted_of_updateConditions {r : Except SyncError Unit} (hs : s.Untouched)
    (h : Holds (Shared name) (updateConditions name desired) s r t) :
    (r = .ok () ∧ Attempted desired (.ok ()) t) ∨ ∃ e, r = .error e ∧ t.Untouched := by
  obtain ⟨result, k, hretry, h⟩ := holds_bind_iff.mp h
  obtain ⟨m, n, hm, hlast, hdrawn⟩ :=
    (Conflict.holds_retryWith_iff.mp hretry).lastAttempt (keeps_untouched name desired) hs
  have hattempted := attempted_of_holds hm hlast
  cases result with
  | ok =>
    obtain ⟨rfl, rfl⟩ := holds_done_iff.mp h
    obtain rfl | ⟨e, d, ⟨⟩, -⟩ := hdrawn
    exact .inl ⟨rfl, hattempted⟩
  | error e =>
    obtain ⟨rfl, rfl⟩ := holds_done_iff.mp h
    have hn : n.Untouched := (keeps_untouched name desired).attempt hm hlast
    refine .inr ⟨_, rfl, ?_⟩
    obtain rfl | ⟨-, d, -, hdrawn⟩ := hdrawn
    · exact hn
    · exact (keeps_untouched name desired).draw hn hdrawn

/-- What we have written in an attempt: nothing, or the desired conditions merged into the stored
ones. -/
theorem Attempted.ours_eq {r : Except ApiError Unit} (h : Attempted desired r t) :
    t.ours = [] ∨ ∃ before, t.ours = [⟨true, before, Conditions.merge before desired⟩] := by
  cases h with
  | failed untouched => exact .inl untouched.ours_eq
  | skipped untouched _ => exact .inl untouched.see.ours_eq
  | @written m version untouched =>
    have hbefore : m.writes.filter (·.isOurs) = [] := untouched.ours_eq
    refine .inr ⟨m.conditions, ?_⟩
    simp [ours, write, see, hbefore]

/-- An attempt that succeeds without writing has read conditions in which nothing was to be
changed. -/
theorem Attempted.nothing_new (h : Attempted desired (.ok ()) t) (unwritten : t.ours = []) :
    ∃ seen, t.lastRead = some seen ∧
      (Conditions.merge seen desired).map Conditions.timeless = seen.map Conditions.timeless := by
  cases h with
  | @skipped m _ same => exact ⟨m.conditions, rfl, Conditions.timeless_merge_of_equal same⟩
  | written _ => simp [ours, write] at unwritten

/-- What an update of the conditions has done, with this result, to an operator that others write
too. -/
structure LosesNothing (desired : List Condition) (r : Except SyncError Unit) (t : Operator) :
    Prop where
  /-- What we write are the conditions stored at that very moment, with the desired ones merged
  into them. -/
  merged : ∀ w ∈ t.ours, w.after = Conditions.merge w.before desired
  once : t.ours.length ≤ 1
  /-- Success without a write means that the last conditions read had nothing to be changed. -/
  nothing_new : r = .ok () → t.ours = [] → ∃ seen, t.lastRead = some seen ∧
    (Conditions.merge seen desired).map Conditions.timeless = seen.map Conditions.timeless
  failed : ∀ e, r = .error e → t.ours = []
  /-- A condition of another type stands after our write exactly where it has stood before. -/
  others : ∀ w ∈ t.ours, ∀ c : Condition, (∀ d ∈ desired, d.type ≠ c.type) →
    ∀ i : Nat, w.after[i]? = some c ↔ w.before[i]? = some c

/-- **No update is lost.** However foreign writes come in between, an update of the conditions
writes at most once, and not at all if it fails; what it writes is merged into the very conditions
that it replaces, and it touches no condition of another type. -/
theorem updateConditions_loses_nothing {conditions : List Condition} {version : String}
    {r : Except SyncError Unit}
    (updated : Holds (Shared name) (updateConditions name desired) (start conditions version) r t) :
    LosesNothing desired r t := by
  have hcourse := attempted_of_updateConditions (untouched_start conditions version) updated
  have hours : t.ours = [] ∨
      ∃ before, t.ours = [⟨true, before, Conditions.merge before desired⟩] := by
    obtain ⟨-, attempted⟩ | ⟨-, -, untouched⟩ := hcourse
    · exact attempted.ours_eq
    · exact .inl untouched.ours_eq
  have hmerged : ∀ w ∈ t.ours, w.after = Conditions.merge w.before desired := by
    intro w hw
    obtain hnone | ⟨before, hone⟩ := hours
    · simp [hnone] at hw
    · rw [hone, List.mem_singleton] at hw
      rw [hw]
  constructor
  case merged => exact hmerged
  case once =>
    obtain hnone | ⟨before, hone⟩ := hours
    · simp [hnone]
    · simp [hone]
  case nothing_new =>
    rintro rfl unwritten
    obtain ⟨-, attempted⟩ | ⟨e, ⟨⟩, -⟩ := hcourse
    exact attempted.nothing_new unwritten
  case failed =>
    rintro e rfl
    obtain ⟨⟨⟩, -⟩ | ⟨-, -, untouched⟩ := hcourse
    exact untouched.ours_eq
  case others =>
    intro w hw c other i
    rw [hmerged w hw]
    exact Conditions.getElem?_merge_iff other i

/-- The operator as a read shows it. -/
def shown (s : Operator) : Etcd where
  metadata := { resourceVersion := some s.version }
  status := some { conditions := s.conditions }

/-- An attempt that has something to change ends as its patch is answered. -/
theorem holds_updateOnce {m : Operator} {reply : Except ApiError Etcd}
    (foreign : ReflTransGen Foreign s m)
    (differs : Conditions.equal m.conditions (Conditions.merge m.conditions desired) = false)
    (answered : Shared name
      (.send (.patchConditions name (some m.version) (Conditions.merge m.conditions desired)))
      m.see reply t) :
    Holds (Shared name) (updateOnce name desired) s (reply.map fun _ => ()) t := by
  refine holds_bind_iff.mpr ⟨.ok m.shown, m.see, ?_, ?_⟩
  · exact holds_question_iff.mpr ⟨m, foreign, .read rfl rfl⟩
  · have hshown : m.shown.conditions = m.conditions := rfl
    dsimp only
    rw [hshown, if_neg (Bool.eq_false_iff.mp differs)]
    refine holds_bind_iff.mpr ⟨reply, t, holds_question_iff.mpr answered, ?_⟩
    cases reply <;> exact .done _ _

/-- The conditions of two controllers. -/
def available (status : String) : Condition := { type := "Available", status }

def degraded : Condition := { type := Names.degraded, status := Names.conditionFalse }

/-- Between our read and our patch the other controller takes its condition back. -/
def retracted : Operator :=
  (start [available Names.conditionTrue] "1").see.write false [available Names.conditionFalse] "2"

/-- Our second attempt succeeds. -/
def reconciled : Operator :=
  retracted.see.write true [available Names.conditionFalse, degraded] "3"

/-- A first conflict is followed by a pause. -/
theorem exists_pause : ∃ delay rest, Backoff.conflict.next .middle = .ok (some (delay, rest)) := by
  have hnext : (Backoff.conflict.next .middle).toOption.join.isSome = true := by decide +kernel
  cases h : Backoff.conflict.next .middle with
  | error => simp [h, Except.toOption] at hnext
  | ok found =>
    cases found with
    | none => simp [h, Except.toOption] at hnext
    | some next => exact ⟨next.1, next.2, rfl⟩

theorem holds_reconciled :
    Holds (Shared Names.cluster) (updateConditions Names.cluster [degraded])
      (start [available Names.conditionTrue] "1") (.ok ()) reconciled := by
  have hforeign : ReflTransGen Foreign (start [available Names.conditionTrue] "1").see retracted :=
    .single ⟨_, _, by decide, rfl⟩
  have hrefused : Holds (Shared Names.cluster) (updateOnce Names.cluster [degraded])
      (start [available Names.conditionTrue] "1")
      (.error (.status 409 "Conflict" "the object has been modified")) retracted :=
    holds_updateOnce .refl (by decide) ⟨retracted, hforeign, .failed⟩
  have haccepted : Holds (Shared Names.cluster) (updateOnce Names.cluster [degraded]) retracted
      (.ok ()) reconciled :=
    holds_updateOnce .refl (by decide)
      ⟨retracted.see, .refl, .patched reconciled.shown (.inr rfl) (by decide)⟩
  obtain ⟨delay, rest, hnext⟩ := exists_pause
  refine holds_bind_iff.mpr ⟨.ok (), reconciled, Conflict.holds_retryWith_iff.mpr ?_, .done _ _⟩
  exact .again rfl hrefused (holds_question_iff.mpr ⟨retracted, .refl, .drawn⟩) hnext
    (holds_question_iff.mpr ⟨retracted, .refl, .paused⟩) (.succeeded haccepted)

theorem reconciled_loses_nothing :
    reconciled.ours = [⟨true, [available Names.conditionFalse],
      [available Names.conditionFalse, degraded]⟩] ∧
    LosesNothing [degraded] (.ok ()) reconciled :=
  ⟨rfl, updateConditions_loses_nothing holds_reconciled⟩

end Operator

end EtcdRoster.Cluster
