import EtcdRoster.Proofs.Backoff.Retrying
import EtcdRoster.Proofs.Dialogue.Recording
import Mathlib.Order.Iterate

/-!
# How often an operation is called

The loop of attempts has no bound of its own. What bounds it is the counter of its backoff, so the
calls are followed together with the delays that have been handed out (`spent`).

* `next_spent`, `next_spent_last` — five conflicts get a delay each, and the sixth gets none.
* `exists_lastCall` — which call is the last one, from any number of delays on.
* `retry_budgeted` — **an operation is called** until it meets no conflict, and at most six times.
-/

namespace EtcdRoster.Conflict

open Backoff (conflictRetries)
open Dialogue (Holds answering recording question)

/-! ## The budget -/

/-- The backoff after some conflicts. -/
def spent (conflicts : ℕ) : Backoff := { Backoff.conflict with retries := conflicts }

theorem dependable_spent (k : ℕ) : (spent k).Dependable :=
  ⟨Backoff.dependable_conflict.limited, Backoff.dependable_conflict.drawn⟩

theorem next_spent {k : ℕ} (hk : k < conflictRetries) (d : Draw) :
    ∃ delay, (spent k).next d = .ok (some (delay, spent (k + 1))) := by
  have hunspent : (spent k).isSpent = false := decide_eq_false (not_le.mpr hk)
  refine ((dependable_spent k).next_cases d).resolve_left fun hnone => ?_
  exact absurd (Backoff.next_eq_none_iff.mp hnone) (Bool.eq_false_iff.mp hunspent)

theorem next_spent_last (d : Draw) : (spent conflictRetries).next d = .ok none :=
  Backoff.next_eq_none_iff.mpr rfl

/-! ## An operation with a state -/

/-- What the attempts ask for. -/
inductive Ask
  | call
  | draw
  | pause (delay : Duration)

namespace Ask

abbrev Answer (α : Type) : Ask → Type
  | call => Except ApiError α
  | draw => Draw
  | pause _ => Unit

def isCall : Ask → Bool
  | call => true
  | _ => false

end Ask

/-- The results that another attempt is made after. -/
def conflicted {α : Type} : Except ApiError α → Bool
  | .ok _ => false
  | .error e => e.isConflict

variable {α σ ρ : Type} (operation : σ → Except ApiError α × σ) (draws : ρ → Draw × ρ)

/-- Calls are answered by the operation, and draws come from elsewhere. -/
def answer : (q : Ask) → σ × ρ → Ask.Answer α q × σ × ρ
  | .call, (s, u) => ((operation s).1, (operation s).2, u)
  | .draw, (s, u) => ((draws u).1, s, (draws u).2)
  | .pause _, (s, u) => ((), s, u)

/-- The state of the operation after some calls. -/
def stateAfter (calls : ℕ) (s : σ) : σ := (fun s => (operation s).2)^[calls] s

/-- The result of a call, where calls are numbered from zero. -/
def result (s : σ) (call : ℕ) : Except ApiError α := (operation (stateAfter operation call s)).1

theorem stateAfter_succ (calls : ℕ) (s : σ) :
    stateAfter operation (calls + 1) s = stateAfter operation calls (operation s).2 := rfl

theorem result_succ (s : σ) (call : ℕ) :
    result operation s (call + 1) = result operation (operation s).2 call := rfl

/-- The attempts as a dialogue with the operation. -/
def attempts (α : Type) : Dialogue Ask (Ask.Answer α) (Except ApiError α) :=
  retry (question Ask.draw) (fun delay => question (Ask.pause delay)) (question Ask.call)

/-! ## Which call is the last one -/

variable {operation draws} {b : Backoff} {w w' : (σ × ρ) × List Ask} {r : Except ApiError α}

theorem holds_call (h : Holds (recording (answering (answer operation draws))) (question Ask.call)
    w r w') :
    r = (operation w.1.1).1 ∧ w'.1.1 = (operation w.1.1).2 ∧
      w'.2.countP Ask.isCall = w.2.countP Ask.isCall + 1 := by
  obtain ⟨answered, recorded⟩ := Dialogue.holds_question_iff.mp h
  obtain ⟨hr, hw⟩ := Prod.mk.inj answered
  refine ⟨hr.symm, congrArg Prod.fst hw.symm, ?_⟩
  rw [recorded, List.countP_append]
  rfl

theorem holds_other {q : Ask} {a : Ask.Answer α q} (hq : q.isCall = false)
    (h : Holds (recording (answering (answer operation draws))) (question q) w a w') :
    w'.1.1 = w.1.1 ∧ w'.2.countP Ask.isCall = w.2.countP Ask.isCall := by
  obtain ⟨answered, recorded⟩ := Dialogue.holds_question_iff.mp h
  rw [show w'.1 = (answer operation draws q w.1).2 from (congrArg Prod.snd answered).symm, recorded,
    List.countP_append, List.countP_singleton, hq]
  cases q with
  | call => cases hq
  | draw => exact ⟨rfl, rfl⟩
  | pause delay => exact ⟨rfl, rfl⟩

/-- One of the calls is the last one, when some delays have been handed out before. -/
structure LastCall (operation : σ → Except ApiError α × σ) (handed : ℕ) (w w' : (σ × ρ) × List Ask)
    (r : Except ApiError α) (call : ℕ) : Prop where
  conflicts : ∀ earlier < call, conflicted (result operation w.1.1 earlier) = true
  within : handed + call ≤ conflictRetries
  stops : conflicted r = false ∨ handed + call = conflictRetries
  result_eq : r = result operation w.1.1 call
  state_eq : w'.1.1 = stateAfter operation (call + 1) w.1.1
  calls_eq : w'.2.countP Ask.isCall = w.2.countP Ask.isCall + (call + 1)

theorem exists_lastCall {handed : ℕ}
    (h : Retried (recording (answering (answer operation draws))) (question Ask.draw)
      (fun delay => question (Ask.pause delay)) (question Ask.call) b w r w')
    (hb : b = spent handed) (hhanded : handed ≤ conflictRetries) :
    ∃ call, LastCall operation handed w w' r call := by
  induction h generalizing handed with
  | succeeded ended =>
    obtain ⟨hr, hstate, hcalls⟩ := holds_call ended
    exact ⟨0, by simp, hhanded, .inl rfl, hr, hstate, hcalls⟩
  | failed other ended =>
    obtain ⟨hr, hstate, hcalls⟩ := holds_call ended
    exact ⟨0, by simp, hhanded, .inl other, hr, hstate, hcalls⟩
  | exhausted conflict ended drawn last =>
    obtain ⟨hr, hstate, hcalls⟩ := holds_call ended
    obtain ⟨hsame, hcount⟩ := holds_other rfl drawn
    refine ⟨0, by simp, hhanded, .inr ?_, hr, hsame.trans hstate, hcount.trans hcalls⟩
    by_contra hleft
    subst hb
    obtain ⟨delay, hnext⟩ := next_spent (lt_of_le_of_ne hhanded hleft) _
    cases last.symm.trans hnext
  | again conflict ended drawn next paused retried ih =>
    obtain ⟨hr, hstate, hcalls⟩ := holds_call ended
    obtain ⟨hdrawn, hdrawn_calls⟩ := holds_other rfl drawn
    obtain ⟨hpaused, hpaused_calls⟩ := holds_other rfl paused
    subst hb
    have hleft : handed < conflictRetries := by
      refine lt_of_le_of_ne hhanded ?_
      rintro rfl
      cases next.symm.trans (next_spent_last _)
    obtain ⟨delay, hnext⟩ := next_spent hleft _
    cases next.symm.trans hnext
    obtain ⟨call, hlast⟩ := ih rfl hleft
    have hrest := hpaused.trans (hdrawn.trans hstate)
    refine ⟨call + 1, ?conflicts, ?within, ?stops, ?result, ?state, ?calls⟩
    case conflicts =>
      rintro (_ | earlier) hearlier
      · rw [result, stateAfter, Function.iterate_zero_apply, ← hr]
        exact conflict
      · rw [result_succ, ← hrest]
        exact hlast.conflicts earlier (by omega)
    case within => exact (Nat.succ_add_eq_add_succ handed call).symm.trans_le hlast.within
    case stops => exact hlast.stops.imp_right (Nat.succ_add_eq_add_succ handed call).symm.trans
    case result => rw [hlast.result_eq, hrest, result_succ]
    case state => rw [hlast.state_eq, hrest, ← stateAfter_succ]
    case calls => rw [hlast.calls_eq]; omega

/-! ## The whole budget -/

/-- What is made of an operation that may be called six times. -/
structure Budgeted (operation : σ → Except ApiError α × σ) (s : σ) (asked : List Ask)
    (outcome : Except ApiError α) (after : σ) : Prop where
  /-- It is called up to its first result that is no conflict, or six times if that comes later. -/
  until_final : ∀ call, conflicted (result operation s call) = false →
    (∀ earlier < call, conflicted (result operation s earlier) = true) →
      asked.countP Ask.isCall = min 6 (call + 1)
  exhausted : (∀ call, conflicted (result operation s call) = true) → asked.countP Ask.isCall = 6
  /-- The outcome is the result of the last call, and nothing is called after it. -/
  last : ∃ call, asked.countP Ask.isCall = call + 1 ∧ outcome = result operation s call ∧
    after = stateAfter operation (call + 1) s

/-- **An operation is called** until it meets no conflict, and at most six times. -/
theorem retry_budgeted (operation : σ → Except ApiError α × σ) (draws : ρ → Draw × ρ) (s : σ)
    (u : ρ) :
    Budgeted operation s ((attempts α).asked (answer operation draws) (s, u))
      ((attempts α).run (answer operation draws) (s, u)).1
      ((attempts α).run (answer operation draws) (s, u)).2.1 := by
  have hholds : Holds (recording (answering (answer operation draws))) (attempts α) ((s, u), [])
      ((attempts α).run (answer operation draws) (s, u)).1
      (((attempts α).run (answer operation draws) (s, u)).2,
        [] ++ (attempts α).asked (answer operation draws) (s, u)) :=
    (Dialogue.holds_recording_iff []).mpr ⟨rfl, rfl⟩
  obtain ⟨call, hlast⟩ := exists_lastCall (holds_retryWith_iff.mp hholds) rfl (Nat.zero_le _)
  have hcalls := hlast.calls_eq
  rw [List.nil_append, List.countP_nil, Nat.zero_add] at hcalls
  have hwithin : call ≤ 5 := (Nat.zero_add call).symm.trans_le hlast.within
  have hstops : conflicted (result operation s call) = false ∨ call = 5 := by
    rw [← hlast.result_eq]
    exact hlast.stops.imp_right (Nat.zero_add call).symm.trans
  refine ⟨?until_final, ?exhausted, call, hcalls, hlast.result_eq, hlast.state_eq⟩
  case until_final =>
    intro final hfinal hearlier
    rw [hcalls]
    obtain hbefore | rfl | hafter := lt_trichotomy final call
    · exact absurd (hlast.conflicts final hbefore) (Bool.eq_false_iff.mp hfinal)
    · omega
    · have hconflict := hearlier call hafter
      have hspent : call = 5 := hstops.resolve_left (by rw [hconflict]; decide)
      omega
  case exhausted =>
    intro hconflicts
    have hspent : call = 5 := hstops.resolve_left (by rw [hconflicts]; decide)
    rw [hcalls, hspent]

end EtcdRoster.Conflict
