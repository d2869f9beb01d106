import EtcdRoster.Backoff.Conflict
import EtcdRoster.Proofs.Dialogue.Holding

/-!
# Attempts among others

A dialogue is tried again after a conflict, and others may move between any two of its questions.

* `Retried`, `holds_retryWith_iff` — the ways in which the attempts follow each other.
* `Retried.lastAttempt` — **the result is that of the last attempt**. What conflicts and waiting
  preserve, this attempt starts from.
-/

namespace EtcdRoster.Conflict

open Dialogue (Answering Holds holds_bind_iff holds_done_iff)

variable {Q : Type} {A : Q → Type} {α σ : Type} {step : Answering A σ} {draw : Dialogue Q A Draw}
  {pause : Duration → Dialogue Q A Unit} {attempt : Dialogue Q A (Except ApiError α)}
  {b : Backoff} {s t : σ} {r : Except ApiError α}

/-- From a state, attempts with this backoff end with a result in a state. -/
inductive Retried (step : Answering A σ) (draw : Dialogue Q A Draw)
    (pause : Duration → Dialogue Q A Unit) (attempt : Dialogue Q A (Except ApiError α)) :
    Backoff → σ → Except ApiError α → σ → Prop
  | succeeded {b : Backoff} {s t : σ} {value : α} (ended : Holds step attempt s (.ok value) t) :
      Retried step draw pause attempt b s (.ok value) t
  | failed {b : Backoff} {s t : σ} {e : ApiError} (other : e.isConflict = false)
      (ended : Holds step attempt s (.error e) t) :
      Retried step draw pause attempt b s (.error e) t
  | exhausted {b : Backoff} {s m t : σ} {e : ApiError} {d : Draw} (conflict : e.isConflict = true)
      (ended : Holds step attempt s (.error e) m) (drawn : Holds step draw m d t)
      (last : b.next d = .ok none) :
      Retried step draw pause attempt b s (.error e) t
  | again {b rest : Backoff} {s m n o t : σ} {e : ApiError} {d : Draw} {delay : Duration}
      {r : Except ApiError α} (conflict : e.isConflict = true)
      (ended : Holds step attempt s (.error e) m) (drawn : Holds step draw m d n)
      (next : b.next d = .ok (some (delay, rest))) (paused : Holds step (pause delay) n () o)
      (retried : Retried step draw pause attempt rest o r t) :
      Retried step draw pause attempt b s r t

/-- To hold a dialogue that is retried is to hold one attempt after the other. -/
theorem holds_retryWith_iff {dependable : b.Dependable} :
    Holds step (retryWith draw pause attempt b dependable) s r t ↔
      Retried step draw pause attempt b s r t := by
  induction b, dependable using retryWith.induct generalizing s with
  | case1 b dependable ih =>
    rw [retryWith]
    simp only [Dialogue.bind_eq, holds_bind_iff]
    constructor
    · rintro ⟨a, m, ended, rest⟩
      cases a with
      | ok value =>
        obtain ⟨rfl, rfl⟩ := holds_done_iff.mp rest
        exact .succeeded ended
      | error e =>
        by_cases conflict : e.isConflict = true
        · dsimp only at rest
          rw [if_pos conflict] at rest
          obtain ⟨d, n, drawn, rest⟩ := holds_bind_iff.mp rest
          split at rest
          · rename_i delay later next
            obtain ⟨⟨⟩, o, paused, rest⟩ := holds_bind_iff.mp rest
            exact .again conflict ended drawn next paused ((ih d delay later next).mp rest)
          · rename_i last
            obtain ⟨rfl, rfl⟩ := holds_done_iff.mp rest
            exact .exhausted conflict ended drawn last
          · rename_i fault
            exact absurd fault dependable.next_ne_error
        · dsimp only at rest
          rw [if_neg conflict] at rest
          obtain ⟨rfl, rfl⟩ := holds_done_iff.mp rest
          exact .failed (Bool.eq_false_iff.mpr conflict) ended
    · intro retried
      cases retried with
      | succeeded ended => exact ⟨_, _, ended, .done _ _⟩
      | failed other ended =>
        refine ⟨_, _, ended, ?_⟩
        dsimp only
        rw [if_neg (Bool.eq_false_iff.mp other)]
        exact .done _ _
      | exhausted conflict ended drawn last =>
        refine ⟨_, _, ended, ?_⟩
        dsimp only
        rw [if_pos conflict]
        refine holds_bind_iff.mpr ⟨_, _, drawn, ?_⟩
        split
        · rename_i next
          cases last.symm.trans next
        · exact .done _ _
        · rename_i fault
          cases last.symm.trans fault
      | again conflict ended drawn next paused retried =>
        refine ⟨_, _, ended, ?_⟩
        dsimp only
        rw [if_pos conflict]
        refine holds_bind_iff.mpr ⟨_, _, drawn, ?_⟩
        split
        · rename_i found
          cases found.symm.trans next
          exact holds_bind_iff.mpr ⟨(), _, paused, (ih _ _ _ next).mpr retried⟩
        · rename_i last
          cases last.symm.trans next
        · rename_i fault
          cases fault.symm.trans next

/-! ## The last attempt -/

/-- What attempts that meet a conflict and the waiting between them preserve. -/
structure Keeps (step : Answering A σ) (draw : Dialogue Q A Draw)
    (pause : Duration → Dialogue Q A Unit) (attempt : Dialogue Q A (Except ApiError α))
    (I : σ → Prop) : Prop where
  attempt : ∀ {s t e}, I s → Holds step attempt s (.error e) t → I t
  draw : ∀ {s t d}, I s → Holds step draw s d t → I t
  pause : ∀ {s t delay}, I s → Holds step (pause delay) s () t → I t

/-- The result is that of an attempt from a state like the first one. After its failure there may be
another draw. -/
theorem Retried.lastAttempt {I : σ → Prop} (keeps : Keeps step draw pause attempt I)
    (h : Retried step draw pause attempt b s r t) (hs : I s) :
    ∃ m n, I m ∧ Holds step attempt m r n ∧
      (t = n ∨ ∃ e d, r = .error e ∧ Holds step draw n d t) := by
  induction h with
  | succeeded ended => exact ⟨_, _, hs, ended, .inl rfl⟩
  | failed _ ended => exact ⟨_, _, hs, ended, .inl rfl⟩
  | exhausted _ ended drawn _ => exact ⟨_, _, hs, ended, .inr ⟨_, _, rfl, drawn⟩⟩
  | again _ ended drawn _ paused _ ih =>
    exact ih (keeps.pause (keeps.draw (keeps.attempt hs ended) drawn) paused)

end EtcdRoster.Conflict
