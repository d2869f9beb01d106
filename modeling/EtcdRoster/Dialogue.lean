/-!
# Dialogues

A dialogue computes a result by asking questions one at a time and going on from the answers. It
says nothing about who answers: the same dialogue is held with a table of answers, with a store that
keeps a state, or with one that others change between two questions.

Main facts: dialogues form a lawful monad, and every way of answering is a homomorphism of it
(`consult_bind`, `run_bind`, `interpret_bind`).
-/

namespace EtcdRoster

/-- A tree of questions `Q`, each with a branch for every answer. -/
inductive Dialogue (Q : Type) (A : Q → Type) (α : Type) : Type
  | done (result : α)
  | ask (question : Q) (next : A question → Dialogue Q A α)

namespace Dialogue

variable {Q R : Type} {A : Q → Type} {B : R → Type} {α β γ σ ε : Type}

/-- Goes on with a second dialogue after the first. -/
def bind : Dialogue Q A α → (α → Dialogue Q A β) → Dialogue Q A β
  | done result, f => f result
  | ask question next, f => ask question fun answer => bind (next answer) f

instance : Monad (Dialogue Q A) where
  pure := done
  bind := bind

/-- The dialogue that asks one question and ends with its answer. -/
def question (q : Q) : Dialogue Q A (A q) := ask q done

@[simp] theorem pure_eq_done (a : α) : (pure a : Dialogue Q A α) = done a := rfl

@[simp] theorem bind_eq (d : Dialogue Q A α) (f : α → Dialogue Q A β) : d >>= f = d.bind f := rfl

@[simp] theorem bind_done_left (a : α) (f : α → Dialogue Q A β) : (done a).bind f = f a := rfl

@[simp] theorem bind_ask (q : Q) (next : A q → Dialogue Q A α) (f : α → Dialogue Q A β) :
    (ask q next).bind f = ask q fun answer => (next answer).bind f := rfl

@[simp] theorem bind_done_right (d : Dialogue Q A α) : d.bind done = d := by
  induction d with
  | done => rfl
  | ask q next ih => simp [bind, ih]

theorem bind_assoc (d : Dialogue Q A α) (f : α → Dialogue Q A β) (g : β → Dialogue Q A γ) :
    (d.bind f).bind g = d.bind fun a => (f a).bind g := by
  induction d with
  | done => rfl
  | ask q next ih => simp [bind, ih]

instance : LawfulMonad (Dialogue Q A) :=
  LawfulMonad.mk' (Dialogue Q A) bind_done_right (fun _ _ => rfl) bind_assoc

/-! ## Ways of answering -/

/-- The result when every question has a fixed answer. -/
def consult (answers : (q : Q) → A q) : Dialogue Q A α → α
  | done result => result
  | ask q next => consult answers (next (answers q))

/-- The questions that are asked when every question has a fixed answer. -/
def questions (answers : (q : Q) → A q) : Dialogue Q A α → List Q
  | done _ => []
  | ask q next => q :: questions answers (next (answers q))

/-- The result when answers depend on a state and change it. -/
def run (answer : (q : Q) → σ → A q × σ) : Dialogue Q A α → σ → α × σ
  | done result, s => (result, s)
  | ask q next, s => run answer (next (answer q s).1) (answer q s).2

/-- Replaces every question by a dialogue that finds its answer. -/
def interpret (answer : (q : Q) → Dialogue R B (A q)) : Dialogue Q A α → Dialogue R B α
  | done result => done result
  | ask q next => (answer q).bind fun a => interpret answer (next a)

@[simp] theorem consult_bind (answers : (q : Q) → A q) (d : Dialogue Q A α)
    (f : α → Dialogue Q A β) :
    (d.bind f).consult answers = (f (d.consult answers)).consult answers := by
  induction d with
  | done => rfl
  | ask q next ih => simp [consult, ih]

theorem consult_run_bind (answers : (q : Q) → A q) (x : ExceptT ε (Dialogue Q A) α)
    (f : α → ExceptT ε (Dialogue Q A) β) :
    (x >>= f).run.consult answers
      = x.run.consult answers >>= fun a => (f a).run.consult answers := by
  rw [ExceptT.run_bind, bind_eq, consult_bind]
  cases x.run.consult answers <;> rfl

theorem consult_run_bind_eq_ok_iff {answers : (q : Q) → A q} {x : ExceptT ε (Dialogue Q A) α}
    {f : α → ExceptT ε (Dialogue Q A) β} {b : β} :
    (x >>= f).run.consult answers = .ok b
      ↔ ∃ a, x.run.consult answers = .ok a ∧ (f a).run.consult answers = .ok b := by
  rw [consult_run_bind]
  constructor
  · intro h
    cases hx : x.run.consult answers with
    | error e => rw [hx] at h; cases h
    | ok a => rw [hx] at h; exact ⟨a, rfl, h⟩
  · rintro ⟨a, hx, h⟩
    rw [hx]
    exact h

@[simp] theorem run_bind (answer : (q : Q) → σ → A q × σ) (d : Dialogue Q A α)
    (f : α → Dialogue Q A β) (s : σ) :
    (d.bind f).run answer s = (f (d.run answer s).1).run answer (d.run answer s).2 := by
  induction d generalizing s with
  | done => rfl
  | ask q next ih => simp [run, ih]

theorem run_run_bind_eq_ok_iff {answer : (q : Q) → σ → A q × σ} {x : ExceptT ε (Dialogue Q A) α}
    {f : α → ExceptT ε (Dialogue Q A) β} {s t : σ} {b : β} :
    (x >>= f).run.run answer s = (.ok b, t)
      ↔ ∃ a m, x.run.run answer s = (.ok a, m) ∧ (f a).run.run answer m = (.ok b, t) := by
  rw [ExceptT.run_bind, bind_eq, run_bind]
  obtain ⟨r, m⟩ := x.run.run answer s
  cases r with
  | ok a =>
    constructor
    · intro h
      exact ⟨a, m, rfl, h⟩
    · rintro ⟨_, _, ⟨⟩, h⟩
      exact h
  | error e => simp [run]

/-- The first part of a dialogue fails, or it succeeds and the second part fails. -/
theorem run_run_bind_eq_error_iff {answer : (q : Q) → σ → A q × σ}
    {x : ExceptT ε (Dialogue Q A) α} {f : α → ExceptT ε (Dialogue Q A) β} {s t : σ} {e : ε} :
    (x >>= f).run.run answer s = (.error e, t)
      ↔ x.run.run answer s = (.error e, t) ∨
        ∃ a m, x.run.run answer s = (.ok a, m) ∧ (f a).run.run answer m = (.error e, t) := by
  rw [ExceptT.run_bind, bind_eq, run_bind]
  obtain ⟨r, m⟩ := x.run.run answer s
  cases r with
  | ok a =>
    constructor
    · intro h
      exact .inr ⟨a, m, rfl, h⟩
    · rintro (⟨⟨⟩⟩ | ⟨_, _, ⟨⟩, h⟩)
      exact h
  | error e' => simp [run]

@[simp] theorem interpret_bind (answer : (q : Q) → Dialogue R B (A q)) (d : Dialogue Q A α)
    (f : α → Dialogue Q A β) :
    (d.bind f).interpret answer
      = (d.interpret answer).bind fun a => (f a).interpret answer := by
  induction d with
  | done => rfl
  | ask q next ih => simp [interpret, ih, bind_assoc]

end Dialogue

end EtcdRoster
