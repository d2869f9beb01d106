import EtcdRoster.Dialogue
import Mathlib.Logic.Relation

/-!
# Holding a dialogue among others

`Dialogue.run` answers every question from a state that nobody else touches. Here an answer is
related to the states before and after it, so that other parties may move in between.

* `Holds` — a dialogue can end with a result in a state, answered one question at a time.
* `holds_bind_iff` — holding a dialogue in two parts; `holds_run_bind_iff` is the same for dialogues
  that can fail, where an error skips the second part.
* `holds_answering_iff` — when answers are a function of the state, `Holds` is `run`.
* `Asks` and `Holds.invariant` — what every kind of question asked preserves, the whole dialogue
  preserves; `Leads` forgets which questions were asked.
* `Answering.among` — others move before each answer; `holds_among_of_run` finds one way to hold a
  dialogue among them by a schedule of their moves.
-/

namespace EtcdRoster.Dialogue

variable {Q : Type} {A : Q → Type} {α β σ ε : Type}

/-- Which answers a question can get in a state, and the state after the answer. -/
abbrev Answering (A : Q → Type) (σ : Type) : Type := (q : Q) → σ → A q → σ → Prop

/-- From state `s` the dialogue can end with result `r` in state `t`. -/
inductive Holds (step : Answering A σ) : Dialogue Q A α → σ → α → σ → Prop
  | done (a : α) (s : σ) : Holds step (.done a) s a s
  | ask {q : Q} {next : A q → Dialogue Q A α} {s m t : σ} {a : A q} {r : α}
      (answered : step q s a m) (rest : Holds step (next a) m r t) : Holds step (.ask q next) s r t

section Parts

variable {step : Answering A σ} {s t : σ}

@[simp] theorem holds_done_iff {a r : α} :
    Holds step (.done a : Dialogue Q A α) s r t ↔ r = a ∧ t = s := by
  constructor
  · intro h
    cases h
    exact ⟨rfl, rfl⟩
  · rintro ⟨rfl, rfl⟩
    exact .done r t

theorem holds_ask_iff {q : Q} {next : A q → Dialogue Q A α} {r : α} :
    Holds step (.ask q next) s r t ↔ ∃ a m, step q s a m ∧ Holds step (next a) m r t := by
  constructor
  · intro h
    cases h with
    | ask answered rest => exact ⟨_, _, answered, rest⟩
  · rintro ⟨a, m, answered, rest⟩
    exact .ask answered rest

@[simp] theorem holds_question_iff {q : Q} {a : A q} :
    Holds step (question q) s a t ↔ step q s a t := by
  rw [question, holds_ask_iff]
  constructor
  · rintro ⟨b, m, answered, rest⟩
    obtain ⟨rfl, rfl⟩ := holds_done_iff.mp rest
    exact answered
  · intro answered
    exact ⟨a, t, answered, .done a t⟩

/-- A dialogue in two parts is held by holding the first and going on from where it ended. -/
theorem holds_bind_iff {d : Dialogue Q A α} {f : α → Dialogue Q A β} {r : β} :
    Holds step (d.bind f) s r t ↔ ∃ a m, Holds step d s a m ∧ Holds step (f a) m r t := by
  induction d generalizing s with
  | done a =>
    constructor
    · intro h
      exact ⟨a, s, .done a s, h⟩
    · rintro ⟨b, m, first, second⟩
      obtain ⟨rfl, rfl⟩ := holds_done_iff.mp first
      exact second
  | ask q next ih =>
    simp only [bind_ask, holds_ask_iff, ih]
    constructor
    · rintro ⟨a, m, answered, b, n, first, second⟩
      exact ⟨b, n, ⟨a, m, answered, first⟩, second⟩
    · rintro ⟨b, n, ⟨a, m, answered, first⟩, second⟩
      exact ⟨a, m, answered, b, n, first, second⟩

/-- The second part of a dialogue that can fail is held only if the first one succeeds. -/
theorem holds_run_bind_iff {x : ExceptT ε (Dialogue Q A) α} {f : α → ExceptT ε (Dialogue Q A) β}
    {r : Except ε β} :
    Holds step (x >>= f).run s r t ↔
      (∃ e, Holds step x.run s (.error e) t ∧ r = .error e) ∨
      ∃ a m, Holds step x.run s (.ok a) m ∧ Holds step (f a).run m r t := by
  rw [ExceptT.run_bind, bind_eq, holds_bind_iff]
  constructor
  · rintro ⟨e | a, m, first, second⟩
    · obtain ⟨rfl, rfl⟩ := holds_done_iff.mp second
      exact .inl ⟨e, first, rfl⟩
    · exact .inr ⟨a, m, first, second⟩
  · rintro (⟨e, first, rfl⟩ | ⟨a, m, first, second⟩)
    · exact ⟨.error e, t, first, .done _ t⟩
    · exact ⟨.ok a, m, first, second⟩

@[simp] theorem holds_run_pure_iff {a : α} {r : Except ε α} :
    Holds step (pure a : ExceptT ε (Dialogue Q A) α).run s r t ↔ r = .ok a ∧ t = s := by
  rw [ExceptT.run_pure, pure_eq_done, holds_done_iff]

@[simp] theorem holds_run_throw_iff {e : ε} {r : Except ε α} :
    Holds step (throw e : ExceptT ε (Dialogue Q A) α).run s r t ↔ r = .error e ∧ t = s := by
  rw [ExceptT.run_throw, pure_eq_done, holds_done_iff]

@[simp] theorem holds_run_lift_iff {d : Dialogue Q A α} {r : Except ε α} :
    Holds step (ExceptT.lift d : ExceptT ε (Dialogue Q A) α).run s r t ↔
      ∃ a, Holds step d s a t ∧ r = .ok a := by
  rw [ExceptT.run_lift, map_eq_pure_bind, bind_eq, holds_bind_iff]
  constructor
  · rintro ⟨a, m, first, second⟩
    obtain ⟨rfl, rfl⟩ := holds_done_iff.mp second
    exact ⟨a, first, rfl⟩
  · rintro ⟨a, first, rfl⟩
    exact ⟨a, t, first, .done _ t⟩

end Parts

/-! ## Answers that are a function of the state -/

/-- Answers by a function of the state. -/
def answering (answer : (q : Q) → σ → A q × σ) : Answering A σ :=
  fun q s a t => answer q s = (a, t)

theorem holds_answering_iff {answer : (q : Q) → σ → A q × σ} {d : Dialogue Q A α} {s t : σ}
    {r : α} : Holds (answering answer) d s r t ↔ d.run answer s = (r, t) := by
  induction d generalizing s with
  | done a => simp [run, eq_comm]
  | ask q next ih =>
    rw [holds_ask_iff, run]
    constructor
    · rintro ⟨a, m, answered, rest⟩
      rw [show answer q s = (a, m) from answered]
      exact ih a |>.mp rest
    · intro h
      exact ⟨(answer q s).1, (answer q s).2, rfl, (ih _).mpr h⟩

/-! ## Questions of one kind -/

/-- Every question that the dialogue can ask is of one kind. -/
def Asks (p : Q → Prop) : Dialogue Q A α → Prop
  | done _ => True
  | ask q next => p q ∧ ∀ a, Asks p (next a)

theorem Asks.mono {p p' : Q → Prop} {d : Dialogue Q A α} (hp : ∀ q, p q → p' q) (hd : d.Asks p) :
    d.Asks p' := by
  induction d with
  | done => trivial
  | ask q next ih => exact ⟨hp q hd.1, fun a => ih a (hd.2 a)⟩

theorem asks_question {p : Q → Prop} {q : Q} (h : p q) : (question (A := A) q).Asks p :=
  ⟨h, fun _ => trivial⟩

theorem asks_bind {p : Q → Prop} {d : Dialogue Q A α} {f : α → Dialogue Q A β} (hd : d.Asks p)
    (hf : ∀ a, (f a).Asks p) : (d.bind f).Asks p := by
  induction d with
  | done a => exact hf a
  | ask q next ih => exact ⟨hd.1, fun a => ih a (hd.2 a)⟩

theorem asks_run_bind {p : Q → Prop} {x : ExceptT ε (Dialogue Q A) α}
    {f : α → ExceptT ε (Dialogue Q A) β} (hx : x.run.Asks p) (hf : ∀ a, (f a).run.Asks p) :
    (x >>= f).run.Asks p := by
  rw [ExceptT.run_bind]
  refine asks_bind hx fun a => ?_
  cases a with
  | ok a => exact hf a
  | error e => trivial

/-- Fixed answers that agree on the questions of a kind give the same result. -/
theorem Asks.consult_congr {p : Q → Prop} {answers answers' : (q : Q) → A q} {d : Dialogue Q A α}
    (h : ∀ q, p q → answers q = answers' q) (hd : d.Asks p) :
    d.consult answers = d.consult answers' := by
  induction d with
  | done => rfl
  | ask q next ih =>
    rw [consult, consult, ← h q hd.1]
    exact ih _ (hd.2 _)

/-- What every question of a kind preserves, a dialogue that asks only such questions
preserves. -/
theorem Holds.invariant {step : Answering A σ} {p : Q → Prop} {I : σ → Prop}
    (keeps : ∀ q s a m, p q → I s → step q s a m → I m) {d : Dialogue Q A α} {s t : σ} {r : α}
    (h : Holds step d s r t) (hd : d.Asks p) (hs : I s) : I t := by
  induction h with
  | done => exact hs
  | ask answered _ ih => exact ih (hd.2 _) (keeps _ _ _ _ hd.1 hs answered)

/-- One state leads to another by answers to whatever questions. -/
def Leads (step : Answering A σ) : σ → σ → Prop :=
  Relation.ReflTransGen fun s t => ∃ q a, step q s a t

theorem Holds.leads {step : Answering A σ} {d : Dialogue Q A α} {s t : σ} {r : α}
    (h : Holds step d s r t) : Leads step s t := by
  induction h with
  | done => exact .refl
  | ask answered _ ih => exact .head ⟨_, _, answered⟩ ih

theorem Leads.invariant {step : Answering A σ} {I : σ → Prop}
    (keeps : ∀ q s a m, I s → step q s a m → I m) {s t : σ} (h : Leads step s t) (hs : I s) :
    I t := by
  induction h with
  | refl => exact hs
  | tail _ answered ih =>
    obtain ⟨q, a, answered⟩ := answered
    exact keeps _ _ _ _ ih answered

/-! ## Others that move in between -/

/-- Before each answer the others may move, any number of times. -/
def Answering.among (others : σ → σ → Prop) (step : Answering A σ) : Answering A σ :=
  fun q s a t => ∃ m, Relation.ReflTransGen others s m ∧ step q m a t

/-- Answers before each of which the others move as their schedule says, until it is over. -/
def scheduled (answer : (q : Q) → σ → A q × σ) (q : Q) :
    List (σ → σ) × σ → A q × List (σ → σ) × σ
  | ([], s) => ((answer q s).1, [], (answer q s).2)
  | (move :: later, s) => ((answer q (move s)).1, later, (answer q (move s)).2)

/-- A run by a schedule is one way to hold the dialogue among the others. -/
theorem holds_among_of_run {answer : (q : Q) → σ → A q × σ} {others : σ → σ → Prop}
    {d : Dialogue Q A α} {moves later : List (σ → σ)} {s t : σ} {r : α}
    (legal : ∀ move ∈ moves, ∀ s, Relation.ReflTransGen others s (move s))
    (h : d.run (scheduled answer) (moves, s) = (r, later, t)) :
    Holds ((answering answer).among others) d s r t := by
  induction d generalizing moves s with
  | done a =>
    cases h
    exact .done r t
  | ask q next ih =>
    cases moves with
    | nil => exact .ask ⟨s, .refl, rfl⟩ (ih _ legal h)
    | cons move moves =>
      obtain ⟨hmove, hmoves⟩ := List.forall_mem_cons.mp legal
      exact .ask ⟨move s, hmove s, rfl⟩ (ih _ hmoves h)

end EtcdRoster.Dialogue
