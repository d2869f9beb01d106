import EtcdRoster.Proofs.Dialogue.Holding

/-!
# What is asked, and what the answers allow

Two things that can be said about a dialogue without knowing who answers it.

* `asked`, `recording` — the questions of a dialogue in order, as a function and as a record that is
  kept while the dialogue is held; `holds_recording_iff` says that these are the same.
* `GoesOn` — after some questions a dialogue goes on as another one does from a later state.
* `Ensures` — what must hold of the result if every answer is one that may be given;
  `Holds.of_ensures` uses it and `ensures_bind` puts two parts together. `FailsWith` is the case of
  the errors of a dialogue that can fail.
-/

namespace EtcdRoster.Dialogue

variable {Q R : Type} {A : Q → Type} {B : R → Type} {α β σ ε : Type}

/-! ## The record of a dialogue -/

/-- The questions that are asked, in order, when answers depend on a state and change it. -/
def asked (answer : (q : Q) → σ → A q × σ) : Dialogue Q A α → σ → List Q
  | done _, _ => []
  | ask q next, s => q :: asked answer (next (answer q s).1) (answer q s).2

@[simp] theorem asked_bind (answer : (q : Q) → σ → A q × σ) (d : Dialogue Q A α)
    (f : α → Dialogue Q A β) (s : σ) :
    (d.bind f).asked answer s
      = d.asked answer s ++ (f (d.run answer s).1).asked answer (d.run answer s).2 := by
  induction d generalizing s with
  | done a => rfl
  | ask q next ih => simp [asked, run, ih]

/-- A first part that succeeds is followed by the second one. -/
theorem asked_run_bind_of_ok {answer : (q : Q) → σ → A q × σ} {x : ExceptT ε (Dialogue Q A) α}
    {f : α → ExceptT ε (Dialogue Q A) β} {s m : σ} {a : α}
    (h : x.run.run answer s = (.ok a, m)) :
    (x >>= f).run.asked answer s = x.run.asked answer s ++ (f a).run.asked answer m := by
  rw [ExceptT.run_bind, bind_eq, asked_bind, h]

/-- After some questions a dialogue goes on as another one does from a later state. -/
structure GoesOn (answer : (q : Q) → σ → A q × σ) (d : Dialogue Q A α) (s : σ) (asked : List Q)
    (d' : Dialogue Q A α) (t : σ) : Prop where
  run_eq : d.run answer s = d'.run answer t
  asked_eq : d.asked answer s = asked ++ d'.asked answer t

section GoesOn

variable {answer : (q : Q) → σ → A q × σ} {d d' d'' : Dialogue Q A α} {s m t : σ}
  {asked asked' : List Q}

theorem GoesOn.refl (d : Dialogue Q A α) (s : σ) : GoesOn answer d s [] d s := ⟨rfl, rfl⟩

theorem GoesOn.trans (h : GoesOn answer d s asked d' m) (h' : GoesOn answer d' m asked' d'' t) :
    GoesOn answer d s (asked ++ asked') d'' t := by
  refine ⟨h.run_eq.trans h'.run_eq, ?_⟩
  rw [h.asked_eq, h'.asked_eq, List.append_assoc]

/-- Where a dialogue goes on to its end, all is asked and the result is there. -/
theorem GoesOn.ended {r : α} (h : GoesOn answer d s asked (.done r) t) :
    d.run answer s = (r, t) ∧ d.asked answer s = asked :=
  ⟨h.run_eq, h.asked_eq.trans (List.append_nil asked)⟩

theorem goesOn_ask {q : Q} {next : A q → Dialogue Q A α} {a : A q} (h : answer q s = (a, t)) :
    GoesOn answer (.ask q next) s [q] (next a) t := by
  constructor
  · rw [run, h]
  · rw [Dialogue.asked, h, List.singleton_append]

/-- What follows a dialogue follows what it goes on as. -/
theorem GoesOn.bind (h : GoesOn answer d s asked d' t) (f : α → Dialogue Q A β) :
    GoesOn answer (d.bind f) s asked (d'.bind f) t := by
  constructor
  · rw [run_bind, run_bind, h.run_eq]
  · rw [asked_bind, asked_bind, h.asked_eq, h.run_eq, List.append_assoc]

end GoesOn

/-- Answers while a record of the questions is kept. -/
def recording (step : Answering A σ) : Answering A (σ × List Q) :=
  fun q s a t => step q s.1 a t.1 ∧ t.2 = s.2 ++ [q]

/-- What is recorded is what is asked. -/
theorem holds_recording_iff {answer : (q : Q) → σ → A q × σ} {d : Dialogue Q A α} {s t : σ}
    (record : List Q) {after : List Q} {r : α} :
    Holds (recording (answering answer)) d (s, record) r (t, after) ↔
      d.run answer s = (r, t) ∧ after = record ++ d.asked answer s := by
  induction d generalizing s record with
  | done a =>
    simp only [holds_done_iff, run, asked, List.append_nil, Prod.mk.injEq]
    constructor
    · rintro ⟨rfl, rfl, rfl⟩
      exact ⟨⟨rfl, rfl⟩, rfl⟩
    · rintro ⟨⟨rfl, rfl⟩, rfl⟩
      exact ⟨rfl, rfl, rfl⟩
  | ask q next ih =>
    rw [holds_ask_iff, run, asked]
    constructor
    · rintro ⟨a, ⟨m, middle⟩, ⟨answered, rfl⟩, rest⟩
      rw [show answer q s = (a, m) from answered]
      obtain ⟨hrun, rfl⟩ := (ih a _).mp rest
      exact ⟨hrun, List.append_assoc ..⟩
    · rintro ⟨hrun, rfl⟩
      refine ⟨(answer q s).1, ((answer q s).2, record ++ [q]), ⟨rfl, rfl⟩, (ih _ _).mpr ⟨hrun, ?_⟩⟩
      exact List.append_cons ..

/-- The record grows by questions of the kind that the dialogue asks. -/
theorem record_of_asks {step : Answering A σ} {p : Q → Prop} {d : Dialogue Q A α}
    {s t : σ × List Q} {r : α} (hd : d.Asks p) (h : Holds (recording step) d s r t) :
    ∃ added, t.2 = s.2 ++ added ∧ ∀ q ∈ added, p q := by
  refine h.invariant (I := fun u => ∃ added, u.2 = s.2 ++ added ∧ ∀ q ∈ added, p q) ?_ hd
    ⟨[], (List.append_nil _).symm, List.forall_mem_nil _⟩
  rintro q u a m hq ⟨added, hu, hadded⟩ ⟨-, hm⟩
  refine ⟨added ++ [q], by rw [hm, hu, List.append_assoc], fun q' hq' => ?_⟩
  rcases List.mem_append.mp hq' with hq' | hq'
  · exact hadded q' hq'
  · obtain rfl := List.mem_singleton.mp hq'
    exact hq

/-! ## Answers that may be given -/

/-- If every answer is one that may be given, then the result is as `post` says. -/
def Ensures (may : (q : Q) → A q → Prop) (post : α → Prop) : Dialogue Q A α → Prop
  | done a => post a
  | ask q next => ∀ a, may q a → Ensures may post (next a)

variable {may : (q : Q) → A q → Prop}

/-- Where all answers are such, what is ensured of the result is true of it. -/
theorem Holds.of_ensures {step : Answering A σ} {I : σ → Prop} {d : Dialogue Q A α}
    {post : α → Prop} {s t : σ} {r : α} (allows : ∀ q s a m, I s → step q s a m → I m ∧ may q a)
    (hs : I s) (h : Holds step d s r t) (hd : d.Ensures may post) : post r := by
  induction h with
  | done => exact hd
  | ask answered _ ih =>
    obtain ⟨hm, ha⟩ := allows _ _ _ _ hs answered
    exact ih hm (hd _ ha)

theorem ensures_question {q : Q} {post : A q → Prop} (h : ∀ a, may q a → post a) :
    (question q).Ensures may post := h

theorem ensures_bind {d : Dialogue Q A α} {f : α → Dialogue Q A β} {mid : α → Prop}
    {post : β → Prop} (hd : d.Ensures may mid) (hf : ∀ a, mid a → (f a).Ensures may post) :
    (d.bind f).Ensures may post := by
  induction d with
  | done a => exact hf a hd
  | ask q next ih => exact fun a ha => ih a (hd a ha)

/-- Questions may be replaced by dialogues that find answers that may be given. -/
theorem ensures_interpret {allowed : (r : R) → B r → Prop} {answer : (q : Q) → Dialogue R B (A q)}
    {d : Dialogue Q A α} {post : α → Prop} (hanswer : ∀ q, (answer q).Ensures allowed (may q))
    (hd : d.Ensures may post) : (d.interpret answer).Ensures allowed post := by
  induction d with
  | done a => exact hd
  | ask q next ih => exact ensures_bind (hanswer q) fun a ha => ih a (hd a ha)

/-! ## How a dialogue can fail -/

/-- If every answer is one that may be given, then only these errors can end the dialogue. -/
structure FailsWith (may : (q : Q) → A q → Prop) (p : ε → Prop) (x : ExceptT ε (Dialogue Q A) α) :
    Prop where
  ensures : x.run.Ensures may fun r => ∀ e, r = .error e → p e

variable {p : ε → Prop}

theorem failsWith_pure (a : α) : FailsWith may p (pure a) := by
  refine ⟨fun e h => ?_⟩
  cases h

theorem failsWith_throw {e : ε} (he : p e) :
    FailsWith may p (throw e : ExceptT ε (Dialogue Q A) α) := by
  refine ⟨fun e' h => ?_⟩
  cases h
  exact he

theorem failsWith_bind {x : ExceptT ε (Dialogue Q A) α} {f : α → ExceptT ε (Dialogue Q A) β}
    (hx : FailsWith may p x) (hf : ∀ a, FailsWith may p (f a)) : FailsWith may p (x >>= f) := by
  refine ⟨?_⟩
  rw [ExceptT.run_bind]
  refine ensures_bind hx.ensures fun r hr => ?_
  cases r with
  | ok a => exact (hf a).ensures
  | error e =>
    intro e' h
    cases h
    exact hr e rfl

end EtcdRoster.Dialogue
