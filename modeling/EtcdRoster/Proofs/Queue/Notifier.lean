import Mathlib.Logic.Function.Basic

/-!
# Wake-up calls

A worker that finds nothing to do asks for a wake-up call before it looks, and waits for the call if
there was nothing. Whoever brings work wakes one of those that wait. If nobody waits yet, a *permit*
is left behind, one at most, and the next worker that would wait uses it up and goes on at once.
Waking all reaches every call that was asked for, waited for or not, and leaves no permit.

* `Notifier` — anything that behaves like this, with its laws; it may choose whom it wakes.
* `Notifier.firstCome` — the notifier that wakes those first that have waited longest.
-/

namespace EtcdRoster

/-- How far the wake-up call of a worker is. -/
inductive Wakeup
  /-- The worker has asked for it and does not wait for it yet. -/
  | asked
  | awaited
  | delivered
deriving DecidableEq

/-- Wakes the workers `ω`. -/
structure Notifier (ω : Type) [DecidableEq ω] where
  State : Type
  start : State
  permit : State → Bool
  /-- The call that a worker asked for last. -/
  call? : State → ω → Option Wakeup
  /-- A worker asks for a new call, in place of its old one. -/
  ask : State → ω → State
  /-- A worker looks for the first time whether its call has come. -/
  poll : State → ω → State
  notifyOne : State → State
  notifyAll : State → State
  call?_start : ∀ w, call? start w = none
  permit_start : permit start = false
  call?_ask : ∀ s w, call? (ask s w) = Function.update (call? s) w (some .asked)
  permit_ask : ∀ s w, permit (ask s w) = permit s
  /-- Who would wait uses up the permit. -/
  poll_of_permit : ∀ s w, call? s w = some .asked → permit s = true →
    permit (poll s w) = false ∧ call? (poll s w) = Function.update (call? s) w (some .delivered)
  poll_of_no_permit : ∀ s w, call? s w = some .asked → permit s = false →
    permit (poll s w) = false ∧ call? (poll s w) = Function.update (call? s) w (some .awaited)
  poll_of_delivered : ∀ s w, call? s w = some .delivered → call? (poll s w) = call? s
  /-- If somebody waits, one that waits is woken. -/
  notifyOne_of_awaited : ∀ s, (∃ w, call? s w = some .awaited) →
    permit (notifyOne s) = permit s ∧ ∃ w, call? s w = some .awaited ∧
      call? (notifyOne s) = Function.update (call? s) w (some .delivered)
  /-- If nobody waits, a permit is left behind. -/
  notifyOne_of_nobody : ∀ s, (∀ w, call? s w ≠ some .awaited) →
    permit (notifyOne s) = true ∧ call? (notifyOne s) = call? s
  call?_notifyAll : ∀ s w, call? (notifyAll s) w = (call? s w).map fun _ => .delivered
  permit_notifyAll : ∀ s, permit (notifyAll s) = permit s

namespace Notifier

/-- The calls that workers asked for, in the order in which they came as far as they are. -/
structure Desk (ω : Type) where
  permit : Bool := false
  calls : List (ω × Wakeup) := []

namespace Desk

variable {ω : Type} [DecidableEq ω]

def call? (d : Desk ω) (w : ω) : Option Wakeup := (d.calls.find? (·.1 = w)).map Prod.snd

/-- Puts the call of a worker last. -/
def put (d : Desk ω) (w : ω) (call : Wakeup) : Desk ω :=
  { d with calls := d.calls.filter (·.1 ≠ w) ++ [(w, call)] }

def poll (d : Desk ω) (w : ω) : Desk ω :=
  if d.call? w = some .asked then
    if d.permit then { d.put w .delivered with permit := false } else d.put w .awaited
  else d

/-- The worker that has waited longest. -/
def first? (d : Desk ω) : Option ω :=
  (d.calls.find? fun c => d.call? c.1 = some .awaited).map Prod.fst

def notifyOne (d : Desk ω) : Desk ω :=
  match d.first? with
  | some w => d.put w .delivered
  | none => { d with permit := true }

def notifyAll (d : Desk ω) : Desk ω :=
  { d with calls := d.calls.map fun c => (c.1, .delivered) }

variable {d : Desk ω} {w : ω}

theorem call?_put (d : Desk ω) (w : ω) (call : Wakeup) :
    (d.put w call).call? = Function.update d.call? w (some call) := by
  funext other
  rw [call?, put, List.find?_append, List.find?_filter]
  by_cases h : other = w
  · subst h
    rw [List.find?_eq_none.mpr (by simp)]
    simp
  · have hsame : ∀ c : ω × Wakeup, (c.1 ≠ w ∧ c.1 = other) ↔ c.1 = other := by
      intro c
      exact ⟨And.right, fun hc => ⟨fun heq => h (hc ▸ heq), hc⟩⟩
    rw [Function.update_of_ne h]
    simp [hsame, Ne.symm h, call?]

theorem first?_eq_some (h : d.first? = some w) : d.call? w = some .awaited := by
  obtain ⟨c, hc, rfl⟩ := Option.map_eq_some_iff.mp h
  simpa using List.find?_some hc

theorem first?_eq_none_iff : d.first? = none ↔ ∀ w, d.call? w ≠ some .awaited := by
  simp only [first?, Option.map_eq_none_iff, List.find?_eq_none, decide_eq_true_eq]
  constructor
  · intro h w hw
    obtain ⟨c, hc, -⟩ := Option.map_eq_some_iff.mp hw
    obtain rfl : c.1 = w := by simpa using List.find?_some hc
    exact h c (List.mem_of_find?_eq_some hc) hw
  · intro h c _
    exact h c.1

theorem call?_notifyAll (d : Desk ω) (w : ω) :
    d.notifyAll.call? w = (d.call? w).map fun _ => .delivered := by
  simp [call?, notifyAll, List.find?_map, Function.comp_def]

end Desk

/-- Wakes those first that have waited longest. -/
def firstCome (ω : Type) [DecidableEq ω] : Notifier ω where
  State := Desk ω
  start := {}
  permit := Desk.permit
  call? := Desk.call?
  ask d w := d.put w .asked
  poll := Desk.poll
  notifyOne := Desk.notifyOne
  notifyAll := Desk.notifyAll
  call?_start _ := rfl
  permit_start := rfl
  call?_ask d w := d.call?_put w .asked
  permit_ask _ _ := rfl
  poll_of_permit d w hasked hpermit := by
    rw [Desk.poll, if_pos hasked, if_pos hpermit]
    exact ⟨rfl, d.call?_put w .delivered⟩
  poll_of_no_permit d w hasked hpermit := by
    rw [Desk.poll, if_pos hasked, if_neg (Bool.eq_false_iff.mp hpermit)]
    exact ⟨hpermit, d.call?_put w .awaited⟩
  poll_of_delivered d w hdelivered := by
    rw [Desk.poll, if_neg (by simp [hdelivered])]
  notifyOne_of_awaited d hsome := by
    cases hfirst : d.first? with
    | none =>
      obtain ⟨w, hw⟩ := hsome
      exact absurd hw (Desk.first?_eq_none_iff.mp hfirst w)
    | some w =>
      simp only [Desk.notifyOne, hfirst]
      exact ⟨rfl, w, Desk.first?_eq_some hfirst, d.call?_put w .delivered⟩
  notifyOne_of_nobody d hnobody := by
    have hfirst : d.first? = none := Desk.first?_eq_none_iff.mpr hnobody
    simp only [Desk.notifyOne, hfirst]
    exact ⟨trivial, rfl⟩
  call?_notifyAll := Desk.call?_notifyAll
  permit_notifyAll _ := rfl

end Notifier

end EtcdRoster
