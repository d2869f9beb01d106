import EtcdRoster.Proofs.Queue.Consistency
import EtcdRoster.Proofs.Queue.Notifier

/-!
# No wake-up is lost

Any number of workers share one queue. A worker asks for a wake-up call, looks into the queue, and
waits for the call if it found nothing. Any number of others add keys. A key that enters the queue
is followed by a call, but the two are separate steps: in between anything may happen, and calls
that nobody waits for come together in one permit. A worker may also look before the call of a key
is made, and take that key without using up any permit.

* `Workshop` — the queue, the notifier and how far everybody is; `Workshop.step?` lets them move.
* `Sound` — as long as the queue is open and keys wait, a call is still to be made, or a permit is
  there, or some worker is going to look; `sound_of_step` keeps it so.
* `attended_of_replay` — so keys never wait for workers that nobody is going to wake, and after a
  shutdown no worker waits on.
-/

namespace EtcdRoster.WorkQueue

/-- How far a worker is. -/
inductive Place
  /-- It is about to ask for a call. -/
  | outside
  /-- It has asked for a call and is about to look into the queue. -/
  | listening
  /-- It has found nothing and is about to wait. -/
  | emptyHanded
  /-- It waits for its call. -/
  | parked
  | busy (key : String)
  /-- Its key has entered the queue again, and it is about to make the call for that. -/
  | obliged
  /-- It has found the queue shut down. -/
  | gone
deriving DecidableEq

namespace Place

/-- Without any call the worker is going to look into the queue. -/
def isUp : Place → Bool
  | outside | listening | busy _ | obliged => true
  | emptyHanded | parked | gone => false

/-- The worker has found nothing and needs its call to look again. -/
def waits : Place → Bool
  | emptyHanded | parked => true
  | _ => false

/-- The worker has asked for a call and not left with it. -/
def hasAsked : Place → Bool
  | listening | emptyHanded | parked => true
  | _ => false

theorem isUp_eq_false_of_waits {p : Place} (h : p.waits = true) : p.isUp = false := by
  cases p <;> first | rfl | cases h

end Place

variable {ω : Type} [DecidableEq ω]

/-- A queue with its workers, and those that add keys or shut it down. -/
structure Workshop (n : Notifier ω) where
  work : WorkQueue := {}
  bell : n.State := n.start
  place : ω → Place := fun _ => .outside
  /-- How many have added a key to the queue and not made the call for it. -/
  owed : Nat := 0
  /-- How many have shut the queue down and not woken the workers. -/
  closing : Nat := 0
  /-- Somebody has shut the queue down and woken the workers. -/
  closed : Bool := false

/-- What can happen, each at once. -/
inductive Move (ω : Type)
  | add (key : String)
  /-- Somebody that has added a key makes the call for it. -/
  | call
  | ask (worker : ω)
  | look (worker : ω)
  /-- A worker that has found nothing looks for the first time whether its call has come. -/
  | poll (worker : ω)
  /-- The call of a worker that waits has come. -/
  | resume (worker : ω)
  | done (worker : ω)
  /-- A worker whose key has entered the queue again makes the call for it. -/
  | callBack (worker : ω)
  | shutDown
  /-- Somebody that has shut the queue down wakes the workers. -/
  | callAll
deriving DecidableEq

/-- One queue is longer than the other. -/
def Grown (before after : WorkQueue) : Prop := before.queue.length < after.queue.length

instance (before after : WorkQueue) : Decidable (Grown before after) :=
  inferInstanceAs (Decidable (_ < _))

namespace Workshop

variable {n : Notifier ω} {s t : Workshop n} {w : ω} {p : Place} {work : WorkQueue}

def put (s : Workshop n) (w : ω) (p : Place) : Workshop n :=
  { s with place := Function.update s.place w p }

/-- Looks into the queue. -/
def look (s : Workshop n) (w : ω) : Workshop n :=
  if s.work.shuttingDown then s.put w .gone
  else match s.work.take? with
    | some (key, work) => { s with work }.put w (.busy key)
    | none => s.put w .emptyHanded

/-- Waits, unless the call has come. -/
def poll (s : Workshop n) (w : ω) : Workshop n :=
  let bell := n.poll s.bell w
  { s with bell }.put w (if n.call? bell w = some Wakeup.delivered then .outside else .parked)

/-- Is done with a key. -/
def done (s : Workshop n) (w : ω) (key : String) : Workshop n :=
  let work := s.work.done key
  { s with work }.put w (if Grown s.work work then .obliged else .outside)

/-- Lets a move happen, if it can. -/
def step? (s : Workshop n) : Move ω → Option (Workshop n)
  | .add key =>
    let work := s.work.add key
    some { s with work, owed := if Grown s.work work then s.owed + 1 else s.owed }
  | .call =>
    if 0 < s.owed then some { s with bell := n.notifyOne s.bell, owed := s.owed - 1 } else none
  | .ask w =>
    if s.place w = .outside then some ({ s with bell := n.ask s.bell w }.put w .listening) else none
  | .look w => if s.place w = .listening then some (s.look w) else none
  | .poll w => if s.place w = .emptyHanded then some (s.poll w) else none
  | .resume w =>
    if s.place w = .parked ∧ n.call? s.bell w = some .delivered then some (s.put w .outside)
    else none
  | .done w =>
    match s.place w with
    | .busy key => some (s.done w key)
    | _ => none
  | .callBack w =>
    if s.place w = .obliged then some ({ s with bell := n.notifyOne s.bell }.put w .outside)
    else none
  | .shutDown => some { s with work := s.work.shutDown, closing := s.closing + 1 }
  | .callAll =>
    if 0 < s.closing then
      some { s with bell := n.notifyAll s.bell, closing := s.closing - 1, closed := true }
    else none

/-- Lets moves happen one after the other. -/
def replay (s : Workshop n) (moves : List (Move ω)) : Option (Workshop n) := moves.foldlM step? s

/-- The worker is going to look into the queue without another call. -/
def Awake (s : Workshop n) (w : ω) : Prop :=
  (s.place w).isUp = true ∨ (s.place w).waits = true ∧ n.call? s.bell w = some .delivered

/-- The worker waits, and its call has not come. -/
def Stuck (s : Workshop n) (w : ω) : Prop :=
  s.place w = .parked ∧ n.call? s.bell w ≠ some .delivered

@[simp] theorem place_put_self (s : Workshop n) (w : ω) (p : Place) : (s.put w p).place w = p :=
  Function.update_self ..

@[simp] theorem place_put_of_ne {other : ω} (h : other ≠ w) :
    (s.put w p).place other = s.place other :=
  Function.update_of_ne h ..

theorem Awake.not_stuck (h : s.Awake w) : ¬ s.Stuck w := by
  rintro ⟨hparked, hnot⟩
  rcases h with hup | ⟨-, hdelivered⟩
  · simp [hparked, Place.isUp] at hup
  · exact hnot hdelivered

/-! ## Somebody is going to look -/

/-- Keys that wait in an open queue are not forgotten, and a shutdown reaches all that wait. -/
structure Sound (s : Workshop n) : Prop where
  attended : s.work.shuttingDown = false → s.work.queue ≠ [] →
    0 < s.owed ∨ n.permit s.bell = true ∨ ∃ w, s.Awake w
  parked : ∀ w, n.call? s.bell w = some .awaited → s.place w = .parked
  asked : ∀ w, (s.place w).hasAsked = true → n.call? s.bell w ≠ none
  closing : 0 < s.closing → s.work.shuttingDown = true
  closed : s.closed = true → s.work.shuttingDown = true ∧
    ∀ w, (s.place w).waits = true → n.call? s.bell w = some .delivered

theorem sound_empty : ({} : Workshop n).Sound where
  attended _ hqueue := absurd rfl hqueue
  parked w hw := by simp [n.call?_start w] at hw
  asked _ hw := by cases hw
  closing h := absurd h (Nat.lt_irrefl 0)
  closed h := by cases h

/-- A worker that was up or waited gets an answer to its call. -/
theorem Sound.answer (hs : s.Sound) {bell : n.State} {call : Wakeup}
    (hcalls : n.call? bell = Function.update (n.call? s.bell) w (some call))
    (hcall : call ≠ .awaited)
    (hw : (s.place w).isUp = true ∨ (s.place w).waits = true ∧ call = .delivered) :
    Sound { s with bell } ∧ Awake { s with bell } w := by
  have hself : n.call? bell w = some call := by rw [hcalls, Function.update_self]
  have hother : ∀ other, other ≠ w → n.call? bell other = n.call? s.bell other := by
    intro other hne
    rw [hcalls, Function.update_of_ne hne]
  have hawake : Awake { s with bell } w := hw.imp_right fun ⟨hwaits, hdelivered⟩ =>
    ⟨hwaits, hself.trans (congrArg some hdelivered)⟩
  refine ⟨⟨fun _ _ => .inr (.inr ⟨w, hawake⟩), ?_, ?_, hs.closing, ?_⟩, hawake⟩
  · intro other hawaited
    by_cases heq : other = w
    · subst heq
      exact absurd (Option.some.inj (hself.symm.trans hawaited)) hcall
    · exact hs.parked other (hother other heq ▸ hawaited)
  · intro other hasked
    by_cases heq : other = w
    · simp [heq, hself]
    · exact hother other heq ▸ hs.asked other hasked
  · intro hclosed
    refine ⟨(hs.closed hclosed).1, fun other hwaits => ?_⟩
    by_cases heq : other = w
    · subst heq
      rcases hw with hup | ⟨-, rfl⟩
      · simp [Place.isUp_eq_false_of_waits hwaits] at hup
      · exact hself
    · exact (hother other heq).trans ((hs.closed hclosed).2 other hwaits)

/-- A worker whose call is not awaited goes where it will look again. -/
theorem Sound.putUp (hs : s.Sound) (hcall : n.call? s.bell w ≠ some .awaited) (hup : p.isUp = true)
    (hasked : p.hasAsked = true → n.call? s.bell w ≠ none)
    (hdown : work.shuttingDown = s.work.shuttingDown) : ({ s with work }.put w p).Sound := by
  have hawake : Awake ({ s with work }.put w p) w := .inl (by rwa [place_put_self])
  refine ⟨fun _ _ => .inr (.inr ⟨w, hawake⟩), ?_, ?_, fun h => hdown.trans (hs.closing h), ?_⟩
  · intro other hawaited
    have hne : other ≠ w := by
      rintro rfl
      exact hcall hawaited
    exact (place_put_of_ne hne).trans (hs.parked other hawaited)
  · intro other hplace
    by_cases heq : other = w
    · subst heq
      exact hasked (by rwa [place_put_self] at hplace)
    · exact hs.asked other (by rwa [place_put_of_ne heq] at hplace)
  · intro hclosed
    refine ⟨hdown.trans (hs.closed hclosed).1, fun other hwaits => ?_⟩
    by_cases heq : other = w
    · subst heq
      rw [place_put_self] at hwaits
      simp [Place.isUp_eq_false_of_waits hwaits] at hup
    · exact (hs.closed hclosed).2 other (by rwa [place_put_of_ne heq] at hwaits)

/-- A worker that does not wait has no call that is awaited. -/
theorem Sound.not_awaited (hs : s.Sound) (hplace : s.place w ≠ .parked) :
    n.call? s.bell w ≠ some .awaited :=
  fun hawaited => hplace (hs.parked w hawaited)

/-- After a call somebody is going to look, or a permit is there. -/
theorem Sound.notify (hs : s.Sound) :
    Sound { s with bell := n.notifyOne s.bell } ∧
      (n.permit (n.notifyOne s.bell) = true ∨
        ∃ w, Awake { s with bell := n.notifyOne s.bell } w) := by
  by_cases hsome : ∃ w, n.call? s.bell w = some .awaited
  · obtain ⟨-, w, hawaited, hcalls⟩ := n.notifyOne_of_awaited s.bell hsome
    have hplace : s.place w = .parked := hs.parked w hawaited
    obtain ⟨hsound, hawake⟩ := hs.answer hcalls (by simp) (.inr ⟨by rw [hplace]; rfl, rfl⟩)
    exact ⟨hsound, .inr ⟨w, hawake⟩⟩
  · obtain ⟨hpermit, hcalls⟩ := n.notifyOne_of_nobody s.bell (not_exists.mp hsome)
    refine ⟨⟨fun _ _ => .inr (.inl hpermit), ?_, ?_, hs.closing, ?_⟩, .inl hpermit⟩
    · exact fun other => hcalls ▸ hs.parked other
    · exact fun other => hcalls ▸ hs.asked other
    · exact fun hclosed => hcalls ▸ hs.closed hclosed

/-! ## The moves one by one -/

/-- A queue that has not grown by what may lengthen it at its end is the same. -/
theorem queue_eq_of_not_grown {before after : WorkQueue} (hbegins : before.queue <+: after.queue)
    (h : ¬ Grown before after) : after.queue = before.queue :=
  (hbegins.eq_of_length_le (Nat.not_lt.mp h)).symm

theorem Sound.add (hs : s.Sound) {owed : Nat} (key : String)
    (howed : owed = if Grown s.work (s.work.add key) then s.owed + 1 else s.owed) :
    Sound { s with work := s.work.add key, owed } := by
  have hdown := shuttingDown_add s.work key
  refine ⟨?_, hs.parked, hs.asked, fun h => hdown.trans (hs.closing h), ?_⟩
  · intro hopen hqueue
    by_cases hgrown : Grown s.work (s.work.add key)
    · rw [if_pos hgrown] at howed
      exact .inl (howed ▸ Nat.succ_pos _)
    · rw [if_neg hgrown] at howed
      have hsame := queue_eq_of_not_grown (prefix_queue_add s.work key) hgrown
      exact howed ▸ hs.attended (hdown ▸ hopen) (hsame ▸ hqueue)
  · exact fun h => ⟨hdown.trans (hs.closed h).1, (hs.closed h).2⟩

/-- A worker leaves the queue for good, or is about to wait because there is nothing. -/
theorem Sound.putDown (hs : s.Sound) (hplace : s.place w = .listening)
    (hp : p = .gone ∧ s.work.shuttingDown = true ∨
      p = .emptyHanded ∧ s.work.shuttingDown = false ∧ s.work.queue = []) :
    (s.put w p).Sound := by
  refine ⟨?_, ?_, ?_, hs.closing, ?_⟩
  · intro hopen hqueue
    rcases hp with ⟨-, hdown⟩ | ⟨-, -, hempty⟩
    · exact absurd (hdown.symm.trans hopen) Bool.noConfusion
    · exact absurd hempty hqueue
  · intro other hawaited
    have hne : other ≠ w := by
      rintro rfl
      exact hs.not_awaited (by simp [hplace]) hawaited
    exact (place_put_of_ne hne).trans (hs.parked other hawaited)
  · intro other hasked
    by_cases heq : other = w
    · exact heq ▸ hs.asked w (by rw [hplace]; rfl)
    · exact hs.asked other (by rwa [place_put_of_ne heq] at hasked)
  · intro hclosed
    refine ⟨(hs.closed hclosed).1, fun other hwaits => ?_⟩
    by_cases heq : other = w
    · subst heq
      rw [place_put_self] at hwaits
      rcases hp with ⟨rfl, -⟩ | ⟨-, hopen, -⟩
      · cases hwaits
      · exact absurd (hopen.symm.trans (hs.closed hclosed).1) Bool.noConfusion
    · exact (hs.closed hclosed).2 other (by rwa [place_put_of_ne heq] at hwaits)

theorem Sound.look (hs : s.Sound) (hplace : s.place w = .listening) : (s.look w).Sound := by
  unfold Workshop.look
  by_cases hdown : s.work.shuttingDown = true
  · rw [if_pos hdown]
    exact hs.putDown hplace (.inl ⟨rfl, hdown⟩)
  · rw [if_neg hdown]
    cases htaken : s.work.take? with
    | none =>
      have hempty : s.work.queue = [] := by
        cases hqueue : s.work.queue with
        | nil => rfl
        | cons key rest => simp [take?, hdown, hqueue] at htaken
      exact hs.putDown hplace (.inr ⟨rfl, by simpa using hdown, hempty⟩)
    | some taken =>
      obtain ⟨key, work⟩ := taken
      obtain ⟨-, rest, -, hwork⟩ := take?_eq_some_iff.mp htaken
      exact hs.putUp (hs.not_awaited (by simp [hplace])) rfl
        (by simp [Place.hasAsked]) (by rw [hwork])

/-- Before it waits a worker has not had its call, or has it by now. -/
theorem Sound.asked_or_delivered (hs : s.Sound) (hplace : s.place w = .emptyHanded) :
    n.call? s.bell w = some .asked ∨ n.call? s.bell w = some .delivered := by
  have hasked : n.call? s.bell w ≠ none := hs.asked w (by rw [hplace]; rfl)
  have hawaited : n.call? s.bell w ≠ some .awaited := hs.not_awaited (by simp [hplace])
  cases hcall : n.call? s.bell w with
  | none => exact absurd hcall hasked
  | some call =>
    cases call with
    | asked => exact .inl rfl
    | awaited => exact absurd hcall hawaited
    | delivered => exact .inr rfl

/-- A worker finds its call when it is about to wait. -/
theorem Sound.poll_of_delivered (hs : s.Sound) (hplace : s.place w = .emptyHanded)
    (hcalls : n.call? (n.poll s.bell w) =
      Function.update (n.call? s.bell) w (some .delivered)) : (s.poll w).Sound := by
  have hself : n.call? (n.poll s.bell w) w = some .delivered := by
    rw [hcalls, Function.update_self]
  obtain ⟨hsound, -⟩ := hs.answer hcalls (by simp) (.inr ⟨by rw [hplace]; rfl, rfl⟩)
  rw [Workshop.poll, if_pos hself]
  exact hsound.putUp (by simp [hself]) rfl nofun rfl

/-- A worker waits: no permit is there, and its call has not come. -/
theorem Sound.poll_of_asked (hs : s.Sound) (hplace : s.place w = .emptyHanded)
    (hasked : n.call? s.bell w = some .asked) (hpermit : n.permit s.bell = false) :
    (s.poll w).Sound := by
  obtain ⟨hnone, hcalls⟩ := n.poll_of_no_permit s.bell w hasked hpermit
  have hself : n.call? (n.poll s.bell w) w = some .awaited := by rw [hcalls, Function.update_self]
  have hcall : ∀ other, other ≠ w → n.call? (n.poll s.bell w) other = n.call? s.bell other := by
    intro other hne
    rw [hcalls, Function.update_of_ne hne]
  rw [Workshop.poll, if_neg (by simp [hself])]
  refine ⟨?_, ?_, ?_, hs.closing, ?_⟩
  · intro hopen hqueue
    -- Who was going to look was not this worker, so it still is.
    rcases hs.attended hopen hqueue with howed | hsome | ⟨other, hawake⟩
    · exact .inl howed
    · exact absurd (hpermit.symm.trans hsome) Bool.noConfusion
    · have hne : other ≠ w := by
        rintro rfl
        rcases hawake with hup | ⟨-, hdelivered⟩
        · simp [hplace, Place.isUp] at hup
        · simp [hasked] at hdelivered
      refine .inr (.inr ⟨other, ?_⟩)
      rw [Awake, place_put_of_ne hne]
      exact hawake.imp_right fun ⟨hwaits, hdelivered⟩ =>
        ⟨hwaits, (hcall other hne).trans hdelivered⟩
  · intro other hawaited
    by_cases heq : other = w
    · exact heq ▸ place_put_self ..
    · exact (place_put_of_ne heq).trans (hs.parked other (hcall other heq ▸ hawaited))
  · intro other hother
    by_cases heq : other = w
    · simp [heq, Workshop.put, hself]
    · rw [place_put_of_ne heq] at hother
      exact hcall other heq ▸ hs.asked other hother
  · intro hclosed
    have hdelivered := (hs.closed hclosed).2 w (by rw [hplace]; rfl)
    exact absurd (hasked.symm.trans hdelivered) (by simp)

theorem Sound.poll (hs : s.Sound) (hplace : s.place w = .emptyHanded) : (s.poll w).Sound := by
  rcases hs.asked_or_delivered hplace with hasked | hdelivered
  · cases hpermit : n.permit s.bell with
    | true => exact hs.poll_of_delivered hplace (n.poll_of_permit s.bell w hasked hpermit).2
    | false => exact hs.poll_of_asked hplace hasked hpermit
  · refine hs.poll_of_delivered hplace ?_
    rw [n.poll_of_delivered s.bell w hdelivered, ← hdelivered, Function.update_eq_self]

theorem Sound.callAll (hs : s.Sound) (hclosing : 0 < s.closing) :
    Sound { s with bell := n.notifyAll s.bell, closing := s.closing - 1, closed := true } := by
  have hdown : s.work.shuttingDown = true := hs.closing hclosing
  refine ⟨?_, ?_, ?_, fun _ => hdown, fun _ => ⟨hdown, ?_⟩⟩
  · intro hopen
    exact absurd (hdown.symm.trans hopen) Bool.noConfusion
  · intro w hawaited
    rw [n.call?_notifyAll] at hawaited
    obtain ⟨_, -, heq⟩ := Option.map_eq_some_iff.mp hawaited
    cases heq
  · intro w hasked
    rw [n.call?_notifyAll]
    simpa using hs.asked w hasked
  · intro w hwaits
    have hasked : n.call? s.bell w ≠ none := by
      refine hs.asked w ?_
      cases hplace : s.place w <;> rw [hplace] at hwaits <;> first | rfl | cases hwaits
    obtain ⟨call, hcall⟩ := Option.ne_none_iff_exists'.mp hasked
    rw [n.call?_notifyAll, hcall]
    rfl

theorem step?_done_eq_some_iff :
    s.step? (.done w) = some t ↔ ∃ key, s.place w = .busy key ∧ t = s.done w key := by
  rw [step?]
  cases s.place w <;> simp [eq_comm]

theorem sound_of_step {m : Move ω} (hs : s.Sound) (h : s.step? m = some t) : t.Sound := by
  cases m with
  | add key =>
    obtain rfl := Option.some.inj h
    exact hs.add key rfl
  | call =>
    obtain ⟨-, h⟩ := Option.ite_none_right_eq_some.mp h
    obtain rfl := Option.some.inj h
    obtain ⟨hsound, hsomebody⟩ := hs.notify
    exact ⟨fun _ _ => .inr hsomebody, hsound.parked, hsound.asked, hsound.closing, hsound.closed⟩
  | ask w =>
    obtain ⟨hplace, h⟩ := Option.ite_none_right_eq_some.mp h
    obtain rfl := Option.some.inj h
    have hcalls := n.call?_ask s.bell w
    have hself : n.call? (n.ask s.bell w) w = some .asked := by rw [hcalls, Function.update_self]
    obtain ⟨hsound, -⟩ := hs.answer hcalls (by simp) (.inl (by rw [hplace]; rfl))
    exact hsound.putUp (by simp [hself]) rfl (fun _ => by simp [hself]) rfl
  | look w =>
    obtain ⟨hplace, h⟩ := Option.ite_none_right_eq_some.mp h
    obtain rfl := Option.some.inj h
    exact hs.look hplace
  | poll w =>
    obtain ⟨hplace, h⟩ := Option.ite_none_right_eq_some.mp h
    obtain rfl := Option.some.inj h
    exact hs.poll hplace
  | resume w =>
    obtain ⟨⟨-, hdelivered⟩, h⟩ := Option.ite_none_right_eq_some.mp h
    obtain rfl := Option.some.inj h
    exact hs.putUp (by simp [hdelivered]) rfl nofun rfl
  | done w =>
    obtain ⟨key, hplace, rfl⟩ := step?_done_eq_some_iff.mp h
    refine hs.putUp (hs.not_awaited (by simp [hplace])) ?_ ?_ (shuttingDown_done s.work key)
    · split <;> rfl
    · split <;> nofun
  | callBack w =>
    obtain ⟨hplace, h⟩ := Option.ite_none_right_eq_some.mp h
    obtain rfl := Option.some.inj h
    exact hs.notify.1.putUp (hs.notify.1.not_awaited (by simp [hplace])) rfl nofun rfl
  | shutDown =>
    obtain rfl := Option.some.inj h
    exact ⟨nofun, hs.parked, hs.asked, fun _ => rfl, fun hc => ⟨rfl, (hs.closed hc).2⟩⟩
  | callAll =>
    obtain ⟨hclosing, h⟩ := Option.ite_none_right_eq_some.mp h
    obtain rfl := Option.some.inj h
    exact hs.callAll hclosing

variable {moves : List (Move ω)}

theorem sound_of_replay (hs : s.Sound) (h : s.replay moves = some t) : t.Sound := by
  induction moves generalizing s with
  | nil =>
    obtain rfl := Option.some.inj h
    exact hs
  | cons m moves ih =>
    rw [replay, List.foldlM_cons] at h
    obtain ⟨next, hstep, hrest⟩ := Option.bind_eq_some_iff.mp h
    exact ih (sound_of_step hs hstep) hrest

/-! ## Nobody is left waiting -/

/-- Somebody has let a key enter the queue and not made the call for it. -/
def Outstanding (s : Workshop n) : Prop := 0 < s.owed ∨ ∃ w, s.place w = .obliged

/-- Nobody is left waiting that has something to do. -/
structure Attended (s : Workshop n) : Prop where
  /-- Before a shutdown keys do not wait for workers that all wait themselves, with no call on its
  way. -/
  not_forgotten : s.work.shuttingDown = false →
    ¬ (s.work.queue ≠ [] ∧ ¬ s.Outstanding ∧ n.permit s.bell = false ∧ ∀ w, s.Stuck w)
  /-- Once a shutdown is over, no worker waits for a call that has not come. -/
  not_left : s.closed = true → ∀ w, ¬ s.Stuck w

/-- **No wake-up is lost**, whatever the notifier, with any number of workers and of others that add
keys, and whatever happens in whatever order. -/
theorem attended_of_replay (h : ({} : Workshop n).replay moves = some s) :
    s.Attended := by
  have hs : s.Sound := sound_of_replay sound_empty h
  constructor
  · rintro hopen ⟨hqueue, hcalled, hpermit, hstuck⟩
    rcases hs.attended hopen hqueue with howed | hsome | ⟨w, hawake⟩
    · exact hcalled (.inl howed)
    · exact absurd (hpermit.symm.trans hsome) Bool.noConfusion
    · exact hawake.not_stuck (hstuck w)
  · rintro hclosed w ⟨hparked, hnot⟩
    exact hnot ((hs.closed hclosed).2 w (by rw [hparked]; rfl))

/-- Two keys are added while a worker is about to wait: their calls come together in one permit. -/
def rush : List (Move Bool) :=
  [.ask true, .look true, .add "roster", .add "other", .call, .call]

/-- Both workers take a key, one key comes back, and a shutdown finds one worker waiting. -/
def closingTime : List (Move Bool) :=
  [.poll true, .ask false, .look false, .ask true, .look true, .add "roster", .done false,
    .callBack false, .ask false, .look false, .done false, .ask false, .look false, .poll false,
    .ask false, .look false, .poll false, .shutDown, .callAll, .resume false]

theorem rush_attended : ∃ s t : Workshop (.firstCome Bool),
    ({} : Workshop (.firstCome Bool)).replay rush = some s ∧
      s.work.queue = ["roster", "other"] ∧ s.work.shuttingDown = false ∧ s.Attended ∧
    ({} : Workshop (.firstCome Bool)).replay (rush ++ closingTime) = some t ∧
      t.place true = .busy "other" ∧ t.closed = true ∧ t.Attended := by
  have hrush : (({} : Workshop (.firstCome Bool)).replay rush).any (fun s =>
      s.work.queue = ["roster", "other"] ∧ s.work.shuttingDown = false) = true := by
    decide +kernel
  have hclosing : (({} : Workshop (.firstCome Bool)).replay (rush ++ closingTime)).any (fun t =>
      t.place true = .busy "other" ∧ t.closed = true) = true := by decide +kernel
  obtain ⟨s, hs, hopen⟩ := (Option.any_eq_true ..).mp hrush
  obtain ⟨t, ht, hclosed⟩ := (Option.any_eq_true ..).mp hclosing
  obtain ⟨hqueue, hdown⟩ := of_decide_eq_true hopen
  obtain ⟨hplace, hover⟩ := of_decide_eq_true hclosed
  exact ⟨s, t, hs, hqueue, hdown, attended_of_replay hs, ht, hplace, hover, attended_of_replay ht⟩

end Workshop

end EtcdRoster.WorkQueue
