import EtcdRoster.Controller.Basic
import EtcdRoster.Proofs.Controller.Moves
import EtcdRoster.Proofs.Queue.Persistence

/-!
# The controller at its queue

Until the controller is told to stop, all that it does at its queue is a course of events of a crew:
its watches add the key, its timers end and its workers move, in the order in which the rounds let
them. So nothing is lost at the queue of the controller either.

* `Staffs` — a crew at the queue of the controller whose workers have what those of the controller
  have.
* `Replays` — from whatever crew staffs one controller, some course of events leads to a crew that
  staffs another. There is a lemma for each kind of move, and from these follow the rounds, the
  passing of time and the steps.
* `loses_nothing`, `waits_or_synced` — what this says of a whole run of the controller.
-/

namespace EtcdRoster.Controller

open DelayedQueue (Crew Event)
open Cluster (Site)

/-- The crew is at the queue of the controller, and its workers have what those of the controller
have. -/
structure Staffs (s : Crew Nat) (c : Controller) : Prop where
  queue_eq : s.queue = c.queue
  /-- A worker that is not there yet has as much as one that is idle. -/
  carries : ∀ i, s.Carries i (c.workers.getD i .idle).key?
  none_waiting : ∀ kinds, c.stage = .waiting kinds → c.workers = []

/-- Some course of events leads from any crew of the one controller to one of the other. -/
def Replays (c d : Controller) : Prop :=
  ∀ s, Staffs s c → ∃ events t, s.replay events = some t ∧ Staffs t d

variable {c d : Controller} {now : Nat} {s : Crew Nat}

theorem Replays.refl (c : Controller) : Replays c c := fun s hs => ⟨[], s, rfl, hs⟩

theorem Replays.trans {e : Controller} (hcd : Replays c d) (hde : Replays d e) : Replays c e := by
  intro s hs
  obtain ⟨first, t, hfirst, ht⟩ := hcd s hs
  obtain ⟨later, u, hlater, hu⟩ := hde t ht
  exact ⟨first ++ later, u, Crew.replay_append_eq_some_iff.mpr ⟨t, hfirst, hlater⟩, hu⟩

/-! ## Single moves -/

/-- What is neither queue nor worker does not matter, nor does a stage that is no start. -/
theorem replays_of_same (hqueue : d.queue = c.queue) (hworkers : d.workers = c.workers)
    (hstage : ∀ kinds, d.stage = .waiting kinds → ∃ kinds, c.stage = .waiting kinds) :
    Replays c d := by
  intro s hs
  refine ⟨[], s, rfl, hs.queue_eq.trans hqueue.symm, fun i => hworkers ▸ hs.carries i, ?_⟩
  intro kinds hd
  obtain ⟨_, hc⟩ := hstage kinds hd
  exact hworkers.trans (hs.none_waiting _ hc)

theorem replays_add (c : Controller) (key : String) :
    Replays c { c with queue := c.queue.add key } := by
  intro s hs
  exact ⟨[.trigger key], { s with queue := s.queue.add key }, rfl, by rw [hs.queue_eq],
    fun i => (hs.carries i).of_step (e := .trigger key) rfl (by simp [Event.worker?]),
    hs.none_waiting⟩

theorem replays_moveWatch {kind : Kind} (h : moveWatch? now c kind = some d) : Replays c d := by
  obtain ⟨⟨w, site, touched⟩, -, hd⟩ := Option.bind_eq_some_iff.mp h
  obtain rfl := Option.some.inj hd
  have hwatched : Replays c ({ c with site }.setWatch kind w) :=
    replays_of_same rfl rfl fun kinds hkinds => ⟨kinds, hkinds⟩
  split
  · exact hwatched.trans (replays_add _ _)
  · exact hwatched

theorem replays_moveTimers (h : c.moveTimers? now = some d) : Replays c d := by
  unfold moveTimers? at h
  split at h <;> cases h
  intro s hs
  have hreplay := s.replay_fire now
  refine ⟨_, _, hreplay, by rw [hs.queue_eq], fun i => ?_, hs.none_waiting⟩
  refine (hs.carries i).of_replay hreplay fun e he => ?_
  obtain ⟨timer, -, rfl⟩ := List.mem_map.mp he
  simp [Event.worker?]

/-- The workers move one after the other. Those before the first one are left where they are. -/
theorem replay_of_moveWorkers (site : Site) {workers : List Worker} {first : Nat}
    (hs : ∀ i, s.Carries (first + i) (workers.getD i .idle).key?) :
    ∃ events t, s.replay events = some t ∧
      t.queue = (moveWorkers now s.queue site workers).2.2.1 ∧
      (∀ i, t.Carries (first + i)
        ((moveWorkers now s.queue site workers).2.1.getD i .idle).key?) ∧
      ∀ name < first, ∀ key?, s.Carries name key? → t.Carries name key? := by
  induction workers generalizing s first site with
  | nil => exact ⟨[], s, rfl, rfl, hs, fun _ _ _ hname => hname⟩
  | cons worker rest ih =>
    have hrest : ∀ {m : Crew Nat}, (∀ name ≠ first, ∀ key?, s.Carries name key? →
        m.Carries name key?) → ∀ i, m.Carries (first + 1 + i) (rest.getD i .idle).key? := by
      intro m hothers i
      refine hothers _ (by omega) _ ?_
      simpa [Nat.add_assoc, Nat.add_comm 1] using hs (i + 1)
    cases hmove : worker.move? now s.queue site with
    | none =>
      obtain ⟨events, t, hreplay, hqueue, hcarries, hbefore⟩ :=
        ih site (hrest fun _ _ _ hname => hname)
      simp only [moveWorkers, hmove]
      refine ⟨events, t, hreplay, hqueue, fun i => ?_, fun name hname => hbefore name (by omega)⟩
      cases i with
      | zero => exact hbefore first (by omega) _ (hs 0)
      | succ i => simpa [Nat.add_assoc, Nat.add_comm 1] using hcarries i
    | some moved =>
      obtain ⟨moved, queue, after⟩ := moved
      obtain ⟨own, m, hown, hname, hmqueue, hm⟩ := Worker.replay_of_move (hs 0) hmove
      have hothers : ∀ name ≠ first, ∀ key?, s.Carries name key? → m.Carries name key? := by
        intro name hne key? hcarried
        refine hcarried.of_replay hown fun e he => ?_
        rw [hname e he]
        simpa using hne.symm
      obtain ⟨later, t, hlater, hqueue, hcarries, hbefore⟩ := ih after (hrest hothers)
      rw [hmqueue] at hqueue hcarries
      simp only [moveWorkers, hmove]
      refine ⟨own ++ later, t, Crew.replay_append_eq_some_iff.mpr ⟨m, hown, hlater⟩, hqueue,
        fun i => ?_, fun name hlt key? hcarried =>
          hbefore name (by omega) key? (hothers name (by omega) key? hcarried)⟩
      cases i with
      | zero => exact hbefore first (by omega) _ hm
      | succ i => simpa [Nat.add_assoc, Nat.add_comm 1] using hcarries i

theorem replays_workRound (h : c.workRound? now = some d) : Replays c d := by
  unfold workRound? at h
  split at h
  rename_i moved workers queue site hmoves
  split at h <;> cases h
  intro s hs
  have hcarries : ∀ i, s.Carries (0 + i) (c.workers.getD i .idle).key? := by
    simpa using hs.carries
  obtain ⟨events, t, hreplay, hqueue, hafter, -⟩ := replay_of_moveWorkers c.site hcarries
  rw [hs.queue_eq, hmoves] at hqueue hafter
  refine ⟨events, t, hreplay, hqueue, by simpa using hafter, fun kinds hkinds => ?_⟩
  rw [hs.none_waiting kinds hkinds] at hmoves
  cases hmoves
  rfl

/-- The workers that start have no key, and neither had anybody before them. -/
theorem replays_moveStage (h : c.moveStage? = some d) : Replays c d := by
  unfold moveStage? at h
  split at h
  · rename_i hstage
    cases h
    intro s hs
    obtain ⟨events, t, hreplay, ht⟩ := replays_add c Names.workKey s hs
    refine ⟨events, t, hreplay, ht.queue_eq, fun i => ?_, nofun⟩
    have hnone : c.workers = [] := hs.none_waiting [] hstage
    have hidle : (List.replicate c.crew Worker.idle).getD i .idle = .idle := by
      rw [List.getD_eq_getElem?_getD, List.getElem?_replicate]
      split <;> rfl
    have hcarries := ht.carries i
    rw [hnone] at hcarries
    rw [hidle]
    exact hcarries
  · rename_i kind rest hstage
    split at h
    · cases h
      exact replays_of_same rfl rfl fun _ _ => ⟨_, hstage⟩
    · split at h <;> cases h
      exact replays_of_same rfl rfl nofun
  · split at h <;> cases h
    exact replays_of_same rfl rfl nofun
  · cases h

/-! ## Rounds -/

theorem replays_foldl {f : Bool × Controller → Kind → Bool × Controller}
    (hf : ∀ state kind, Replays state.2 (f state kind).2) (kinds : List Kind)
    (state : Bool × Controller) : Replays state.2 (kinds.foldl f state).2 := by
  induction kinds generalizing state with
  | nil => exact .refl state.2
  | cons kind rest ih => exact (hf state kind).trans (ih (f state kind))

theorem replays_watchRound (h : c.watchRound? now = some d) : Replays c d := by
  unfold watchRound? at h
  split at h
  rename_i moved after hfold
  split at h <;> cases h
  have hround : Replays c (moved, d).2 := by
    rw [← hfold]
    refine replays_foldl (fun ⟨moved, c⟩ kind => ?_) Kind.all (false, c)
    dsimp only
    split
    · rename_i hmove
      exact replays_moveWatch hmove
    · exact .refl c
  exact hround

theorem replays_round (h : c.round? now = some d) : Replays c d := by
  unfold round? at h
  split at h
  · cases h
  · rcases Option.or_eq_some_iff.mp h with hwatch | ⟨-, h⟩
    · exact replays_watchRound hwatch
    rcases Option.or_eq_some_iff.mp h with htimers | ⟨-, h⟩
    · exact replays_moveTimers htimers
    rcases Option.or_eq_some_iff.mp h with hwork | ⟨-, hstage⟩
    · exact replays_workRound hwork
    · exact replays_moveStage hstage

theorem replays_settleFor (now rounds : Nat) (c : Controller) :
    Replays c (settleFor now rounds c) := by
  induction rounds generalizing c with
  | zero => exact .refl c
  | succ rounds ih =>
    unfold settleFor
    split
    · rename_i d hround
      exact (replays_round hround).trans (ih d)
    · exact .refl c

theorem replays_pass (now target : Nat) (c : Controller) : Replays c (c.pass now target) := by
  fun_induction pass now target c with
  | case1 now c hnone => exact .refl c
  | case2 now c due hdue ih => exact (replays_settleFor _ _ _).trans ih

/-! ## Runs -/

/-- What others do at the controller is nothing to the queue; the controller reacts by moving. -/
theorem replays_step {step : Step} (hstep : step ≠ .shutDown) :
    Replays c (c.step now step).2 := by
  cases step with
  | shutDown => exact absurd rfl hstep
  | advance millis => exact replays_pass _ _ _
  | incident _ | dropStreams | streamError _ _ =>
    refine Replays.trans ?_ (replays_settleFor _ _ _)
    exact replays_of_same rfl rfl fun kinds hkinds => ⟨kinds, hkinds⟩

/-- Does some steps one after the other; gives the time after them. -/
def run (now : Nat) (c : Controller) (steps : List Step) : Nat × Controller :=
  steps.foldl (fun (now, c) step => c.step now step) (now, c)

theorem replays_run {steps : List Step} (hsteps : ∀ step ∈ steps, step ≠ .shutDown) :
    Replays c (c.run now steps).2 := by
  induction steps generalizing now c with
  | nil => exact .refl c
  | cons step rest ih =>
    obtain ⟨hstep, hrest⟩ := List.forall_mem_cons.mp hsteps
    exact (replays_step hstep).trans (ih hrest)

/-- A controller that nobody has started yet. -/
structure Fresh (maximum : Duration) (c : Controller) : Prop where
  queue_eq : c.queue = .ofMaximum maximum
  no_workers : c.workers = []

theorem Fresh.staffs {maximum : Duration} (hc : c.Fresh maximum) :
    Staffs (Crew.start maximum) c where
  queue_eq := hc.queue_eq.symm
  carries i := by
    rw [hc.no_workers]
    exact ⟨rfl, List.not_mem_nil⟩
  none_waiting _ _ := hc.no_workers

/-- **The controller loses nothing.** Whatever happens to a fresh controller until it is told to
stop, its queue is the one that some past of a crew leaves, and of this past nothing is lost but
failures that there is no delay for. -/
theorem loses_nothing {maximum : Duration} {steps : List Step} (hc : c.Fresh maximum)
    (hsteps : ∀ step ∈ steps, step ≠ .shutDown) :
    ∃ past s, (Crew.start maximum).replay past = some s ∧ Staffs s (c.run now steps).2 ∧
      s.NothingLost maximum past := by
  obtain ⟨past, s, hreplay, hs⟩ := replays_run hsteps _ hc.staffs
  exact ⟨past, s, hreplay, hs, (Crew.remembers_of_replay hreplay).nothing_lost⟩

/-- A dirty key waits in the queue, or one of the workers is syncing it. -/
theorem waits_or_synced {maximum : Duration} {steps : List Step} {key : String}
    (hc : c.Fresh maximum) (hsteps : ∀ step ∈ steps, step ≠ .shutDown)
    (hkey : key ∈ (c.run now steps).2.queue.work.dirty) :
    key ∈ (c.run now steps).2.queue.work.queue ∨
      ∃ worker ∈ (c.run now steps).2.workers, worker.key? = some key := by
  obtain ⟨past, s, -, hs, hlost⟩ := loses_nothing hc hsteps
  rw [← hs.queue_eq] at hkey ⊢
  refine (hlost.waits key hkey).imp_right fun ⟨name, hheld, _⟩ => ?_
  have hmem : key ∈ s.keysOf name := Crew.mem_keysOf.mpr hheld
  rw [(hs.carries name).keys, Option.mem_toList, List.getD_eq_getElem?_getD] at hmem
  cases hworker : (c.run now steps).2.workers[name]? with
  | none =>
    rw [hworker] at hmem
    cases hmem
  | some worker =>
    rw [hworker] at hmem
    exact ⟨worker, List.mem_of_getElem? hworker, hmem⟩

end EtcdRoster.Controller
