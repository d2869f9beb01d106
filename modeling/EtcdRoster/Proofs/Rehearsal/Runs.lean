import EtcdRoster.Proofs.Rehearsal.Alone

/-!
# Rows of syncs

Syncs follow one another while the cluster changes around them: each sync of a row has circumstances
of its own, and starts from the world that the one before has left. Reporting the result of a sync
leaves the published object alone (`published_hold_sync`), and what each sync preserves, a row
preserves at every point (`syncs_invariant`). The single syncs of a row, with the worlds in which
they start, are its turns (`exists_of_mem_turns`).
-/

namespace EtcdRoster.Rehearsal.World

open Dialogue (answering)

/-- The worlds after each sync of a row. -/
def syncs (scope : String) : World → List Circumstances → List World
  | _, [] => []
  | w, c :: rest =>
    let after := ((w.under c).hold (Reconcile.sync scope)).2
    after :: syncs scope after rest

variable {w t : World} {scope : String} {r : Except SyncError Unit}

/-- Nobody waits to write after a dialogue if nobody did before. -/
theorem foreign_hold {α : Type} {w : World} (talk : Reconcile.Talk α)
    (alone : w.published.foreign = none) : (w.hold talk).2.published.foreign = none := by
  unfold hold
  induction talk generalizing w with
  | done a => exact alone
  | ask q next ih => exact ih _ (foreign_answer q alone)

/-- Reporting the result of a sync leaves the published object alone, where nobody else waits to
write it. -/
theorem published_hold_sync (alone : w.published.foreign = none) :
    (w.hold (Reconcile.sync scope)).2.published =
      (w.hold (Reconcile.syncEndpoints scope).run).2.published := by
  have hwhole : Dialogue.Holds (answering answer) (Reconcile.sync scope) w
    (w.hold (Reconcile.sync scope)).1 (w.hold (Reconcile.sync scope)).2 := holds_hold_iff.mpr rfl
  rw [Reconcile.sync_eq_conclude] at hwhole ⊢
  obtain ⟨r', m, hsync, hconclude⟩ := Dialogue.holds_bind_iff.mp hwhole
  rw [holds_hold_iff.mp hsync]
  have hm : m.published.foreign = none := by
    have hforeign := foreign_hold (Reconcile.syncEndpoints scope).run alone
    rwa [holds_hold_iff.mp hsync] at hforeign
  refine hconclude.invariant (I := fun w' => w'.published = m.published) ?_
    (Reconcile.asks_conclude r') rfl
  intro q s a n hq hs answered
  have hkeeps := published_answer (w := s) hq (hs ▸ hm)
  rw [show answer q s = (a, n) from answered] at hkeeps
  exact hkeeps.trans hs

/-- A whole sync ends with the store of the published object as the sync of this object left it. -/
theorem synced_of_hold_sync (alone : w.published.foreign = none)
    (h : w.hold (Reconcile.sync scope) = (r, t)) :
    ∃ r' m, Synced w scope r' m ∧ t.published = m.published :=
  ⟨_, _, synced_of_hold alone rfl,
    (congrArg (·.2.published) h).symm.trans (published_hold_sync alone)⟩

/-- What every sync of a row preserves holds after each of them. -/
theorem syncs_invariant {scope : String} {I : World → Prop} {P : Circumstances → Prop}
    (keeps : ∀ w c, P c → I w → I ((w.under c).hold (Reconcile.sync scope)).2) {w : World}
    {row : List Circumstances} (hw : I w) (hrow : ∀ c ∈ row, P c) :
    ∀ after ∈ w.syncs scope row, I after := by
  induction row generalizing w with
  | nil =>
    intro after hafter
    cases hafter
  | cons c rest ih =>
    have hnext := keeps w c (hrow c (List.mem_cons_self ..)) hw
    intro after hafter
    rcases List.mem_cons.mp hafter with rfl | hafter
    · exact hnext
    · exact ih hnext (fun c' hc' => hrow c' (List.mem_cons_of_mem _ hc')) after hafter

/-! ## Turns -/

/-- The worlds before and after each sync of a row; a world before is under the circumstances of its
sync. -/
def turns (scope : String) : World → List Circumstances → List (World × World)
  | _, [] => []
  | w, c :: rest =>
    let after := ((w.under c).hold (Reconcile.sync scope)).2
    (w.under c, after) :: turns scope after rest

/-- In every turn of an undisturbed row, an undisturbed sync is run in circumstances of the row. -/
theorem exists_of_mem_turns {row : List Circumstances} (alone : w.published.foreign = none) :
    ∀ turn ∈ w.turns scope row, turn.1.published.foreign = none ∧ turn.1.circumstances ∈ row ∧
      turn.2 = (turn.1.hold (Reconcile.sync scope)).2 := by
  induction row generalizing w with
  | nil =>
    intro turn hturn
    cases hturn
  | cons c rest ih =>
    intro turn hturn
    rcases List.mem_cons.mp hturn with rfl | hlater
    · exact ⟨alone, List.mem_cons_self .., rfl⟩
    · have hnext := foreign_hold (w := w.under c) (Reconcile.sync scope) alone
      obtain ⟨hforeign, hcircumstances, hafter⟩ := ih hnext turn hlater
      exact ⟨hforeign, List.mem_cons_of_mem _ hcircumstances, hafter⟩

end EtcdRoster.Rehearsal.World
