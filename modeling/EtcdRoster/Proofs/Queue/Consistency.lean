import EtcdRoster.Queue.Basic
import Mathlib.Data.List.Nodup

/-!
# The collections of a queue in step

A queue keeps three collections: the keys that wait, the dirty ones and those that workers have.
Each key waits at most once, and those wait that are dirty and in nobody's hands. Adding, taking and
being done keep them so (`Consistent.add`, `Consistent.take`, `Consistent.done`), and adding and
being done let the queue grow at its end only (`prefix_queue_add`, `prefix_queue_done`).
-/

namespace EtcdRoster.WorkQueue

/-- Each key waits at most once, and those wait that need work and are in nobody's hands. -/
structure Consistent (q : WorkQueue) : Prop where
  nodup : q.queue.Nodup
  mem_queue_iff : ∀ key, key ∈ q.queue ↔ key ∈ q.dirty ∧ key ∉ q.processing

variable {q : WorkQueue} {key : String}

/-! ## Adding -/

theorem add_of_shuttingDown (h : q.shuttingDown = true) : q.add key = q := by
  simp [add, h]

/-- An added key is already there, or waits for its worker, or enters the queue. -/
theorem add_cases (q : WorkQueue) (key : String) :
    q.add key = q ∨
    (key ∈ q.processing ∧ q.add key = { q with dirty := putIn key q.dirty }) ∨
    (key ∉ q.dirty ∧ key ∉ q.processing ∧
      q.add key = { q with dirty := putIn key q.dirty, queue := q.queue ++ [key] }) := by
  unfold add
  by_cases hskip : (q.shuttingDown || q.dirty.contains key) = true
  · exact .inl (if_pos hskip)
  rw [if_neg hskip]
  have hdirty : key ∉ q.dirty := by
    intro hmem
    exact hskip (by simp [hmem])
  by_cases hprocessing : q.processing.contains key = true
  · exact .inr (.inl ⟨by simpa using hprocessing, if_pos hprocessing⟩)
  · exact .inr (.inr ⟨hdirty, by simpa using hprocessing, if_neg hprocessing⟩)

theorem Consistent.add (h : q.Consistent) (key : String) : (q.add key).Consistent := by
  obtain heq | ⟨hprocessing, heq⟩ | ⟨hdirty, hprocessing, heq⟩ := add_cases q key
  · rwa [heq]
  · rw [heq]
    refine ⟨h.nodup, fun other => ?_⟩
    rw [h.mem_queue_iff other, mem_putIn]
    constructor
    · rintro ⟨hdirty, hfree⟩
      exact ⟨.inr hdirty, hfree⟩
    · rintro ⟨rfl | hdirty, hfree⟩
      · exact absurd hprocessing hfree
      · exact ⟨hdirty, hfree⟩
  · rw [heq]
    have hqueue : key ∉ q.queue := fun hmem => hdirty ((h.mem_queue_iff key).mp hmem).1
    refine ⟨List.concat_eq_append ▸ h.nodup.concat hqueue, fun other => ?_⟩
    rw [List.mem_append, List.mem_singleton, h.mem_queue_iff other, mem_putIn]
    constructor
    · rintro (⟨hdirty, hfree⟩ | rfl)
      · exact ⟨.inr hdirty, hfree⟩
      · exact ⟨.inl rfl, hprocessing⟩
    · rintro ⟨rfl | hdirty, hfree⟩
      · exact .inr rfl
      · exact .inl ⟨hdirty, hfree⟩

theorem prefix_queue_add (q : WorkQueue) (key : String) : q.queue <+: (q.add key).queue := by
  obtain heq | ⟨-, heq⟩ | ⟨-, -, heq⟩ := add_cases q key <;> rewrite [heq]
  · exact List.prefix_refl _
  · exact List.prefix_refl _
  · exact List.prefix_append ..

theorem processing_add (q : WorkQueue) (key : String) :
    (q.add key).processing = q.processing := by
  obtain heq | ⟨-, heq⟩ | ⟨-, -, heq⟩ := add_cases q key <;> rw [heq]

theorem mem_dirty_add {other : String} (h : other ∈ (q.add key).dirty) :
    other = key ∨ other ∈ q.dirty := by
  obtain heq | ⟨-, heq⟩ | ⟨-, -, heq⟩ := add_cases q key <;> rw [heq] at h
  · exact .inr h
  · exact mem_putIn.mp h
  · exact mem_putIn.mp h

/-- In a queue that is open, an added key is dirty. -/
theorem mem_dirty_add_iff {other : String} (isOpen : q.shuttingDown = false) :
    other ∈ (q.add key).dirty ↔ other = key ∨ other ∈ q.dirty := by
  refine ⟨mem_dirty_add, fun h => ?_⟩
  unfold add
  rw [isOpen, Bool.false_or]
  by_cases hdirty : q.dirty.contains key = true
  · rw [if_pos hdirty]
    rcases h with rfl | h
    · simpa using hdirty
    · exact h
  · rw [if_neg hdirty]
    split <;> exact mem_putIn.mpr h

/-! ## Taking -/

theorem take?_of_shuttingDown (h : q.shuttingDown = true) : q.take? = none := by
  simp [take?, h]

theorem take?_eq_some_iff {after : WorkQueue} :
    q.take? = some (key, after) ↔
      q.shuttingDown = false ∧ ∃ rest, q.queue = key :: rest ∧
        after = { q with
          queue := rest
          dirty := takeOut key q.dirty
          processing := putIn key q.processing } := by
  unfold take?
  cases hdown : q.shuttingDown with
  | true => simp
  | false =>
    cases hqueue : q.queue with
    | nil => simp
    | cons first rest =>
      constructor
      · intro h
        obtain ⟨rfl, rfl⟩ := Prod.mk.inj (Option.some.inj h)
        exact ⟨rfl, rest, rfl, rfl⟩
      · rintro ⟨-, rest', hcons, rfl⟩
        obtain ⟨rfl, rfl⟩ := List.cons.inj hcons
        rfl

/-- A key that is handed out was dirty and in nobody's hands. -/
theorem Consistent.dirty_and_free (h : q.Consistent) {after : WorkQueue}
    (taken : q.take? = some (key, after)) : key ∈ q.dirty ∧ key ∉ q.processing := by
  obtain ⟨-, rest, hqueue, -⟩ := take?_eq_some_iff.mp taken
  exact (h.mem_queue_iff key).mp (hqueue ▸ List.mem_cons_self ..)

theorem Consistent.take (h : q.Consistent) {after : WorkQueue}
    (taken : q.take? = some (key, after)) : after.Consistent := by
  obtain ⟨-, rest, hqueue, rfl⟩ := take?_eq_some_iff.mp taken
  have hnodup : (key :: rest).Nodup := hqueue ▸ h.nodup
  obtain ⟨hkey, hrest⟩ := List.nodup_cons.mp hnodup
  refine ⟨hrest, fun other => ?_⟩
  have hmem := h.mem_queue_iff other
  rw [hqueue, List.mem_cons] at hmem
  rw [mem_takeOut, mem_putIn]
  constructor
  · intro hother
    have hne : other ≠ key := fun heq => hkey (heq ▸ hother)
    obtain ⟨hdirty, hfree⟩ := hmem.mp (.inr hother)
    exact ⟨⟨hne, hdirty⟩, fun hout => hout.elim hne hfree⟩
  · rintro ⟨⟨hne, hdirty⟩, hfree⟩
    exact (hmem.mpr ⟨hdirty, fun hout => hfree (.inr hout)⟩).resolve_left hne

/-! ## Being done -/

theorem processing_done (q : WorkQueue) (key : String) :
    (q.done key).processing = takeOut key q.processing := by
  unfold done
  dsimp only
  split <;> rfl

theorem dirty_done (q : WorkQueue) (key : String) : (q.done key).dirty = q.dirty := by
  unfold done
  dsimp only
  split <;> rfl

theorem prefix_queue_done (q : WorkQueue) (key : String) : q.queue <+: (q.done key).queue := by
  unfold done
  dsimp only
  split
  · exact List.prefix_append ..
  · exact List.prefix_refl _

theorem Consistent.done (h : q.Consistent) (held : key ∈ q.processing) :
    (q.done key).Consistent := by
  have hqueue : key ∉ q.queue := fun hmem => ((h.mem_queue_iff key).mp hmem).2 held
  unfold WorkQueue.done
  dsimp only
  by_cases hdirty : q.dirty.contains key = true
  · rw [if_pos hdirty]
    refine ⟨List.concat_eq_append ▸ h.nodup.concat hqueue, fun other => ?_⟩
    rw [List.mem_append, List.mem_singleton, h.mem_queue_iff other, mem_takeOut]
    have hkey : key ∈ q.dirty := by simpa using hdirty
    constructor
    · rintro (⟨hother, hfree⟩ | rfl)
      · exact ⟨hother, fun hout => hfree hout.2⟩
      · exact ⟨hkey, fun hout => hout.1 rfl⟩
    · rintro ⟨hother, hfree⟩
      by_cases heq : other = key
      · exact .inr heq
      · exact .inl ⟨hother, fun hout => hfree ⟨heq, hout⟩⟩
  · rw [if_neg hdirty]
    refine ⟨h.nodup, fun other => ?_⟩
    rw [h.mem_queue_iff other, mem_takeOut]
    constructor
    · rintro ⟨hother, hfree⟩
      exact ⟨hother, fun hout => hfree hout.2⟩
    · rintro ⟨hother, hfree⟩
      have hne : other ≠ key := by
        rintro rfl
        exact hdirty (by simpa using hother)
      exact ⟨hother, fun hout => hfree ⟨hne, hout⟩⟩

/-! ## Shutting down -/

theorem Consistent.shutDown (h : q.Consistent) : q.shutDown.Consistent :=
  ⟨h.nodup, h.mem_queue_iff⟩

theorem shuttingDown_add (q : WorkQueue) (key : String) :
    (q.add key).shuttingDown = q.shuttingDown := by
  obtain heq | ⟨-, heq⟩ | ⟨-, -, heq⟩ := add_cases q key <;> rw [heq]

theorem shuttingDown_done (q : WorkQueue) (key : String) :
    (q.done key).shuttingDown = q.shuttingDown := by
  unfold done
  dsimp only
  split <;> rfl

end EtcdRoster.WorkQueue
