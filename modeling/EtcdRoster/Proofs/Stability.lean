import EtcdRoster.Data.Sorting
import Mathlib.Data.List.Sort

/-!
# Stable sorting, characterized

A comparison sorts its elements into classes that it does not tell apart (`alike`). Sorting moves
whole classes past each other and changes nothing inside one, so what a sorted list is made of can
be read off the classes of the list before.

* `sort_eq_insertionSort` — the sort is the insertion sort of the library.
* `sort_eq_of_perm` — if the comparison tells all elements apart, their order before does not
  matter.
* `filter_sort` — no class changes its order.
* `eq_of_filter_alike` — a sorted list is known by its classes.
* `sort_eq_sort_iff` — **two lists are sorted to the same list exactly if they have the same
  classes, each in the same order**.
-/

namespace EtcdRoster.Sorting

variable {α : Type} {le : α → α → Bool}

/-- The comparison does not tell two elements apart. -/
def alike (le : α → α → Bool) (a b : α) : Bool := le a b && le b a

/-! ## The library's insertion sort -/

theorem insert_eq_orderedInsert (le : α → α → Bool) (a : α) (l : List α) :
    insert le a l = l.orderedInsert (le · · = true) a := by
  induction l with
  | nil => rfl
  | cons b l ih => rw [insert, List.orderedInsert_cons, ih]

theorem sort_eq_insertionSort (le : α → α → Bool) (l : List α) :
    sort le l = l.insertionSort (le · · = true) := by
  induction l with
  | nil => rfl
  | cons a l ih => rw [sort, List.insertionSort_cons, ih, insert_eq_orderedInsert]

/-- Sorting moves elements and neither adds nor drops one. -/
theorem sort_perm (le : α → α → Bool) (l : List α) : (sort le l).Perm l := by
  rw [sort_eq_insertionSort]
  exact List.perm_insertionSort _ l

/-! ## Inside a class -/

/-- An element goes before the elements of its class. -/
theorem filter_insert {p : α → Bool} (hclass : ∀ a b, p a = true → p b = true → le a b = true)
    (a : α) (l : List α) : (insert le a l).filter p = (a :: l).filter p := by
  induction l with
  | nil => rfl
  | cons b l ih =>
    unfold insert
    by_cases hab : le a b = true
    · rw [if_pos hab]
    · rw [if_neg hab, List.filter_cons, ih, List.filter_cons, List.filter_cons, List.filter_cons]
      -- `b` has come before `a`, so they are not both in the class.
      by_cases ha : p a = true
      · have hb : ¬ p b = true := fun hb => hab (hclass a b ha hb)
        rw [if_neg hb, if_neg hb]
      · rw [if_neg ha, if_neg ha]

/-- Sorting leaves the elements of a class in their order. -/
theorem filter_sort {p : α → Bool} (hclass : ∀ a b, p a = true → p b = true → le a b = true)
    (l : List α) : (sort le l).filter p = l.filter p := by
  induction l with
  | nil => rfl
  | cons a l ih =>
    rw [sort, filter_insert hclass, List.filter_cons, ih, ← List.filter_cons]

/-! ## All classes together -/

section Order

variable (total : ∀ a b, le a b = false → le b a = true)
  (trans : ∀ a b c, le a b = true → le b c = true → le a c = true)

include total trans in
theorem sort_pairwise (l : List α) : (sort le l).Pairwise (le · · = true) := by
  have : Std.Total (le · · = true) :=
    ⟨fun a b => or_iff_not_imp_left.mpr fun hab => total a b (Bool.eq_false_iff.mpr hab)⟩
  have : IsTrans α (le · · = true) := ⟨trans⟩
  rw [sort_eq_insertionSort]
  exact List.pairwise_insertionSort _ l

include total trans in
/-- The order before sorting does not matter if the comparison tells all elements apart. -/
theorem sort_eq_of_perm {l l' : List α}
    (apart : ∀ a ∈ l, ∀ b ∈ l, le a b = true → le b a = true → a = b) (h : l'.Perm l) :
    sort le l' = sort le l := by
  have hl' : (sort le l').Perm l := (sort_perm le l').trans h
  refine List.Perm.eq_of_pairwise (fun a b ha hb => ?_) (sort_pairwise total trans l')
    (sort_pairwise total trans l) (hl'.trans (sort_perm le l).symm)
  exact apart a (hl'.mem_iff.mp ha) b ((sort_perm le l).mem_iff.mp hb)

include total in
theorem le_refl (a : α) : le a a = true := by
  cases haa : le a a with
  | true => rfl
  | false => exact haa.symm.trans (total a a haa)

include total in
theorem alike_refl (a : α) : alike le a a = true := by
  simp [alike, le_refl total a]

include trans in
/-- Elements of one class are in any order. -/
theorem le_of_alike {a b c : α} (hb : alike le a b = true) (hc : alike le a c = true) :
    le b c = true := by
  simp only [alike, Bool.and_eq_true] at hb hc
  exact trans b a c hb.2 hc.1

include total in
/-- A sorted list begins with an element that is in order before the first of any list with the
same classes. -/
theorem le_of_filter_alike {a b : α} {l l' : List α}
    (hsorted : (b :: l').Pairwise (le · · = true))
    (hclasses : ∀ c, (a :: l).filter (alike le c) = (b :: l').filter (alike le c)) :
    le b a = true := by
  have hfirst : a ∈ (b :: l').filter (alike le a) := by
    rw [← hclasses a]
    exact List.mem_filter.mpr ⟨List.mem_cons_self .., alike_refl total a⟩
  rcases List.mem_cons.mp (List.mem_filter.mp hfirst).1 with rfl | hmem
  · exact le_refl total a
  · exact (List.pairwise_cons.mp hsorted).1 a hmem

include total in
/-- A sorted list is known by its classes. -/
theorem eq_of_filter_alike {l l' : List α} (hl : l.Pairwise (le · · = true))
    (hl' : l'.Pairwise (le · · = true))
    (hclasses : ∀ a, l.filter (alike le a) = l'.filter (alike le a)) : l = l' := by
  induction l generalizing l' with
  | nil =>
    cases l' with
    | nil => rfl
    | cons b l' =>
      have hb := hclasses b
      rw [List.filter_cons_of_pos (alike_refl total b)] at hb
      cases hb
  | cons a l ih =>
    cases l' with
    | nil =>
      have ha := hclasses a
      rw [List.filter_cons_of_pos (alike_refl total a)] at ha
      cases ha
    | cons b l' =>
      have hba : le b a = true := le_of_filter_alike total hl' hclasses
      have hab : le a b = true := le_of_filter_alike total hl fun c => (hclasses c).symm
      -- Both lists begin with the first element of one class.
      have hheads := hclasses a
      rw [List.filter_cons_of_pos (alike_refl total a),
        List.filter_cons_of_pos (by simp [alike, hab, hba])] at hheads
      obtain ⟨rfl, -⟩ := List.cons.inj hheads
      have hrest : ∀ c, l.filter (alike le c) = l'.filter (alike le c) := by
        intro c
        have hc := hclasses c
        rw [List.filter_cons, List.filter_cons] at hc
        by_cases hca : alike le c a = true
        · rw [if_pos hca, if_pos hca] at hc
          exact (List.cons.inj hc).2
        · rwa [if_neg hca, if_neg hca] at hc
      rw [ih (List.pairwise_cons.mp hl).2 (List.pairwise_cons.mp hl').2 hrest]

include total trans in
/-- **Two lists are sorted to the same list exactly if they have the same classes**, each in the
same order. -/
theorem sort_eq_sort_iff {l l' : List α} :
    sort le l = sort le l' ↔ ∀ a, l.filter (alike le a) = l'.filter (alike le a) := by
  have hclass : ∀ l a, (sort le l).filter (alike le a) = l.filter (alike le a) := fun l a =>
    filter_sort (fun _ _ => le_of_alike trans) l
  constructor
  · intro h a
    rw [← hclass l a, h, hclass l' a]
  · intro h
    refine eq_of_filter_alike total (sort_pairwise total trans l)
      (sort_pairwise total trans l') fun a => ?_
    rw [hclass, hclass, h a]

end Order

end EtcdRoster.Sorting
