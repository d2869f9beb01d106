/-!
# Entries in key order

A finite map from strings is a list of entries whose keys increase. Strings compare by code point,
which is also the order of their UTF-8 bytes.

Main facts: looking up after `insert`, `erase` or `ofList` reads like a map (`get?_insert`,
`get?_erase`, `get?_ofList`), the results are in order (`sorted_insert`, `sorted_erase`,
`sorted_ofList`), and two lists in order that agree on every lookup are the same list
(`eq_of_get?_eq`).
-/

namespace EtcdRoster.Entries

variable {α : Type}

/-- Keys increase from each entry to every later one. -/
def Sorted (entries : List (String × α)) : Prop :=
  entries.Pairwise fun a b => a.1 < b.1

/-- The value of the first entry with this key. -/
def get? (key : String) : List (String × α) → Option α
  | [] => none
  | entry :: rest => if key = entry.1 then some entry.2 else get? key rest

/-- Puts an entry in its place and replaces one with the same key. -/
def insert (key : String) (value : α) : List (String × α) → List (String × α)
  | [] => [(key, value)]
  | entry :: rest =>
    if key < entry.1 then (key, value) :: entry :: rest
    else if key = entry.1 then (key, value) :: rest
    else entry :: insert key value rest

/-- Drops every entry with this key. -/
def erase (key : String) (entries : List (String × α)) : List (String × α) :=
  entries.filter fun entry => entry.1 != key

/-- Puts entries in key order; the first entry of a key counts. -/
def ofList : List (String × α) → List (String × α)
  | [] => []
  | entry :: rest => insert entry.1 entry.2 (ofList rest)

/-! ## Order -/

theorem lt_of_not_lt_of_ne {a b : String} (h : ¬a < b) (hne : a ≠ b) : b < a :=
  Std.lt_of_le_of_ne (String.not_lt.mp h) (Ne.symm hne)

theorem mem_insert {key : String} {value : α} {entries : List (String × α)} {e : String × α}
    (h : e ∈ insert key value entries) : e = (key, value) ∨ e ∈ entries := by
  induction entries with
  | nil => simpa [insert] using h
  | cons entry rest ih =>
    unfold insert at h
    split at h
    · simpa using h
    · split at h
      · rcases List.mem_cons.mp h with h | h
        · exact Or.inl h
        · exact Or.inr (List.mem_cons_of_mem _ h)
      · rcases List.mem_cons.mp h with h | h
        · exact Or.inr (by simp [h])
        · exact (ih h).imp id (List.mem_cons_of_mem _)

theorem sorted_insert {key : String} {value : α} {entries : List (String × α)}
    (h : Sorted entries) : Sorted (insert key value entries) := by
  induction entries with
  | nil => simp [insert, Sorted]
  | cons entry rest ih =>
    have hall : ∀ e ∈ rest, entry.1 < e.1 := (List.pairwise_cons.mp h).1
    have hrest : Sorted rest := (List.pairwise_cons.mp h).2
    unfold insert
    split
    · rename_i hlt
      refine List.pairwise_cons.mpr ⟨fun e he => ?_, h⟩
      rcases List.mem_cons.mp he with rfl | he
      · exact hlt
      · exact String.lt_trans hlt (hall e he)
    · split
      · rename_i heq
        exact List.pairwise_cons.mpr ⟨fun e he => by simpa [heq] using hall e he, hrest⟩
      · rename_i hlt hne
        refine List.pairwise_cons.mpr ⟨fun e he => ?_, ih hrest⟩
        rcases mem_insert he with rfl | he
        · exact lt_of_not_lt_of_ne hlt hne
        · exact hall e he

theorem sorted_erase {key : String} {entries : List (String × α)} (h : Sorted entries) :
    Sorted (erase key entries) :=
  List.Pairwise.filter _ h

theorem sorted_ofList (entries : List (String × α)) : Sorted (ofList entries) := by
  induction entries with
  | nil => exact List.Pairwise.nil
  | cons entry rest ih => exact sorted_insert ih

theorem mem_ofList {entries : List (String × α)} {e : String × α} (h : e ∈ ofList entries) :
    e ∈ entries := by
  induction entries with
  | nil => exact h
  | cons entry rest ih =>
    rcases mem_insert h with rfl | h
    · exact List.mem_cons_self ..
    · exact List.mem_cons_of_mem _ (ih h)

/-! ## Lookup -/

@[simp] theorem get?_nil (key : String) : get? key ([] : List (String × α)) = none := rfl

theorem get?_cons (key : String) (entry : String × α) (rest : List (String × α)) :
    get? key (entry :: rest) = if key = entry.1 then some entry.2 else get? key rest := rfl

theorem get?_insert (key other : String) (value : α) (entries : List (String × α)) :
    get? other (insert key value entries) =
      if other = key then some value else get? other entries := by
  induction entries with
  | nil => simp [insert, get?]
  | cons entry rest ih =>
    unfold insert
    split
    · simp [get?_cons]
    · split
      · rename_i heq
        subst heq
        simp only [get?_cons]
        split <;> rfl
      · rename_i hne
        simp only [get?_cons, ih]
        by_cases ho : other = key
        · have : ¬key = entry.1 := hne
          simp [ho, this]
        · simp [ho]

theorem get?_erase (key other : String) (entries : List (String × α)) :
    get? other (erase key entries) = if other = key then none else get? other entries := by
  induction entries with
  | nil => simp [erase]
  | cons entry rest ih =>
    unfold erase at ih ⊢
    by_cases he : entry.1 = key
    · rw [List.filter_cons_of_neg (by simp [he]), ih, get?_cons]
      by_cases ho : other = key <;> simp [ho, he]
    · rw [List.filter_cons_of_pos (by simp [he]), get?_cons, ih, get?_cons]
      by_cases ho : other = key
      · simp [ho, Ne.symm he]
      · simp [ho]

/-- Putting entries in order changes no lookup. -/
theorem get?_ofList (key : String) (entries : List (String × α)) :
    get? key (ofList entries) = get? key entries := by
  induction entries with
  | nil => rfl
  | cons entry rest ih => rw [ofList, get?_insert, ih, get?_cons]

theorem get?_append (key : String) (a b : List (String × α)) :
    get? key (a ++ b) = (get? key a).or (get? key b) := by
  induction a with
  | nil => rfl
  | cons entry rest ih =>
    rw [List.cons_append, get?_cons, get?_cons, ih]
    split <;> simp

theorem mem_of_get? {key : String} {value : α} {entries : List (String × α)}
    (h : get? key entries = some value) : (key, value) ∈ entries := by
  induction entries with
  | nil => cases h
  | cons entry rest ih =>
    rw [get?_cons] at h
    split at h
    · rename_i hkey
      cases h
      exact hkey ▸ List.mem_cons_self ..
    · exact List.mem_cons_of_mem _ (ih h)

/-- Where keys increase, every entry is the first of its key. -/
theorem get?_of_mem {entries : List (String × α)} (h : Sorted entries) {e : String × α}
    (he : e ∈ entries) : get? e.1 entries = some e.2 := by
  induction entries with
  | nil => cases he
  | cons entry rest ih =>
    obtain ⟨hall, hrest⟩ := List.pairwise_cons.mp h
    rw [get?_cons]
    rcases List.mem_cons.mp he with rfl | hmem
    · rw [if_pos rfl]
    · have hne : e.1 ≠ entry.1 := by
        intro hkey
        exact String.lt_irrefl _ (hkey ▸ hall e hmem)
      rw [if_neg hne, ih hrest hmem]

theorem eq_nil_of_get?_eq_none {entries : List (String × α)} (h : ∀ key, get? key entries = none) :
    entries = [] := by
  cases entries with
  | nil => rfl
  | cons entry rest => simpa [get?_cons] using h entry.1

theorem ofList_eq_nil_iff {entries : List (String × α)} : ofList entries = [] ↔ entries = [] := by
  constructor
  · intro h
    refine eq_nil_of_get?_eq_none fun key => ?_
    rw [← get?_ofList, h, get?_nil]
  · rintro rfl
    rfl

theorem get?_eq_none_of_lt {key : String} {entries : List (String × α)}
    (h : ∀ e ∈ entries, key < e.1) : get? key entries = none := by
  induction entries with
  | nil => rfl
  | cons entry rest ih =>
    have hlt : key < entry.1 := h entry (by simp)
    have hne : key ≠ entry.1 := fun heq => String.lt_irrefl key (heq.symm ▸ hlt)
    rw [get?_cons, if_neg hne]
    exact ih fun e he => h e (List.mem_cons_of_mem _ he)

/-- Lists of entries in order are determined by their lookups. -/
theorem eq_of_get?_eq {a b : List (String × α)} (ha : Sorted a) (hb : Sorted b)
    (h : ∀ key, get? key a = get? key b) : a = b := by
  induction a generalizing b with
  | nil =>
    cases b with
    | nil => rfl
    | cons e b => simpa [get?_cons] using h e.1
  | cons x a ih =>
    have hxa := (List.pairwise_cons.mp ha).1
    cases b with
    | nil => simpa [get?_cons] using h x.1
    | cons y b =>
      have hyb := (List.pairwise_cons.mp hb).1
      have hkey : x.1 = y.1 := by
        by_cases hlt : x.1 < y.1
        · have hnone : get? x.1 (y :: b) = none := get?_eq_none_of_lt fun e he => by
            rcases List.mem_cons.mp he with rfl | he
            · exact hlt
            · exact String.lt_trans hlt (hyb e he)
          simpa [get?_cons, hnone] using h x.1
        · by_cases heq : x.1 = y.1
          · exact heq
          · have hgt := lt_of_not_lt_of_ne hlt heq
            have hnone : get? y.1 (x :: a) = none := get?_eq_none_of_lt fun e he => by
              rcases List.mem_cons.mp he with rfl | he
              · exact hgt
              · exact String.lt_trans hgt (hxa e he)
            simpa [get?_cons, hnone] using (h y.1).symm
      have hval : x.2 = y.2 := by simpa [get?_cons, hkey] using h x.1
      have hxy : x = y := Prod.ext hkey hval
      subst hxy
      congr 1
      refine ih (List.pairwise_cons.mp ha).2 (List.pairwise_cons.mp hb).2 fun key => ?_
      by_cases hk : key = x.1
      · rw [hk, get?_eq_none_of_lt hxa, get?_eq_none_of_lt hyb]
      · simpa [get?_cons, hk] using h key

end EtcdRoster.Entries
