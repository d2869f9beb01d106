/-!
# Splitting texts

Cutting a row of characters at a separator, and taking a fixed beginning or end away.
-/

namespace EtcdRoster.Text

/-- The pieces between the occurrences of a separator; a text without one is a single piece. -/
def splitOn (separator : Char) : List Char → List (List Char)
  | [] => [[]]
  | c :: rest =>
    if c = separator then [] :: splitOn separator rest
    else match splitOn separator rest with
      | [] => [[c]]
      | piece :: pieces => (c :: piece) :: pieces

/-- The text before the first occurrence of a pattern and the text after it. -/
def cut? (pattern : List Char) : List Char → Option (List Char × List Char)
  | [] => if pattern = [] then some ([], []) else none
  | c :: rest =>
    if pattern.isPrefixOf (c :: rest) then some ([], (c :: rest).drop pattern.length)
    else (cut? pattern rest).map fun (before, after) => (c :: before, after)

/-- Takes a beginning away. -/
def dropBeginning? : (beginning text : List Char) → Option (List Char)
  | [], text => some text
  | _ :: _, [] => none
  | b :: beginning, c :: text => if b = c then dropBeginning? beginning text else none

/-- Takes an ending away. -/
def dropEnding? (ending text : List Char) : Option (List Char) :=
  (dropBeginning? ending.reverse text.reverse).map List.reverse

/-- Takes one character away at the end, as often as it stands there. -/
def trimEnd (c : Char) (text : List Char) : List Char :=
  (text.reverse.dropWhile (· == c)).reverse

/-- Takes one character away at both ends, as often as it stands there. -/
def trimBoth (c : Char) (text : List Char) : List Char :=
  trimEnd c (text.dropWhile (· == c))

theorem dropWhile_replicate_append (c : Char) (n : Nat) (text : List Char) :
    (List.replicate n c ++ text).dropWhile (· == c) = text.dropWhile (· == c) := by
  refine List.dropWhile_append_of_pos fun a ha => ?_
  rw [List.eq_of_mem_replicate ha, beq_self_eq_true]

/-- Characters that are taken away make no difference where they are added. -/
theorem trimEnd_append_replicate (c : Char) (text : List Char) (n : Nat) :
    trimEnd c (text ++ List.replicate n c) = trimEnd c text := by
  rw [trimEnd, List.reverse_append, List.reverse_replicate, dropWhile_replicate_append, trimEnd]

/-- A trimmed text does not end in what was trimmed. -/
theorem getLast?_trimBoth (c : Char) (text : List Char) :
    (trimBoth c text).getLast? ≠ some c := by
  intro hlast
  rw [trimBoth, trimEnd, List.getLast?_reverse] at hlast
  have hhead := List.head?_dropWhile_not (· == c) (text.dropWhile (· == c)).reverse
  rw [hlast] at hhead
  simp at hhead

theorem dropWhile_eq_self {c : Char} {text : List Char} (h : text.head? ≠ some c) :
    text.dropWhile (· == c) = text := by
  cases text with
  | nil => rfl
  | cons a rest =>
    have ha : a ≠ c := fun ha => h (congrArg some ha)
    rw [List.dropWhile_cons_of_neg (by simp [ha])]

theorem trimEnd_eq_self {c : Char} {text : List Char} (h : text.getLast? ≠ some c) :
    trimEnd c text = text := by
  rw [trimEnd, dropWhile_eq_self (by rwa [List.head?_reverse]), List.reverse_reverse]

/-- What is taken away in front is a run of the character. -/
theorem exists_replicate_append_dropWhile (c : Char) (text : List Char) :
    ∃ n, text = List.replicate n c ++ text.dropWhile (· == c) := by
  induction text with
  | nil => exact ⟨0, rfl⟩
  | cons a rest ih =>
    by_cases ha : a = c
    · obtain ⟨n, hn⟩ := ih
      refine ⟨n + 1, ?_⟩
      rw [List.dropWhile_cons_of_pos (by simp [ha]), List.replicate_succ, List.cons_append, ← hn, ha]
    · exact ⟨0, by rw [List.dropWhile_cons_of_neg (by simp [ha])]; rfl⟩

theorem exists_trimEnd_append_replicate (c : Char) (text : List Char) :
    ∃ n, text = trimEnd c text ++ List.replicate n c := by
  obtain ⟨n, hn⟩ := exists_replicate_append_dropWhile c text.reverse
  refine ⟨n, ?_⟩
  have hreverse := congrArg List.reverse hn
  rwa [List.reverse_reverse, List.reverse_append, List.reverse_replicate] at hreverse

theorem head?_trimEnd (c : Char) {text : List Char} (h : text.head? ≠ some c) :
    (trimEnd c text).head? ≠ some c := by
  obtain ⟨n, hn⟩ := exists_trimEnd_append_replicate c text
  intro hhead
  rw [hn, List.head?_append, hhead] at h
  exact h rfl

/-- To trim a text is to take the character away at both ends, until it stands at neither. -/
theorem trimBoth_eq_iff {c : Char} {text rest : List Char} :
    trimBoth c text = rest ↔
      (∃ m n, text = List.replicate m c ++ rest ++ List.replicate n c) ∧
        rest.head? ≠ some c ∧ rest.getLast? ≠ some c := by
  constructor
  · rintro rfl
    obtain ⟨m, hm⟩ := exists_replicate_append_dropWhile c text
    obtain ⟨n, hn⟩ := exists_trimEnd_append_replicate c (text.dropWhile (· == c))
    refine ⟨⟨m, n, ?_⟩, head?_trimEnd c ?_, getLast?_trimBoth c text⟩
    · rw [List.append_assoc, trimBoth, ← hn, ← hm]
    · have hhead := List.head?_dropWhile_not (· == c) text
      intro hfirst
      rw [hfirst] at hhead
      simp at hhead
  · rintro ⟨⟨m, n, rfl⟩, hfirst, hlast⟩
    rw [trimBoth, List.append_assoc, dropWhile_replicate_append]
    cases rest with
    | nil =>
      rw [List.nil_append, ← List.append_nil (List.replicate n c), dropWhile_replicate_append]
      rfl
    | cons a rest =>
      rw [dropWhile_eq_self (by simpa using hfirst), trimEnd_append_replicate,
        trimEnd_eq_self hlast]

theorem dropBeginning?_eq_some_iff {beginning text rest : List Char} :
    dropBeginning? beginning text = some rest ↔ text = beginning ++ rest := by
  induction beginning generalizing text with
  | nil => simp [dropBeginning?]
  | cons b beginning ih =>
    cases text with
    | nil => simp [dropBeginning?]
    | cons c text =>
      simp only [dropBeginning?, List.cons_append, List.cons.injEq]
      split
      · rename_i h
        simp [ih, h]
      · rename_i h
        simp [Ne.symm h]

/-- An ending can be taken away exactly from the texts that end in it. -/
theorem dropEnding?_eq_some_iff {ending text rest : List Char} :
    dropEnding? ending text = some rest ↔ text = rest ++ ending := by
  simp only [dropEnding?, Option.map_eq_some_iff, dropBeginning?_eq_some_iff]
  constructor
  · rintro ⟨r, h, rfl⟩
    have := congrArg List.reverse h
    simpa using this
  · rintro rfl
    exact ⟨rest.reverse, by simp, by simp⟩

end EtcdRoster.Text
