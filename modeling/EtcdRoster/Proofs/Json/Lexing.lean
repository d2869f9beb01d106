import EtcdRoster.Json.Parser
import EtcdRoster.Json.Printer
import Mathlib.Data.List.Forall2
import Mathlib.Tactic.IntervalCases

/-!
# The tokens of a printed document

The lexer goes over the compact text of a document and finds the tokens that the document was
printed from (`lexes_print`). A word is only known to have ended when the next character comes, so a
lexer that stands in a word counts as being behind it (`Lexer.Stands`).
-/

namespace EtcdRoster.Json

/-! ## Tokens of documents -/

mutual

/-- The tokens that a document is made of. -/
def tokens : Json → List Token
  | .null => [.null]
  | .bool b => [.bool b]
  | .int n => [.int n]
  | .real r => [.real r]
  | .str s => [.str s]
  | .arr items => .openArr :: ([Token.comma].intercalate (tokensOfItems items) ++ [.closeArr])
  | .obj members =>
    .openObj :: ([Token.comma].intercalate (tokensOfMembers members) ++ [.closeObj])

def tokensOfItems : List Json → List (List Token)
  | [] => []
  | item :: rest => tokens item :: tokensOfItems rest

def tokensOfMembers : List (String × Json) → List (List Token)
  | [] => []
  | (key, value) :: rest => (.str key :: .colon :: tokens value) :: tokensOfMembers rest

end

/-! ## Where the lexer stands -/

namespace Lexer

/-- The lexer is behind these tokens, the last one first: it goes on so at a mark and at the end. -/
structure Stands (lexer : Lexer) (tokens : List Token) : Prop where
  step : ∀ {c token}, punctuation? c = some token →
    lexer.step c = some ⟨.between, token :: tokens⟩
  finish : lexer.finish = some tokens.reverse

theorem begin_of_punctuation {c : Char} {token : Token} (h : punctuation? c = some token)
    (tokens : List Token) : begin tokens c = ⟨.between, token :: tokens⟩ := by
  unfold punctuation? at h
  split at h <;> cases h <;> rfl

theorem stands_between (tokens : List Token) : Stands ⟨.between, tokens⟩ tokens where
  step h := congrArg some (begin_of_punctuation h tokens)
  finish := rfl

theorem stands_word (chars : List Char) {token : Token} (h : wordToken? chars.reverse = some token)
    (tokens : List Token) : Stands ⟨.word chars, tokens⟩ (token :: tokens) where
  step hc := by
    simp [Lexer.step, hc, h, begin_of_punctuation hc]
  finish := by simp [Lexer.finish, h]

end Lexer

/-- The lexer finds these tokens in these characters, wherever they stand. -/
def Lexes (chars : List Char) (tokens : List Token) : Prop :=
  ∀ before, ∃ lexer, chars.foldlM Lexer.step ⟨.between, before⟩ = some lexer ∧
    lexer.Stands (tokens.reverse ++ before)

theorem lexes_nil : Lexes [] [] := fun before => ⟨_, rfl, Lexer.stands_between before⟩

/-- A mark ends what stands before it. -/
theorem Lexes.append {a b : List Char} {ta tb : List Token} {c : Char} {token : Token}
    (ha : Lexes a ta) (hc : Lexer.punctuation? c = some token) (hb : Lexes b tb) :
    Lexes (a ++ c :: b) (ta ++ token :: tb) := by
  intro before
  obtain ⟨lexer, hlexer, hstands⟩ := ha before
  obtain ⟨last, hlast, hends⟩ := hb (token :: (ta.reverse ++ before))
  refine ⟨last, ?_, by simpa using hends⟩
  rw [List.foldlM_append, hlexer, Option.bind_eq_bind, Option.bind_some, List.foldlM_cons,
    hstands.step hc]
  exact hlast

theorem Lexes.enclosed {chars : List Char} {tokens : List Token} {first last : Char}
    {opening closing : Token} (h : Lexes chars tokens)
    (hfirst : Lexer.punctuation? first = some opening)
    (hlast : Lexer.punctuation? last = some closing) :
    Lexes (first :: (chars ++ [last])) (opening :: (tokens ++ [closing])) :=
  lexes_nil.append hfirst (h.append hlast lexes_nil)

theorem lexes_intercalate {pieces : List (List Char)} {tokens : List (List Token)}
    (h : List.Forall₂ Lexes pieces tokens) :
    Lexes ([','].intercalate pieces) ([Token.comma].intercalate tokens) := by
  induction h with
  | nil => exact lexes_nil
  | cons hfirst hrest ih =>
    cases hrest with
    | nil => simpa using hfirst
    | cons hsecond hrest =>
      rw [List.intercalate_cons_cons, List.intercalate_cons_cons, List.append_assoc,
        List.append_assoc]
      exact hfirst.append rfl ih

/-! ## Words -/

/-- Whether a word may go on with this character. -/
def isWordChar (c : Char) : Bool :=
  !(Lexer.isSpace c || c = '"' || (Lexer.punctuation? c).isSome)

theorem step_word {c : Char} (h : isWordChar c = true) (before : List Char) (tokens : List Token) :
    Lexer.step ⟨.word before, tokens⟩ c = some ⟨.word (c :: before), tokens⟩ :=
  if_neg (by simpa [isWordChar] using h)

theorem step_between {c : Char} (h : isWordChar c = true) (tokens : List Token) :
    Lexer.step ⟨.between, tokens⟩ c = some ⟨.word [c], tokens⟩ := by
  simp only [isWordChar, Bool.not_eq_true', Bool.or_eq_false_iff, decide_eq_false_iff_not,
    Option.isSome_eq_false_iff, Option.isNone_iff_eq_none] at h
  simp [Lexer.step, Lexer.begin, h]

theorem foldlM_word {chars : List Char} (h : ∀ c ∈ chars, isWordChar c = true) (before : List Char)
    (tokens : List Token) :
    chars.foldlM Lexer.step ⟨.word before, tokens⟩ =
      some ⟨.word (chars.reverse ++ before), tokens⟩ := by
  induction chars generalizing before with
  | nil => rfl
  | cons c rest ih =>
    obtain ⟨hc, hrest⟩ := List.forall_mem_cons.mp h
    rw [List.foldlM_cons, step_word hc]
    simpa using ih hrest (c :: before)

theorem lexes_word {word : List Char} {token : Token} (h : wordToken? word = some token)
    (hchars : ∀ c ∈ word, isWordChar c = true) : Lexes word [token] := by
  intro before
  cases word with
  | nil => cases h
  | cons c rest =>
    obtain ⟨hc, hrest⟩ := List.forall_mem_cons.mp hchars
    refine ⟨_, ?_, Lexer.stands_word (rest.reverse ++ [c]) (by simpa using h) before⟩
    rw [List.foldlM_cons, step_between hc]
    exact foldlM_word hrest [c] before

/-! ## Numbers -/

theorem isWordChar_of_isDigit {c : Char} (h : c.isDigit = true) : isWordChar c = true := by
  have hne : ∀ d : Char, d.isDigit = false → c ≠ d := by
    rintro d hd rfl
    exact absurd h (by simp [hd])
  have hmark : Lexer.punctuation? c = none := by
    unfold Lexer.punctuation?
    split
    case h_7 => rfl
    all_goals exact absurd rfl (hne _ rfl)
  simp [isWordChar, Lexer.isSpace, hmark, hne]

/-- The digits of a number begin with no zero. -/
theorem head?_toDigits {n : ℕ} (h : 0 < n) : (Nat.toDigits 10 n).head? ≠ some '0' := by
  induction n using Nat.strongRecOn with
  | ind n ih =>
    rw [Nat.toDigits_eq_if (by decide)]
    split
    · interval_cases n <;> decide
    · rw [List.head?_append_of_ne_nil _ Nat.toDigits_ne_nil]
      exact ih (n / 10) (by omega) (by omega)

theorem natOfDigits_toDigits (n : ℕ) : natOfDigits (Nat.toDigits 10 n) = n := by
  rw [natOfDigits, ← Nat.ofDigitChars_eq_foldl, Nat.ofDigitChars_ten_toDigits]

/-- Digits without a needless zero in front are a whole number. -/
theorem numberOf?_of_digits {digits : List Char} (hdigits : ∀ c ∈ digits, c.isDigit = true)
    (hne : digits ≠ []) (hzero : 1 < digits.length → digits.head? ≠ some '0') :
    numberOf? digits = some (wholeToken false (natOfDigits digits)) ∧
    numberOf? ('-' :: digits) = some (wholeToken true (natOfDigits digits)) := by
  have htake : digits.takeWhile Char.isDigit = digits := by
    rw [← List.append_nil digits, List.takeWhile_append_of_pos hdigits, List.takeWhile_nil]
  have hdrop : digits.dropWhile Char.isDigit = [] := by
    rw [← List.append_nil digits, List.dropWhile_append_of_pos hdigits, List.dropWhile_nil]
  have hplain : ∀ rest, digits ≠ '-' :: rest := by
    rintro rest rfl
    cases hdigits '-' (List.mem_cons_self ..)
  have hform :
      ¬ (digits.isEmpty || (decide (digits.length > 1) && digits.head? == some '0')) = true := by
    simpa [hne] using hzero
  constructor
  · rw [numberOf?]
    · simp only [htake, hdrop, if_neg hform]
    · exact hplain
  · simp only [numberOf?, htake, hdrop, if_neg hform]

theorem numberOf?_toDigits (n : ℕ) :
    numberOf? (Nat.toDigits 10 n) = some (wholeToken false n) ∧
    numberOf? ('-' :: Nat.toDigits 10 n) = some (wholeToken true n) := by
  have hzero : 1 < (Nat.toDigits 10 n).length → (Nat.toDigits 10 n).head? ≠ some '0' := by
    intro hlength
    refine head?_toDigits (Nat.pos_of_ne_zero ?_)
    rintro rfl
    exact absurd hlength (by decide)
  have h := numberOf?_of_digits (fun c hc => Nat.isDigit_of_mem_toDigits (by decide) (by decide) hc)
    Nat.toDigits_ne_nil hzero
  rwa [natOfDigits_toDigits] at h

theorem wordToken?_eq_numberOf? {c : Char} (h : c = '-' ∨ c.isDigit = true) (rest : List Char) :
    wordToken? (c :: rest) = numberOf? (c :: rest) := by
  have hne : ∀ d : Char, d ≠ '-' → d.isDigit = false → c ≠ d := by
    rintro d hminus hd rfl
    exact h.elim hminus (by simp [hd])
  have hnull : c :: rest ≠ "null".toList := by simp [hne]
  have htrue : c :: rest ≠ "true".toList := by simp [hne]
  have hfalse : c :: rest ≠ "false".toList := by simp [hne]
  rw [wordToken?, if_neg hnull, if_neg htrue, if_neg hfalse]

theorem wordToken?_toDigits (n : ℕ) :
    wordToken? (Nat.toDigits 10 n) = some (wholeToken false n) ∧
    wordToken? ('-' :: Nat.toDigits 10 n) = some (wholeToken true n) := by
  obtain ⟨hplain, hminus⟩ := numberOf?_toDigits n
  refine ⟨?_, (wordToken?_eq_numberOf? (.inl rfl) _).trans hminus⟩
  obtain ⟨c, rest, hdigits⟩ := List.exists_cons_of_ne_nil (Nat.toDigits_ne_nil (b := 10) (n := n))
  have hc : c.isDigit = true := Nat.isDigit_of_mem_toDigits (b := 10) (n := n) (by decide)
    (by decide) (by simp [hdigits])
  rw [hdigits] at hplain ⊢
  exact (wordToken?_eq_numberOf? (.inr hc) rest).trans hplain

theorem isWordChar_of_mem_toDigits {n : ℕ} : ∀ c ∈ Nat.toDigits 10 n, isWordChar c = true :=
  fun _ hc => isWordChar_of_isDigit (Nat.isDigit_of_mem_toDigits (by decide) (by decide) hc)

/-- A whole number of 64 bits is an integer token. -/
theorem lexes_int {n : ℤ} (hlow : -(2 ^ 63) ≤ n) (hhigh : n < 2 ^ 64) :
    Lexes (Int.repr n).toList [.int n] := by
  have hsize : UInt64.size = 2 ^ 64 := rfl
  rw [Int.repr_eq_if]
  split
  · rename_i hnonneg
    rw [Nat.repr_eq_ofList_toDigits, String.toList_ofList]
    refine lexes_word ((wordToken?_toDigits n.toNat).1.trans ?_) isWordChar_of_mem_toDigits
    rw [wholeToken, if_neg (by decide), if_neg (by omega), Int.toNat_of_nonneg hnonneg]
  · rename_i hneg
    have hchars : ("-" ++ Nat.repr (-n).toNat).toList = '-' :: Nat.toDigits 10 (-n).toNat := by
      simp [Nat.repr_eq_ofList_toDigits]
    have hfits : ¬ ((-n).toNat = 0 || (-n).toNat > UInt64.size / 2) = true := by
      simp
      omega
    rw [hchars]
    refine lexes_word ((wordToken?_toDigits (-n).toNat).2.trans ?_)
      (List.forall_mem_cons.mpr ⟨rfl, isWordChar_of_mem_toDigits⟩)
    simp only [wholeToken, if_true, if_neg hfits]
    simp
    omega

/-! ## Texts -/

/-- A control character is written by the four digits of its code. -/
theorem foldlM_code {n : ℕ} (h : n < 0x20) (before : List Char) (tokens : List Token) :
    ['0', '0', hexDigit (n / 16), hexDigit (n % 16)].foldlM Lexer.step
        ⟨.code before none 0 0, tokens⟩ = some ⟨.text (Char.ofNat n :: before), tokens⟩ := by
  interval_cases n <;> rfl

/-- However a character is written inside a text, it is read as this character. -/
theorem foldlM_escape (c : Char) (before : List Char) (tokens : List Token) :
    (escape c).foldlM Lexer.step ⟨.text before, tokens⟩ = some ⟨.text (c :: before), tokens⟩ := by
  unfold escape
  split_ifs with hquote hslash hb ht hn hf hr hcontrol
  · subst hquote; rfl
  · subst hslash; rfl
  · subst hb; rfl
  · subst ht; rfl
  · subst hn; rfl
  · subst hf; rfl
  · subst hr; rfl
  · have h := foldlM_code hcontrol before tokens
    rw [Char.ofNat_toNat] at h
    exact h
  · simp [Lexer.step, hquote, hslash, hcontrol]

theorem lexes_quote (s : String) : Lexes (quote s).toList [.str s] := by
  have htext : ∀ (chars before : List Char) (tokens : List Token),
      (chars.flatMap escape).foldlM Lexer.step ⟨.text before, tokens⟩ =
        some ⟨.text (chars.reverse ++ before), tokens⟩ := by
    intro chars before tokens
    induction chars generalizing before with
    | nil => rfl
    | cons c rest ih =>
      rw [List.flatMap_cons, List.foldlM_append, foldlM_escape]
      simpa using ih (c :: before)
  intro before
  refine ⟨_, ?_, Lexer.stands_between (.str s :: before)⟩
  have hchars : (quote s).toList = '"' :: (s.toList.flatMap escape ++ ['"']) := by
    simp [quote]
  have hopen : Lexer.step ⟨.between, before⟩ '"' = some ⟨.text [], before⟩ := rfl
  rw [hchars, List.foldlM_cons, hopen]
  simp [htext, Lexer.step]

/-! ## Documents -/

/-- A document whose whole numbers have 64 bits and whose other numbers are written as they are
read, whose objects list their members in order, and which nests at most so deep. -/
inductive Plain : ℕ → Json → Prop
  | null {depth : ℕ} : Plain depth .null
  | bool {depth : ℕ} (b : Bool) : Plain depth (.bool b)
  | int {depth : ℕ} {n : ℤ} (low : -(2 ^ 63) ≤ n) (high : n < 2 ^ 64) : Plain depth (.int n)
  | real {depth : ℕ} {r : Decimal} (returns : Lexes (print (.real r)).toList [.real r]) :
    Plain depth (.real r)
  | str {depth : ℕ} (s : String) : Plain depth (.str s)
  | arr {depth : ℕ} {items : List Json} (inside : ∀ item ∈ items, Plain depth item) :
    Plain (depth + 1) (.arr items)
  | obj {depth : ℕ} {members : List (String × Json)} (sorted : Entries.Sorted members)
    (inside : ∀ e ∈ members, Plain depth e.2) : Plain (depth + 1) (.obj members)

theorem toList_print_arr (items : List Json) :
    (print (.arr items)).toList =
      '[' :: ([','].intercalate (items.map fun item => item.print.toList) ++ [']']) := by
  have hitems : ∀ items : List Json, printItems items = items.map print := by
    intro items
    induction items with
    | nil => rfl
    | cons item rest ih => rw [printItems, ih, List.map_cons]
  simp [print, hitems, String.toList_intercalate, Function.comp_def]

theorem toList_print_obj (members : List (String × Json)) :
    (print (.obj members)).toList =
      '{' :: ([','].intercalate
        (members.map fun e => (quote e.1).toList ++ ':' :: e.2.print.toList) ++ ['}']) := by
  have hmembers : ∀ members : List (String × Json),
      printMembers members = members.map fun e => quote e.1 ++ ":" ++ e.2.print := by
    intro members
    induction members with
    | nil => rfl
    | cons e rest ih => rw [printMembers, ih, List.map_cons]
  simp [print, hmembers, String.toList_intercalate, Function.comp_def]

theorem tokensOfItems_eq (items : List Json) : tokensOfItems items = items.map tokens := by
  induction items with
  | nil => rfl
  | cons item rest ih => rw [tokensOfItems, ih, List.map_cons]

theorem tokensOfMembers_eq (members : List (String × Json)) :
    tokensOfMembers members = members.map fun e => .str e.1 :: .colon :: tokens e.2 := by
  induction members with
  | nil => rfl
  | cons e rest ih => rw [tokensOfMembers, ih, List.map_cons]

/-- The lexer finds the tokens of a document in its compact text. -/
theorem lexes_print {depth : ℕ} {j : Json} (h : Plain depth j) :
    Lexes j.print.toList (tokens j) := by
  induction h with
  | null => exact lexes_word rfl (List.all_eq_true.mp rfl)
  | bool b => cases b <;> exact lexes_word rfl (List.all_eq_true.mp rfl)
  | int low high => exact lexes_int low high
  | real returns => exact returns
  | str s => exact lexes_quote s
  | arr inside ih =>
    rw [toList_print_arr, tokens, tokensOfItems_eq]
    refine (lexes_intercalate ?_).enclosed rfl rfl
    rw [List.forall₂_map_left_iff, List.forall₂_map_right_iff, List.forall₂_same]
    exact ih
  | obj sorted inside ih =>
    rw [toList_print_obj, tokens, tokensOfMembers_eq]
    refine (lexes_intercalate ?_).enclosed rfl rfl
    rw [List.forall₂_map_left_iff, List.forall₂_map_right_iff, List.forall₂_same]
    intro e he
    exact (lexes_quote e.1).append rfl (ih e he)

end EtcdRoster.Json
