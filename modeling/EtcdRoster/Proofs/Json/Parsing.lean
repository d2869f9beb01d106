import EtcdRoster.Proofs.Json.Lexing

/-!
# Printed documents are read as they were

The reader builds a document from its tokens (`foldlM_tokens`), so **the compact text of a plain
document is read as this document** (`parse?_print`).
-/

namespace EtcdRoster.Json

namespace Reader

/-- Members that were read in order are kept in order. -/
theorem ofList_reverse {members : List (String × Json)} (h : Entries.Sorted members) :
    Entries.ofList members.reverse = members := by
  refine Entries.eq_of_get?_eq (Entries.sorted_ofList _) h fun key => ?_
  rw [Entries.get?_ofList]
  induction members with
  | nil => rfl
  | cons e rest ih =>
    obtain ⟨hlater, hrest⟩ := List.pairwise_cons.mp h
    rw [List.reverse_cons, Entries.get?_append, ih hrest, Entries.get?_cons, Entries.get?_cons]
    split
    · rename_i hkey
      rw [hkey, Entries.get?_eq_none_of_lt hlater]
      rfl
    · simp

/-- A row of pieces with commas between is read piece by piece, where each is put in front of those
before it. -/
theorem foldlM_intercalate {α : Type} {piece : α → List Token} (opened : List α → Bool → State)
    (after : List α → State)
    (hcomma : ∀ before, step (after before) .comma = some (opened before false))
    {items : List α} (hne : items ≠ [])
    (hpiece : ∀ a ∈ items, ∀ before mayClose,
      (piece a).foldlM step (opened before mayClose) = some (after (a :: before)))
    (before : List α) (mayClose : Bool) :
    ([Token.comma].intercalate (items.map piece)).foldlM step (opened before mayClose) =
      some (after (items.reverse ++ before)) := by
  induction items generalizing before mayClose with
  | nil => exact absurd rfl hne
  | cons a rest ih =>
    obtain ⟨ha, hrest⟩ := List.forall_mem_cons.mp hpiece
    cases rest with
    | nil => simpa using ha before mayClose
    | cons next rest =>
      rw [List.map_cons, List.map_cons, List.intercalate_cons_cons, List.append_assoc,
        List.foldlM_append, ha]
      simp only [List.singleton_append, List.foldlM_cons, Option.bind_eq_bind, Option.bind_some,
        hcomma]
      simpa using ih (by simp) hrest (a :: before) false

/-- The reader builds a document from its tokens and hands it on. -/
theorem foldlM_tokens {depth : ℕ} {j : Json} (h : Plain depth j) :
    ∀ stack mayClose, stack.length + depth ≤ maxDepth →
      (tokens j).foldlM step (.value stack mayClose) = some (complete j stack) := by
  induction h with
  | null => intros; rfl
  | bool b => intros; rfl
  | int low high => intros; rfl
  | real returns => intros; rfl
  | str s => intros; rfl
  | @arr depth items inside ih =>
    intro stack mayClose hdepth
    have hopen : step (.value stack mayClose) .openArr = some (.value (.arr [] :: stack) true) :=
      if_pos (by omega)
    have hitem : ∀ item ∈ items, ∀ before mayClose,
        (tokens item).foldlM step (.value (.arr before :: stack) mayClose) =
          some (.afterItem (item :: before) stack) := by
      intro item hitem before mayClose
      exact ih item hitem (.arr before :: stack) mayClose (by rw [List.length_cons]; omega)
    rw [tokens, tokensOfItems_eq, List.foldlM_cons, hopen]
    obtain rfl | hne := eq_or_ne items []
    · rfl
    · rw [Option.bind_eq_bind, Option.bind_some, List.foldlM_append,
        foldlM_intercalate (fun before => .value (.arr before :: stack))
          (fun before => .afterItem before stack) (fun _ => rfl) hne hitem]
      simp [step, closeArr]
  | @obj depth members sorted inside ih =>
    intro stack mayClose hdepth
    have hopen : step (.value stack mayClose) .openObj = some (.key [] stack true) :=
      if_pos (by omega)
    have hmember : ∀ e ∈ members, ∀ before mayClose,
        (Token.str e.1 :: .colon :: tokens e.2).foldlM step (.key before stack mayClose) =
          some (.afterMember (e :: before) stack) := by
      intro e he before mayClose
      exact ih e he (.obj before e.1 :: stack) false (by rw [List.length_cons]; omega)
    rw [tokens, tokensOfMembers_eq, List.foldlM_cons, hopen]
    obtain rfl | hne := eq_or_ne members []
    · rfl
    · rw [Option.bind_eq_bind, Option.bind_some, List.foldlM_append,
        foldlM_intercalate (fun before => .key before stack)
          (fun before => .afterMember before stack) (fun _ => rfl) hne hmember]
      simp [step, closeObj, ofList_reverse sorted]

end Reader

/-! ## Plain documents -/

theorem plain_int32 {depth : ℕ} (n : Int32) : Plain depth (.int n.toInt) := by
  have hlow : -(2 ^ 31) ≤ n.toInt := n.le_toInt
  have hhigh : n.toInt < 2 ^ 31 := n.toInt_lt
  exact .int (by omega) (by omega)

theorem plain_int64 {depth : ℕ} (n : Int64) : Plain depth (.int n.toInt) := by
  have hlow : -(2 ^ 63) ≤ n.toInt := n.le_toInt
  have hhigh : n.toInt < 2 ^ 63 := n.toInt_lt
  exact .int (by omega) (by omega)

theorem plain_uint32 {depth : ℕ} (n : UInt32) : Plain depth (.int n.toNat) := by
  have hhigh : n.toNat < 2 ^ 32 := n.toNat_lt
  exact .int (by omega) (by omega)

theorem plain_arr_map {α : Type} {write : α → Json} {depth : ℕ} (h : ∀ a, Plain depth (write a))
    (items : List α) : Plain (depth + 1) (.arr (items.map write)) := by
  refine .arr fun item hitem => ?_
  obtain ⟨a, -, rfl⟩ := List.mem_map.mp hitem
  exact h a

/-- A record is plain if the members that are present are. -/
theorem plain_record {depth : ℕ} {fields : List (String × Option Json)}
    (h : ∀ field ∈ fields, ∀ value, field.2 = some value → Plain depth value) :
    Plain (depth + 1) (record fields) := by
  refine .obj (Entries.sorted_ofList _) fun e he => ?_
  obtain ⟨field, hfield, hpresent⟩ := List.mem_filterMap.mp (Entries.mem_ofList he)
  obtain ⟨value, hvalue, rfl⟩ := Option.map_eq_some_iff.mp hpresent
  exact h field hfield value hvalue

/-- **The compact text of a plain document is read as this document.** -/
theorem parse?_print {j : Json} (h : Plain Reader.maxDepth j) : parse? j.print = some j := by
  obtain ⟨lexer, hlexer, hstands⟩ := lexes_print h []
  have htokens : tokens? j.print.toList = some (tokens j) := by
    rw [tokens?, hlexer, Option.bind_some, hstands.finish]
    simp
  have hread := Reader.foldlM_tokens h [] false (by simp)
  simp [parse?, htokens, hread, Reader.complete]

end EtcdRoster.Json
