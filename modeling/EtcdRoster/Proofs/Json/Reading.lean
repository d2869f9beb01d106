import EtcdRoster.Proofs.Object.Documents
import Mathlib.Data.List.Forall2

/-!
# Documents that are read as the value they were written from

`Reads` says that a document is read as a value. For lists, dictionaries and records this follows
from what they are made of: `reads_list`, `reads_dict`, `reads_decoder`. A record is found member by
member (`Record.Finds`), and there the ways to treat an absent member differ: one that is left out
when it is absent must be optional for the reader, and one that must be there is always written.
-/

namespace EtcdRoster.Json

variable {α β : Type} {decode : Decoder α}

/-- The document is read as this value, and is no `null`, which would be read as an absent value. -/
structure Reads (decode : Decoder α) (j : Json) (a : α) : Prop where
  ne_null : j ≠ .null
  decoded : decode j = .ok a

/-! ## Scalars -/

theorem reads_text (s : String) : Reads text (.str s) s := ⟨by simp, rfl⟩

theorem reads_flag (b : Bool) : Reads flag (.bool b) b := ⟨by simp, rfl⟩

theorem reads_whole (expected : String) {low high n : Int} (make : Int → α) (hlow : low ≤ n)
    (hhigh : n ≤ high) : Reads (whole expected low high make) (.int n) (make n) :=
  ⟨by simp, if_pos ⟨hlow, hhigh⟩⟩

theorem reads_int32 (n : Int32) : Reads int32 (.int n.toInt) n := by
  have h := reads_whole "i32" Int32.ofInt n.minValue_le_toInt n.toInt_le
  rwa [Int32.ofInt_toInt] at h

theorem reads_int64 (n : Int64) : Reads int64 (.int n.toInt) n := by
  have h := reads_whole "i64" Int64.ofInt n.minValue_le_toInt n.toInt_le
  rwa [Int64.ofInt_toInt] at h

theorem reads_uint32 (n : UInt32) : Reads uint32 (.int n.toNat) n := by
  have hlow : (0 : Int) ≤ n.toNat := Int.natCast_nonneg _
  have hhigh : (n.toNat : Int) ≤ UInt32.size - 1 := by
    have := n.toNat_lt_size
    omega
  have h := reads_whole "u32" (fun n => UInt32.ofNat n.toNat) hlow hhigh
  rwa [Int.toNat_natCast, UInt32.ofNat_toNat] at h

/-! ## Lists and dictionaries -/

theorem mapM_eq_ok_of_forall₂ {ε γ : Type} {read : γ → Except ε α} {sources : List γ}
    (items : List α) (h : List.Forall₂ (fun source a => read source = .ok a) sources items) :
    sources.mapM read = .ok items := by
  induction h with
  | nil => rfl
  | cons hread _ ih =>
    rw [List.mapM_cons, hread, ih]
    rfl

theorem reads_list {write : α → Json} {items : List α}
    (h : ∀ a ∈ items, Reads decode (write a) a) :
    Reads (list decode) (.arr (items.map write)) items := by
  refine ⟨nofun, mapM_eq_ok_of_forall₂ items ?_⟩
  conv => rhs; rw [← List.zipIdx_map_fst 0 items]
  rw [List.zipIdx_map, List.forall₂_map_left_iff, List.forall₂_map_right_iff, List.forall₂_same]
  intro numbered hmem
  simp only [Prod.map, (h _ (List.fst_mem_of_mem_zipIdx hmem)).decoded]
  rfl

theorem reads_dict {write : α → Json} {d : Dict α}
    (h : ∀ e ∈ d.entries, Reads decode (write e.2) e.2) :
    Reads (dict decode) (.obj (d.entries.map fun e => (e.1, write e.2))) d := by
  have hdict : Dict.ofList d.entries = d := Dict.ext_get? fun key => Dict.get?_ofList _ key
  refine ⟨nofun, ?_⟩
  rw [dict, mapM_eq_ok_of_forall₂ d.entries]
  · exact congrArg Except.ok hdict
  · rw [List.forall₂_map_left_iff, List.forall₂_same]
    intro e he
    simp only [(h e he).decoded]
    rfl

/-! ## Records -/

namespace Record

/-- The record finds this value in an object with these members. -/
def Finds (r : Record α) (members : List (String × Json)) (a : α) : Prop :=
  ∀ i, r.run (.named members) i = .ok a

variable {members : List (String × Json)} {key : String} {value : Json} {a : α}

theorem Finds.map {r : Record α} (f : α → β) (h : r.Finds members a) :
    (f <$> r).Finds members (f a) := fun i => by
  change both (.ok f) (r.run _ (i + 0)) = _
  rw [h]
  rfl

theorem Finds.seq {r : Record (α → β)} {r' : Record α} {f : α → β} (h : r.Finds members f)
    (h' : r'.Finds members a) : (r <*> r').Finds members (f a) := fun i => by
  change both (r.run _ i) (r'.run _ (i + r.width)) = _
  rw [h, h']
  rfl

theorem finds_member_of_get? {absent : Source → Option α}
    (hget : Entries.get? key members = some value) (h : decode value = .ok a) :
    (member absent decode key).Finds members a := fun i => by
  simp [member, Source.find?, hget, h, Except.mapError]

theorem finds_member_of_absent {absent : Source → Option α}
    (hget : Entries.get? key members = none) (h : absent (.named members) = some a) :
    (member absent decode key).Finds members a := fun i => by
  simp [member, Source.find?, hget, h]

theorem finds_required (hget : Entries.get? key members = some value) (h : Reads decode value a) :
    (required decode key).Finds members a :=
  finds_member_of_get? hget h.decoded

theorem finds_defaulted {default : α} (hget : Entries.get? key members = some value)
    (h : Reads decode value a) : (defaulted default decode key).Finds members a :=
  finds_member_of_get? hget h.decoded

theorem nullable_of_reads (h : Reads decode value a) : nullable decode value = .ok (some a) := by
  obtain ⟨hne, hdecoded⟩ := h
  cases value <;> simp_all [nullable, Except.map]

/-- A member that is left out when it is absent. -/
theorem finds_optional {o : Option α} {write : α → Json}
    (hget : Entries.get? key members = o.map write) (h : ∀ a ∈ o, Reads decode (write a) a) :
    (optional decode key).Finds members o := by
  cases o with
  | none => exact finds_member_of_absent hget rfl
  | some a => exact finds_member_of_get? hget (nullable_of_reads (h a rfl))

theorem finds_optional_text {o : Option String} (hget : Entries.get? key members = o.map .str) :
    (optional text key).Finds members o :=
  finds_optional hget fun s _ => reads_text s

theorem finds_lenient {default : α} (hget : Entries.get? key members = some value)
    (h : Reads decode value a) : (lenient default decode key).Finds members a :=
  Finds.map (·.getD default) (a := some a) (finds_member_of_get? hget (nullable_of_reads h))

end Record

open Record

variable {name : String} {r : Record α} {fields : List (String × Option Json)} {a : α}

/-- A record is read back if it is found in every object that has these fields for members. -/
theorem reads_decoder (distinct : (fields.map Prod.fst).Nodup)
    (h : ∀ members, (fields.Forall fun field => Entries.get? field.1 members = field.2) →
      r.Finds members a) : Reads (decoder name r) (record fields) a :=
  ⟨nofun, h _ (List.forall_iff_forall_mem.mpr fun _ => get?_record_of_mem distinct) 0⟩

theorem reads_listDecoder (distinct : (fields.map Prod.fst).Nodup)
    (h : ∀ members, (fields.Forall fun field => Entries.get? field.1 members = field.2) →
      r.Finds members a) : Reads (listDecoder name r) (record fields) a :=
  ⟨nofun, h _ (List.forall_iff_forall_mem.mpr fun _ => get?_record_of_mem distinct) 0⟩

end EtcdRoster.Json
