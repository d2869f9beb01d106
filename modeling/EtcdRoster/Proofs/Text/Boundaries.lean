import EtcdRoster.Cluster.Recorder
import Mathlib.Data.List.Infix

/-!
# Where a text may be cut

A text that is too long is cut between two of its characters. Whether an offset lies there can be
seen from the bytes: a byte from `0x80` to `0xBF` continues a character, and any other byte begins
one.

* `isBoundary_eq_isCut` — the widths of the characters and the bytes tell the same boundaries.
* `scanBack_eq` — going back byte by byte ends on a boundary, from any offset and never below zero.
* `prefix_takeBytes`, `le_lastBoundary` — what is cut off at the last boundary has no longer
  beginning within the limit.
* `noteOf_longest` — **a note is the longest beginning** of its message that fits.
-/

namespace EtcdRoster.Text

/-! ## Bytes -/

/-- The bytes of the UTF-8 form. -/
def octets (s : String) : List UInt8 := s.toUTF8.data.toList

/-- Whether a byte continues a character that an earlier byte begins. -/
def continues (b : UInt8) : Bool := 0x80 ≤ b && b < 0xC0

/-- Whether a character begins at an offset, or the text ends there. -/
def begins (bytes : List UInt8) (offset : Nat) : Bool :=
  match bytes[offset]? with
  | some b => !continues b
  | none => offset == bytes.length

/-- Whether a text may be cut at an offset, told by its bytes. -/
def isCut (bytes : List UInt8) (offset : Nat) : Bool := offset == 0 || begins bytes offset

/-- Goes back byte by byte to where a text may be cut, and nowhere if that lies below zero. -/
def scanBack (bytes : List UInt8) : (offset : Nat) → Option Nat
  | 0 => if isCut bytes 0 then some 0 else none
  | offset + 1 => if isCut bytes (offset + 1) then some (offset + 1) else scanBack bytes offset

theorem octets_eq (s : String) : octets s = s.toList.flatMap String.utf8EncodeChar := by
  rw [octets, String.toUTF8_eq_toByteArray, ← String.utf8Encode_toList, List.utf8Encode,
    List.toList_data_toByteArray]

theorem length_octets (s : String) : (octets s).length = s.utf8ByteSize := rfl

theorem byteLength_toList (s : String) : byteLength s.toList = s.utf8ByteSize := by
  have hlength : ∀ l : List Char, byteLength l = (l.flatMap String.utf8EncodeChar).length := by
    intro l
    induction l with
    | nil => rfl
    | cons c l ih => simp [byteLength, ih]
  rw [hlength, ← octets_eq, length_octets]

theorem continues_ofNat {n : Nat} (h : n < 256) :
    continues (UInt8.ofNat n) = decide (0x80 ≤ n ∧ n < 0xC0) := by
  have hvalue : (UInt8.ofNat n).toNat = n := UInt8.toNat_ofNat_of_lt' h
  simp [continues, UInt8.le_iff_toNat_le, UInt8.lt_iff_toNat_lt, hvalue]

theorem continues_of_tail (n : Nat) : continues (UInt8.ofNat (n % 64 + 128)) = true := by
  rw [continues_ofNat (by omega), decide_eq_true_iff]
  omega

theorem not_continues_of_lead {n : Nat} (h : n < 256) (lead : n < 0x80 ∨ 0xC0 ≤ n) :
    continues (UInt8.ofNat n) = false := by
  rw [continues_ofNat h, decide_eq_false_iff_not]
  omega

/-- The first byte of a character begins it, and all others continue it. -/
theorem exists_encode_eq_cons (c : Char) :
    ∃ lead tail, String.utf8EncodeChar c = lead :: tail ∧ continues lead = false ∧
      ∀ b ∈ tail, continues b = true := by
  fun_cases String.utf8EncodeChar c with
  | case1 v => exact ⟨_, _, rfl, not_continues_of_lead (by omega) (by omega), by simp⟩
  | case2 v =>
    refine ⟨_, _, rfl, not_continues_of_lead (by omega) (by omega), ?_⟩
    exact List.forall_mem_singleton.mpr (continues_of_tail _)
  | case3 v =>
    refine ⟨_, _, rfl, not_continues_of_lead (by omega) (by omega), ?_⟩
    rw [List.forall_mem_cons, List.forall_mem_singleton]
    exact ⟨continues_of_tail _, continues_of_tail _⟩
  | case4 v =>
    refine ⟨_, _, rfl, not_continues_of_lead (by omega) (by omega), ?_⟩
    rw [List.forall_mem_cons, List.forall_mem_cons, List.forall_mem_singleton]
    exact ⟨continues_of_tail _, continues_of_tail _, continues_of_tail _⟩

/-! ## Boundaries -/

theorem begins_zero (s : List Char) : begins (s.flatMap String.utf8EncodeChar) 0 = true := by
  cases s with
  | nil => rfl
  | cons c rest =>
    obtain ⟨lead, tail, hencode, hlead, -⟩ := exists_encode_eq_cons c
    simp [begins, hencode, hlead]

theorem begins_append (before bytes : List UInt8) (offset : Nat) :
    begins (before ++ bytes) (before.length + offset) = begins bytes offset := by
  have hend : (before.length + offset == before.length + bytes.length) =
      (offset == bytes.length) := by
    rw [Bool.eq_iff_iff, beq_iff_eq, beq_iff_eq]
    omega
  rw [begins, List.getElem?_append_right (Nat.le_add_right ..), Nat.add_sub_cancel_left,
    List.length_append, hend, begins]

theorem isCut_text (s : List Char) (offset : Nat) :
    isCut (s.flatMap String.utf8EncodeChar) offset =
      begins (s.flatMap String.utf8EncodeChar) offset := by
  cases offset with
  | zero => exact (begins_zero s).symm
  | succ offset => rfl

/-- The widths of the characters and the bytes tell the same boundaries. -/
theorem isBoundary_eq_isCut (s : List Char) (offset : Nat) :
    isBoundary s offset = isCut (s.flatMap String.utf8EncodeChar) offset := by
  induction s generalizing offset with
  | nil => simp [isBoundary, isCut, begins]
  | cons c rest ih =>
    obtain ⟨lead, tail, hencode, -, htail⟩ := exists_encode_eq_cons c
    have hwidth : c.utf8Size = (lead :: tail).length := by
      rw [← String.length_utf8EncodeChar, hencode]
    cases offset with
    | zero => rfl
    | succ i =>
      rw [isCut_text, List.flatMap_cons, hencode, isBoundary, hwidth]
      obtain hinside | hbehind := Nat.lt_or_ge i tail.length
      · have hbyte : continues tail[i] = true := htail _ (List.getElem_mem hinside)
        have hwide : ¬ (lead :: tail).length ≤ i + 1 := by
          rw [List.length_cons]
          omega
        rw [decide_eq_false hwide]
        simp [begins, List.getElem?_append_left hinside, hinside, hbyte]
      · obtain ⟨k, hk⟩ : ∃ k, i + 1 = (lead :: tail).length + k :=
          Nat.exists_eq_add_of_le (Nat.succ_le_succ hbehind)
        rw [hk, begins_append, Nat.add_sub_cancel_left, ih, isCut_text]
        simp

/-- Going back byte by byte ends on the last boundary, and never below zero. -/
theorem scanBack_eq (s : List Char) (offset : Nat) :
    scanBack (s.flatMap String.utf8EncodeChar) offset = some (lastBoundary s offset) := by
  induction offset with
  | zero => rfl
  | succ offset ih =>
    rw [scanBack, lastBoundary, isBoundary_eq_isCut, ih]
    split <;> rfl

example : scanBack (octets "né") 2 = some 1 := by decide +kernel

theorem le_lastBoundary {s : List Char} {n offset : Nat} (hn : isBoundary s n = true)
    (hle : n ≤ offset) : n ≤ lastBoundary s offset := by
  induction offset with
  | zero => exact hle
  | succ offset ih =>
    rw [lastBoundary]
    split
    · exact hle
    · rename_i hother
      have hne : n ≠ offset + 1 := by
        rintro rfl
        exact hother hn
      exact ih (by omega)

/-! ## Beginnings -/

/-- A beginning that fits is part of what is taken. -/
theorem prefix_takeBytes {p s : List Char} {limit : Nat} (h : p <+: s)
    (hfits : byteLength p ≤ limit) : p <+: takeBytes limit s := by
  induction p generalizing s limit with
  | nil => exact List.nil_prefix
  | cons c p ih =>
    obtain ⟨rest, rfl⟩ := h
    rw [byteLength] at hfits
    rw [List.cons_append, takeBytes, if_pos (by omega)]
    exact List.cons_prefix_cons.mpr ⟨rfl, ih (List.prefix_append p rest) (by omega)⟩

theorem byteLength_takeBytes {s : List Char} {offset : Nat} (h : isBoundary s offset = true) :
    byteLength (takeBytes offset s) = offset := by
  induction s generalizing offset with
  | nil =>
    obtain rfl : offset = 0 := by simpa [isBoundary] using h
    rfl
  | cons c rest ih =>
    rw [isBoundary, Bool.or_eq_true, Bool.and_eq_true, beq_iff_eq, decide_eq_true_iff] at h
    rcases h with rfl | ⟨hwidth, hrest⟩
    · have := c.utf8Size_pos
      rw [takeBytes, if_neg (by omega), byteLength]
    · rw [takeBytes, if_pos hwidth, byteLength, ih hrest]
      omega

/-- A beginning ends on a boundary. -/
theorem isBoundary_byteLength {p s : List Char} (h : p <+: s) :
    isBoundary s (byteLength p) = true := by
  induction p generalizing s with
  | nil => cases s <;> rfl
  | cons c p ih =>
    obtain ⟨rest, rfl⟩ := h
    rw [byteLength, List.cons_append, isBoundary, Nat.add_sub_cancel_left,
      ih (List.prefix_append p rest)]
    simp

/-- A text is cut at its last boundary within the limit, also if that is its end. -/
theorem truncate_eq_takeBytes (limit : Nat) (s : List Char) :
    truncate limit s = takeBytes (lastBoundary s limit) s := by
  rw [truncate]
  split
  · rename_i hfits
    have hend : byteLength s ≤ lastBoundary s limit :=
      le_lastBoundary (isBoundary_byteLength List.prefix_rfl) hfits
    have htaken : takeBytes (lastBoundary s limit) s <+: s := takeBytes_prefix _ _
    exact (prefix_takeBytes List.prefix_rfl hend).eq_of_length_le htaken.length_le
  · rfl

theorem octets_of_prefix {a b : String} (h : a.toList <+: b.toList) :
    octets a = (octets b).take a.utf8ByteSize := by
  obtain ⟨rest, hrest⟩ := h
  have hb : octets b = octets a ++ rest.flatMap String.utf8EncodeChar := by
    rw [octets_eq b, ← hrest, List.flatMap_append, ← octets_eq]
  rw [hb, ← length_octets, List.take_left]

/-- What the longest beginning of a text is that fits into a limit, and how it is found. -/
structure LongestFit (limit : Nat) (whole part : String) : Prop where
  /-- It is a row of characters that the text begins with. -/
  beginning : part.toList <+: whole.toList
  /-- In bytes it is what comes before an offset at which the text may be cut. -/
  bytes : octets part = (octets whole).take part.utf8ByteSize
  cut : isCut (octets whole) part.utf8ByteSize = true
  fits : part.utf8ByteSize ≤ limit
  /-- No beginning that fits goes further. -/
  longest : ∀ p : String, p.toList <+: whole.toList → p.utf8ByteSize ≤ limit →
    p.toList <+: part.toList
  last : ∀ offset ≤ limit, isCut (octets whole) offset = true → offset ≤ part.utf8ByteSize
  whole_of_fits : whole.utf8ByteSize ≤ limit → part = whole
  /-- Going back from the limit ends where the text is cut. -/
  scanned : scanBack (octets whole) limit = some part.utf8ByteSize

end EtcdRoster.Text

namespace EtcdRoster.Cluster

open Text

/-- **A note is the longest beginning** of its message that has at most 1024 bytes. -/
theorem noteOf_longest (message : String) : LongestFit 1024 message (noteOf message) := by
  have hnote : (noteOf message).toList =
      takeBytes (lastBoundary message.toList 1024) message.toList := by
    rw [noteOf, String.toList_ofList, truncate_eq_takeBytes, noteLimit]
  have hsize : (noteOf message).utf8ByteSize = lastBoundary message.toList 1024 := by
    rw [← byteLength_toList, hnote, byteLength_takeBytes (isBoundary_lastBoundary _ _)]
  have hbeginning : (noteOf message).toList <+: message.toList := hnote ▸ takeBytes_prefix _ _
  have hlast : ∀ offset ≤ 1024, isBoundary message.toList offset = true →
      offset ≤ (noteOf message).utf8ByteSize := by
    intro offset hoffset hboundary
    rw [hsize]
    exact le_lastBoundary hboundary hoffset
  have hlongest : ∀ p : String, p.toList <+: message.toList → p.utf8ByteSize ≤ 1024 →
      p.toList <+: (noteOf message).toList := by
    intro p hp hfits
    have hoffset := hlast _ hfits (byteLength_toList p ▸ isBoundary_byteLength hp)
    rw [hnote]
    exact prefix_takeBytes hp (by rw [byteLength_toList, ← hsize]; exact hoffset)
  refine ⟨hbeginning, octets_of_prefix hbeginning, ?cut, ?fits, hlongest, ?last, ?whole, ?scanned⟩
  case cut =>
    rw [octets_eq, ← isBoundary_eq_isCut, hsize, isBoundary_lastBoundary]
  case fits => exact hsize ▸ lastBoundary_le _ _
  case last =>
    intro offset hoffset hcut
    rw [octets_eq, ← isBoundary_eq_isCut] at hcut
    exact hlast offset hoffset hcut
  case whole =>
    intro hfits
    have hall := hlongest message List.prefix_rfl hfits
    exact String.toList_injective (hbeginning.eq_of_length_le hall.length_le)
  case scanned => rw [octets_eq, scanBack_eq, hsize]

end EtcdRoster.Cluster
