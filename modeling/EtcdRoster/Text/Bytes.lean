/-!
# Texts measured in bytes

Limits on texts count the bytes of their UTF-8 form: one to four for each character.
-/

namespace EtcdRoster.Text

/-- The length of the UTF-8 form. -/
def byteLength : List Char → Nat
  | [] => 0
  | c :: rest => c.utf8Size + byteLength rest

/-- The longest prefix whose UTF-8 form has at most `limit` bytes. -/
def takeBytes (limit : Nat) : List Char → List Char
  | [] => []
  | c :: rest => if c.utf8Size ≤ limit then c :: takeBytes (limit - c.utf8Size) rest else []

/-- Whether a byte offset lies between two characters, or at an end of the text. -/
def isBoundary : List Char → (offset : Nat) → Bool
  | [], offset => offset == 0
  | c :: rest, offset =>
    offset == 0 || (c.utf8Size ≤ offset && isBoundary rest (offset - c.utf8Size))

/-- Goes back from an offset to the first one that lies between two characters. -/
def lastBoundary (s : List Char) : (offset : Nat) → Nat
  | 0 => 0
  | offset + 1 => if isBoundary s (offset + 1) then offset + 1 else lastBoundary s offset

/-- A text that exceeds `limit` bytes is cut at the last boundary within them. -/
def truncate (limit : Nat) (s : List Char) : List Char :=
  if byteLength s ≤ limit then s else takeBytes (lastBoundary s limit) s

/-- The start of a text is a boundary, so going back always ends on one. -/
theorem isBoundary_lastBoundary (s : List Char) (offset : Nat) :
    isBoundary s (lastBoundary s offset) = true := by
  induction offset with
  | zero => cases s <;> simp [lastBoundary, isBoundary]
  | succ offset ih =>
    unfold lastBoundary
    split
    · assumption
    · exact ih

theorem lastBoundary_le (s : List Char) (offset : Nat) : lastBoundary s offset ≤ offset := by
  induction offset with
  | zero => simp [lastBoundary]
  | succ offset ih =>
    unfold lastBoundary
    split <;> omega

theorem takeBytes_prefix (limit : Nat) (s : List Char) : takeBytes limit s <+: s := by
  induction s generalizing limit with
  | nil => simp [takeBytes]
  | cons c s ih =>
    unfold takeBytes
    split
    · exact List.cons_prefix_cons.mpr ⟨rfl, ih _⟩
    · exact List.nil_prefix

end EtcdRoster.Text
