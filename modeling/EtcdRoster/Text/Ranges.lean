/-!
# Classes of characters

A class of characters is a list of ranges of code points, both ends included.
-/

namespace EtcdRoster.Text

/-- Whether a character lies in one of the ranges. -/
def inRanges (ranges : List (Nat × Nat)) (c : Char) : Bool :=
  ranges.any fun range => range.1 ≤ c.toNat && c.toNat ≤ range.2

/-- The C0 and C1 controls and DEL. -/
def isControl (c : Char) : Bool := inRanges [(0, 0x1F), (0x7F, 0x9F)] c

/-- The property White_Space of Unicode. -/
def blankRanges : List (Nat × Nat) :=
  [(0x9, 0xD), (0x20, 0x20), (0x85, 0x85), (0xA0, 0xA0), (0x1680, 0x1680), (0x2000, 0x200A),
   (0x2028, 0x2029), (0x202F, 0x202F), (0x205F, 0x205F), (0x3000, 0x3000)]

def isBlank (c : Char) : Bool := inRanges blankRanges c

/-- Whether a text holds nothing but blanks. -/
def allBlank (s : String) : Bool := s.toList.all isBlank

end EtcdRoster.Text
