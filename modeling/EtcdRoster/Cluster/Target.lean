import EtcdRoster.Text.Bytes

/-!
# Targets of requests

The target of a request is a path, perhaps with a query and a fragment. Blanks, controls and a few
marks must not stand in it. The server gets the path and the query, not the fragment.
-/

namespace EtcdRoster.Cluster.Target

/-- Why a request cannot be built for a target. -/
inductive Fault
  | invalidCharacter
  | tooLong
deriving DecidableEq, Inhabited, Repr

def Fault.message : Fault → String
  | invalidCharacter => "invalid uri character"
  | tooLong => "uri too long"

/-- Whether a character is a visible one of ASCII or lies beyond ASCII. -/
def isVisible (c : Char) : Bool := 0x21 ≤ c.toNat && c.toNat ≠ 0x7F

def isPathChar (c : Char) : Bool := isVisible c && !("#<>?\x60".toList.contains c)

def isQueryChar (c : Char) : Bool := isVisible c && !("\"#<>".toList.contains c)

/-- The most bytes that a target has. -/
def limit : Nat := UInt16.size - 2

/-- The path of a target. -/
def path (target : List Char) : Except Fault (List Char) :=
  let sent := target.takeWhile (· ≠ '#')
  let path := sent.takeWhile (· ≠ '?')
  if Text.byteLength target > limit then .error .tooLong
  else if path.all isPathChar && (sent.drop (path.length + 1)).all isQueryChar then .ok path
  else .error .invalidCharacter

end EtcdRoster.Cluster.Target
