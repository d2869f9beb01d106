import EtcdRoster.Json.Token

/-!
# Reading JSON

The reader is a machine over tokens with a stack of the lists and objects that are open. Nothing may
follow the document. Of a member given twice the last one counts, and documents nest at most
`Reader.maxDepth` deep.
-/

namespace EtcdRoster.Json

namespace Reader

/-- A list or an object that is open, what it holds so far in reverse. -/
inductive Frame
  | arr (items : List Json)
  | obj (members : List (String × Json)) (key : String)

/-- What the reader waits for. -/
inductive State
  | value (stack : List Frame) (mayClose : Bool)
  | key (members : List (String × Json)) (stack : List Frame) (mayClose : Bool)
  | colon (members : List (String × Json)) (key : String) (stack : List Frame)
  | afterItem (items : List Json) (stack : List Frame)
  | afterMember (members : List (String × Json)) (stack : List Frame)
  | finished (document : Json)

def maxDepth : Nat := 127

/-- Hands a finished value to the innermost open list or object. -/
def complete (value : Json) : List Frame → State
  | [] => .finished value
  | .arr items :: stack => .afterItem (value :: items) stack
  | .obj members key :: stack => .afterMember ((key, value) :: members) stack

def closeArr (items : List Json) (stack : List Frame) : State :=
  complete (.arr items.reverse) stack

def closeObj (members : List (String × Json)) (stack : List Frame) : State :=
  complete (.obj (Entries.ofList members)) stack

/-- Consumes one token; refuses one that cannot stand here. -/
def step (state : State) (token : Token) : Option State :=
  match state, token with
  | .value stack _, .null => some (complete .null stack)
  | .value stack _, .bool b => some (complete (.bool b) stack)
  | .value stack _, .int n => some (complete (.int n) stack)
  | .value stack _, .real r => some (complete (.real r) stack)
  | .value stack _, .str s => some (complete (.str s) stack)
  | .value stack _, .openArr =>
    if stack.length < maxDepth then some (.value (.arr [] :: stack) true) else none
  | .value stack _, .openObj =>
    if stack.length < maxDepth then some (.key [] stack true) else none
  | .value (.arr items :: stack) true, .closeArr => some (closeArr items stack)
  | .key members stack _, .str key => some (.colon members key stack)
  | .key members stack true, .closeObj => some (closeObj members stack)
  | .colon members key stack, .colon => some (.value (.obj members key :: stack) false)
  | .afterItem items stack, .comma => some (.value (.arr items :: stack) false)
  | .afterItem items stack, .closeArr => some (closeArr items stack)
  | .afterMember members stack, .comma => some (.key members stack false)
  | .afterMember members stack, .closeObj => some (closeObj members stack)
  | _, _ => none

end Reader

/-- The document that a text holds, if it is one. -/
def parse? (text : String) : Option Json := do
  let tokens ← tokens? text.toList
  match ← tokens.foldlM Reader.step (.value [] false) with
  | .finished document => some document
  | _ => none

end EtcdRoster.Json
