import EtcdRoster.Text.Digits

/-!
# Patterns

Which texts are patterns in the notation of regular expressions: groups and classes are closed, only
what stands there can be repeated, and a backslash stands before something that it can change.

The patterns here hold no closing brace, so that whatever an opening brace begins outside a class
stays unfinished.
-/

namespace EtcdRoster.Text.Pattern

/-- Where a reader of a pattern stands. -/
inductive Place
  /-- Nothing stands before that can be repeated. -/
  | bare
  /-- Behind something that can be repeated. -/
  | operand
  /-- Among the flags of a group; the latest comes first. -/
  | flags (seen : List Char)
  /-- In the name of a group. -/
  | name (isEmpty : Bool)
  /-- Behind the bracket that opens a class, where a closing bracket is a member. -/
  | classStart
  /-- In a class, behind a member from which a range can go on. -/
  | member (low : Option Char)
  /-- Behind the dash of a range. -/
  | range (low : Char)

/-- What a backslash can stand before: most signs, and a few letters. -/
def isEscapable (c : Char) (rest : List Char) : Bool :=
  if c = 'x' then
    (rest.take 2).length == 2 && (rest.take 2).all fun d => (digitValue? 16 d).isSome
  else if c.isAlphanum || c = '<' || c = '>' || c.toNat ≥ 0x80 then
    "AzafnrtvdDsSwW".toList.contains c
  else true

/-- Where a reader of a class stands behind a dash that follows the member `low`. -/
def Place.afterDash (low : Char) : List Char → Place
  | [] | ']' :: _ | '-' :: _ => .member none
  | _ => .range low

/-- Whether the rest of a pattern is well formed behind so many open groups and classes. -/
def isTail : (groups classes : Nat) → Place → List Char → Bool
  | groups, classes, _, [] => groups == 0 && classes == 0
  | groups, classes, .flags seen, c :: rest =>
    if c = ':' then seen.head? != some '-' && isTail groups classes .bare rest
    else if c = ')' then
      seen != [] && seen.head? != some '-' && isTail (groups - 1) classes .bare rest
    else "imsUuxR-".toList.contains c && !seen.contains c &&
      isTail groups classes (.flags (c :: seen)) rest
  | groups, classes, .name isEmpty, c :: rest =>
    if c = '>' then !isEmpty && isTail groups classes .bare rest
    else (c.isAlpha || c = '_' || (!isEmpty && (c.isDigit || ".[]".toList.contains c))) &&
      isTail groups classes (.name false) rest
  | groups, classes, .range low, '\\' :: c :: rest =>
    isEscapable c rest && !"dDsSwW".toList.contains c && (c.isAlphanum || low ≤ c) &&
      isTail groups classes (.member none) rest
  | groups, classes, .range low, c :: rest =>
    c != '\\' && low ≤ c && isTail groups classes (.member none) rest
  | groups, 0, _, '\\' :: c :: rest => isEscapable c rest && isTail groups 0 .operand rest
  | groups, classes + 1, _, '\\' :: c :: rest =>
    isEscapable c rest && c != 'A' && c != 'z' &&
      isTail groups (classes + 1) (.member (if c.isAlphanum then none else some c)) rest
  | groups, classes, _, '[' :: '^' :: rest => isTail groups (classes + 1) .classStart rest
  | groups, classes, _, '[' :: rest => isTail groups (classes + 1) .classStart rest
  | groups, classes + 1, .classStart, c :: rest =>
    c != '\\' && isTail groups (classes + 1) (.member (if c = '-' then none else some c)) rest
  | groups, classes + 1, _, ']' :: rest =>
    isTail groups classes (if classes = 0 then .operand else .member none) rest
  | groups, classes + 1, .member (some low), '-' :: rest =>
    isTail groups (classes + 1) (Place.afterDash low rest) rest
  | groups, classes + 1, _, c :: rest =>
    c != '\\' && isTail groups (classes + 1) (.member (some c)) rest
  | groups, 0, _, '(' :: '?' :: 'P' :: '<' :: rest => isTail (groups + 1) 0 (.name true) rest
  | groups, 0, _, '(' :: '?' :: '<' :: rest => isTail (groups + 1) 0 (.name true) rest
  | groups, 0, _, '(' :: '?' :: rest => isTail (groups + 1) 0 (.flags []) rest
  | groups, 0, place, c :: rest =>
    if c = '(' then isTail (groups + 1) 0 .bare rest
    else if c = ')' then groups != 0 && isTail (groups - 1) 0 .operand rest
    else if c = '|' then isTail groups 0 .bare rest
    else if c = '*' || c = '+' || c = '?' then
      match place with
      | .operand => isTail groups 0 .operand rest
      | _ => false
    else c != '{' && c != '\\' && isTail groups 0 .operand rest

def isWellFormed (text : List Char) : Bool := isTail 0 0 .bare text

end EtcdRoster.Text.Pattern
