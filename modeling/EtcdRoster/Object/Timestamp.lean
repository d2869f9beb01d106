import EtcdRoster.Text.Split

/-!
# Points in time

A timestamp counts the seconds since the start of 1970 in UTC. It is read from a date, a time of day
and an offset from UTC, with or without marks between their parts, and written in UTC. Fractions of
a second are dropped, and a leap second counts as the second before it. Annotations in brackets may
follow; they must be well formed but mean nothing.
-/

namespace EtcdRoster

structure Timestamp where
  seconds : Int
deriving DecidableEq, Inhabited, Repr

namespace Timestamp

/-! ## The calendar -/

/-- Days from 1970-01-01 to a date of the Gregorian calendar, counting years from March. -/
def daysOfDate (year month day : Int) : Int :=
  let y := if month ≤ 2 then year - 1 else year
  let era := Int.fdiv y 400
  let yearOfEra := y - era * 400
  let monthFromMarch := if month > 2 then month - 3 else month + 9
  let dayOfYear := Int.fdiv (153 * monthFromMarch + 2) 5 + day - 1
  let dayOfEra := yearOfEra * 365 + Int.fdiv yearOfEra 4 - Int.fdiv yearOfEra 100 + dayOfYear
  era * 146097 + dayOfEra - 719468

/-- The date on a day counted from 1970-01-01: year, month and day. -/
def dateOfDays (days : Int) : Int × Int × Int :=
  let z := days + 719468
  let era := Int.fdiv z 146097
  let dayOfEra := z - era * 146097
  let yearOfEra :=
    Int.fdiv (dayOfEra - Int.fdiv dayOfEra 1460 + Int.fdiv dayOfEra 36524
      - Int.fdiv dayOfEra 146096) 365
  let dayOfYear := dayOfEra - (365 * yearOfEra + Int.fdiv yearOfEra 4 - Int.fdiv yearOfEra 100)
  let monthFromMarch := Int.fdiv (5 * dayOfYear + 2) 153
  let day := dayOfYear - Int.fdiv (153 * monthFromMarch + 2) 5 + 1
  let month := if monthFromMarch < 10 then monthFromMarch + 3 else monthFromMarch - 9
  let year := yearOfEra + era * 400
  (if month ≤ 2 then year + 1 else year, month, day)

def isLeap (year : Int) : Bool :=
  (year % 4 == 0 && year % 100 != 0) || year % 400 == 0

def daysInMonth (year month : Int) : Int :=
  if month = 2 then (if isLeap year then 29 else 28)
  else if month = 4 ∨ month = 6 ∨ month = 9 ∨ month = 11 then 30
  else 31

/-! ## Reading -/

/-- The number of a row of exactly `width` digits and the rest of the text. -/
def digits? (width : Nat) (text : List Char) : Option (Int × List Char) :=
  let digits := text.take width
  if digits.length = width && digits.all Char.isDigit then
    some (digits.foldl (fun n c => 10 * n + ((c.toNat - '0'.toNat : Nat) : Int)) 0,
      text.drop width)
  else none

/-- Two digits of a number below a limit. -/
def part? (limit : Int) (text : List Char) : Option (Int × List Char) :=
  (digits? 2 text).filter fun (n, _) => n < limit

/-! ### Dates -/

/-- A year has four digits, or a sign and six. The year zero has no negative form. -/
def year? : List Char → Option (Int × List Char)
  | '+' :: text => digits? 6 text
  | '-' :: text => do
    let (year, text) ← digits? 6 text
    if year = 0 then none else some (-year, text)
  | text => digits? 4 text

/-- Takes a mark away that is there exactly if it is expected. -/
def mark? (expected : Bool) (c : Char) : List Char → Option (List Char)
  | [] => if expected then none else some []
  | d :: text =>
    if expected then (if d = c then some text else none)
    else if d = c then none else some (d :: text)

/-- The days of a date from 1970 on. There are hyphens after year and month, or nowhere. -/
def date? (text : List Char) : Option (Int × List Char) := do
  let (year, text) ← year? text
  let hyphens := text.head? == some '-'
  let (month, text) ← part? 13 (← mark? hyphens '-' text)
  let (day, text) ← part? 32 (← mark? hyphens '-' text)
  if year.natAbs ≤ 9999 ∧ 1 ≤ month ∧ 1 ≤ day ∧ day ≤ daysInMonth year month then
    some (daysOfDate year month day, text)
  else none

/-! ### Times and offsets -/

/-- The text of the next part of a time if there is one: behind a colon, or, in a time without
colons, where two more digits stand. -/
def nextPart? (colons : Bool) : List Char → Option (List Char)
  | ':' :: text => if colons then some text else none
  | text => if !colons && (digits? 2 text).isSome then some text else none

/-- The digits of a fraction, none if there is no fraction: one to nine behind a point or comma. -/
def fraction? (text : List Char) : Option (List Char × List Char) :=
  if text.head? = some '.' ∨ text.head? = some ',' then
    let digits := ((text.drop 1).takeWhile Char.isDigit).take 9
    if digits = [] then none else some (digits, text.drop (digits.length + 1))
  else some ([], text)

/-- The seconds of a time, the digits of its fraction and the rest of the text. The hours are below
a limit, and so are the seconds, of which there are at most 59. Minutes and seconds may be missing,
and so may the seconds alone. -/
def clock? (hours seconds : Int) (text : List Char) : Option (Int × List Char × List Char) := do
  let (hour, text) ← part? hours text
  let colons := text.head? == some ':'
  match nextPart? colons text with
  | none => some (hour * 3600, [], text)
  | some text =>
    let (minute, text) ← part? 60 text
    match nextPart? colons text with
    | none => some (hour * 3600 + minute * 60, [], text)
    | some text =>
      let (second, text) ← part? seconds text
      let (fraction, text) ← fraction? text
      some (hour * 3600 + minute * 60 + min second 59, fraction, text)

/-- The seconds of an offset from UTC, which is less than 26 hours. Half a second rounds up. -/
def offset? : List Char → Option (Int × List Char)
  | 'Z' :: text => some (0, text)
  | 'z' :: text => some (0, text)
  | sign :: text => do
    let factor ← if sign = '+' then some (1 : Int) else if sign = '-' then some (-1) else none
    let (seconds, fraction, text) ← clock? 26 60 text
    let seconds := if fraction.head?.any (· ≥ '5') then seconds + 1 else seconds
    if seconds < 26 * 3600 then some (factor * seconds, text) else none
  | [] => none

/-! ### Annotations -/

def isZoneStart (c : Char) : Bool := c.isAlpha || c = '_' || c = '.'

def isZoneChar (c : Char) : Bool := isZoneStart c || c.isDigit || c = '+' || c = '-'

def isKeyStart (c : Char) : Bool := c.isLower || c = '_'

def isKeyChar (c : Char) : Bool := isKeyStart c || c.isDigit || c = '-'

/-- Whether a text is a row of characters of a kind, of which the first is of a narrower kind. -/
def isWord (first other : Char → Bool) : List Char → Bool
  | [] => false
  | c :: rest => first c && rest.all other

/-- Whether the whole text is an offset without seconds. -/
def isZoneOffset : List Char → Bool
  | sign :: text =>
    (sign = '+' || sign = '-') && match part? 26 text with
      | none => false
      | some (_, rest) =>
        rest = [] || match nextPart? (rest.head? == some ':') rest with
          | none => false
          | some rest => (part? 60 rest).any fun (_, rest) => rest = []
  | [] => false

/-- Whether a text is a zone: an offset, or words with slashes between. It may begin with `!`. -/
def isZone (text : List Char) : Bool :=
  let text := if text.head? = some '!' then text.drop 1 else text
  isZoneOffset text || (Text.splitOn '/' text).all (isWord isZoneStart isZoneChar)

/-- Whether a text is a key and values, which have hyphens between them. -/
def isPair (text : List Char) : Bool :=
  let key := text.takeWhile (· ≠ '=')
  let values := text.drop (key.length + 1)
  isWord isKeyStart isKeyChar key && key.length < text.length
    && (Text.splitOn '-' values).all (isWord Char.isAlphanum Char.isAlphanum)

/-- What stands in each bracket of a row of brackets. -/
def brackets? (text : List Char) : Option (List (List Char)) :=
  let pieces := Text.splitOn ']' text
  if pieces.getLast? = some [] then pieces.dropLast.mapM (Text.dropBeginning? ['['])
  else none

/-- Whether a text is a row of annotations: pairs, of which the first may be a zone instead. -/
def isAnnotated (text : List Char) : Bool :=
  match brackets? text with
  | none => false
  | some [] => true
  | some (first :: rest) => (isZone first || isPair first) && rest.all isPair

/-! ### Timestamps -/

/-- The first and the last second of the times that have a date at every offset. -/
def earliest : Int := -377705023201

def latest : Int := 253402207200

def parse? (s : String) : Option Timestamp := do
  let (days, text) ← date? s.toList
  let text ← match text with
    | 'T' :: text | 't' :: text | ' ' :: text => some text
    | _ => none
  let (time, _, text) ← clock? 24 61 text
  let (offset, text) ← offset? text
  let seconds := days * 86400 + time - offset
  if isAnnotated text ∧ earliest ≤ seconds ∧ seconds ≤ latest then some ⟨seconds⟩ else none

/-! ## Writing -/

/-- A number with zeros in front of its digits up to a width, in which a minus sign counts. -/
def padded (width : Nat) (n : Int) : String :=
  let sign := if n < 0 then "-" else ""
  let digits := Nat.repr n.natAbs
  sign ++ String.ofList (List.replicate (width - sign.length - digits.length) '0') ++ digits

def text (t : Timestamp) : String :=
  let days := Int.fdiv t.seconds 86400
  let rest := t.seconds - days * 86400
  let (year, month, day) := dateOfDays days
  padded 4 year ++ "-" ++ padded 2 month ++ "-" ++ padded 2 day ++ "T"
    ++ padded 2 (rest / 3600) ++ ":" ++ padded 2 (rest / 60 % 60) ++ ":" ++ padded 2 (rest % 60)
    ++ "Z"

end Timestamp

end EtcdRoster
