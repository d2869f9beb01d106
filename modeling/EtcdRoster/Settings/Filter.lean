import EtcdRoster.Settings.Logging
import EtcdRoster.Text.Alphabetic
import EtcdRoster.Text.Pattern
import EtcdRoster.Text.Split

/-!
# Reading filters

A filter is written as directives with commas between them. A directive is a level, or
`target[span{field=value}]=level` with most of its parts left out. A filter that is not set or
cannot be read admits everything up to `info`.
-/

namespace EtcdRoster.Logging

/-- The rank that a level name in any case or a number from 0 to 5 stands for. -/
def rank? (text : List Char) : Option Nat :=
  let name := String.ofList (text.map Char.toUpper)
  if name = "OFF" then some 0
  else match Level.all.find? fun level => level.name == name with
    | some level => some level.rank
    | none => Text.natBelow? (Level.trace.rank + 1) text

/-- The rank written behind the equals sign of a directive; no text stands for every level. -/
def rankAfter? (text : List Char) : Option Nat :=
  if text.isEmpty then some Level.trace.rank else rank? text

/-- Reads a field. Its value, if it has one, is a number or a pattern. -/
def FieldTest.ofText? (text : List Char) : Option FieldTest :=
  match Text.splitOn '=' text with
  | [name] => if name.isEmpty then none else some ⟨String.ofList name, false⟩
  | name :: value :: _ =>
    if (Text.natBelow? UInt64.size value).isSome || Text.Pattern.isWellFormed value then
      some ⟨String.ofList name, true⟩
    else none
  | [] => none

namespace Directive

/-- The end of a directive behind its span: the text of its level, if it has one. -/
def withLevel? (d : Directive) : List Char → Option (Directive × Option (List Char))
  | '=' :: level => some (d, some level)
  | rest => if rest.all Text.isBlank then some (d, none) else none

/-- Reads what stands behind an opening bracket. An empty name says nothing about the span if a
field follows it. -/
def withSpan? (d : Directive) (text : List Char) : Option (Directive × Option (List Char)) :=
  let stops (c : Char) : Bool := c == ']' || c == '\x7b'
  let name := text.takeWhile (!stops ·)
  match text.dropWhile (!stops ·) with
  | [] => none
  | ']' :: rest => { d with span := some (String.ofList name) }.withLevel? rest
  | _ :: rest => do
    let (field, rest) ← Text.cut? ['\x7d', ']'] rest
    if field.contains '\x7d' then none
    else
      let field ← FieldTest.ofText? field
      let span := if name.isEmpty then none else some (String.ofList name)
      { d with span, field := some field }.withLevel? rest

/-- What the first character of a target or level can be. -/
def isInitial (c : Char) : Bool := "-:_".toList.contains c || Text.isAlphanumeric c

/-- What a directive is about, and the text of its level. A word without a level is a target. -/
def parts? (text : List Char) : Option (Directive × Option (List Char)) :=
  let everything : Directive := { rank := Level.trace.rank }
  let stops (c : Char) : Bool := c == '=' || c == '['
  match text with
  | [] => none
  | '[' :: rest => everything.withSpan? rest
  | c :: _ =>
    let named := { everything with target := some (String.ofList (text.takeWhile (!stops ·))) }
    if !isInitial c then none
    else match text.dropWhile (!stops ·) with
      | [] => some (named, none)
      | '[' :: rest => named.withSpan? rest
      | rest => named.withLevel? rest

/-- Reads a directive. A word that names a level is one, and not a target. Behind blanks a level
cannot be read, and the whole text is the target. -/
def ofText? (text : List Char) : Option Directive := do
  let (d, level) ← parts? (text.dropWhile Text.isBlank)
  if text.head?.any Text.isBlank then
    if level.isNone then some { target := some (String.ofList text), rank := d.rank } else none
  else match level with
    | some level => (rankAfter? level).map fun rank => { d with rank }
    | none => match rank? text with
      | some rank => some { rank }
      | none => some d

end Directive

/-- The directives of a filter; no text admits errors only. -/
def directives? (text : List Char) : Option (List Directive) :=
  let parts := (Text.splitOn ',' text).filter (!·.isEmpty)
  if parts.isEmpty then some [{ rank := Level.error.rank }]
  else parts.mapM Directive.ofText?

def directives (text : Option String) : List Directive :=
  (text.bind fun text => directives? text.toList).getD [{ rank := Level.info.rank }]

end EtcdRoster.Logging
