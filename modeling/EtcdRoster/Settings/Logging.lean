/-!
# What is logged

A filter is a list of directives, each of which admits the events that it is about up to a level.
For an event the most specific of the directives about it counts.
-/

namespace EtcdRoster.Logging

inductive Level
  | error
  | warn
  | info
  | debug
  | trace
deriving DecidableEq, Inhabited, Repr

namespace Level

/-- How much a level admits, from 1 on. -/
def rank : Level → Nat
  | error => 1
  | warn => 2
  | info => 3
  | debug => 4
  | trace => 5

def name : Level → String
  | error => "ERROR"
  | warn => "WARN"
  | info => "INFO"
  | debug => "DEBUG"
  | trace => "TRACE"

def all : List Level := [error, warn, info, debug, trace]

end Level

/-- The target of the events of this program. -/
def ownTarget : String := "etcd_host_endpoints"

/-- A field that an event or span must have, and whether a directive asks for its value too. -/
structure FieldTest where
  name : String
  asksValue : Bool
deriving DecidableEq, Inhabited

/-- Admits events up to a rank: those whose target begins with a text, that happen in a span, and
that have a field. -/
structure Directive where
  target : Option String := none
  span : Option String := none
  field : Option FieldTest := none
  rank : Nat
deriving DecidableEq, Inhabited

namespace Directive

/-- Whether a directive is about an event of this program. No event happens in a span, and only the
fields of spans are asked for their values. -/
def isAbout (fields : List String) (d : Directive) : Bool :=
  d.span.isNone &&
  (match d.target with
    | some target => target.toList.isPrefixOf ownTarget.toList
    | none => true) &&
  (match d.field with
    | some field => !field.asksValue && fields.contains field.name
    | none => true)

/-- How specific a directive is about targets: the longer its target, the more. -/
def targetWeight (d : Directive) : Nat :=
  match d.target with
  | some target => target.length + 1
  | none => 0

/-- Whether the field of `b` is at least as specific as that of `a`: any field is more specific than
none, and of two the later in the order of texts. -/
def fieldsAscend (a b : Directive) : Bool :=
  match a.field, b.field with
  | none, _ => true
  | some _, none => false
  | some x, some y => x.name ≤ y.name

/-- Whether `b`, given after `a`, takes its place where both are about an event. -/
def yieldsTo (a b : Directive) : Bool :=
  a.targetWeight < b.targetWeight || (a.targetWeight == b.targetWeight && fieldsAscend a b)

end Directive

/-- The directive that counts for an event with the given fields: the most specific, and the last of
equally specific ones. -/
def governing (directives : List Directive) (fields : List String) : Option Directive :=
  (directives.filter fun d => d.isAbout fields).foldl
    (fun best d => match best with
      | some b => if b.yieldsTo d then some d else some b
      | none => some d) none

def admits (directives : List Directive) (level : Level) (fields : List String) : Bool :=
  match governing directives fields with
  | some d => level.rank ≤ d.rank
  | none => false

end EtcdRoster.Logging
