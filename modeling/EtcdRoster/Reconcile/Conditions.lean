import EtcdRoster.Names
import EtcdRoster.Object.Condition

/-!
# Lists of conditions

A list holds at most one condition of each type that counts: the first. Updates put a condition in
the place of the first one of its type, or at the end.
-/

namespace EtcdRoster.Conditions

/-- The first condition of a type. -/
def find? (conditions : List Condition) (type : String) : Option Condition :=
  conditions.find? fun c => c.type == type

/-- A condition whose status changes now. -/
def create (type status reason message now : String) : Condition :=
  { type, status, reason := some reason, message := some message, lastTransitionTime := some now }

/-- Changes a condition. Its transition time stays while the status stays; one that has none gets
the current time. -/
def change (c : Condition) (status reason message now : String) : Condition :=
  let time := if c.status = status then c.lastTransitionTime.getD now else now
  { c with
    status, reason := some reason, message := some message, lastTransitionTime := some time }

/-- Changes the first condition of a type, or adds one at the end. -/
def update (conditions : List Condition) (type status reason message now : String) :
    List Condition :=
  match conditions with
  | [] => [create type status reason message now]
  | c :: rest =>
    if c.type = type then change c status reason message now :: rest
    else c :: update rest type status reason message now

/-- Puts a condition in the place of the first one of its type, or at the end. -/
def upsert (conditions : List Condition) (c : Condition) : List Condition :=
  match conditions with
  | [] => [c]
  | d :: rest => if d.type = c.type then c :: rest else d :: upsert rest c

/-- Puts conditions in one after the other. -/
def merge (current updates : List Condition) : List Condition := updates.foldl upsert current

/-- Whether two conditions say the same, whenever they changed. -/
def sameContent (a b : Condition) : Bool :=
  a.status == b.status && a.reason == b.reason && a.message == b.message

/-- Whether two lists say the same: they are equally long, and each new condition says what the
first current one of its type says. -/
def equal (current new : List Condition) : Bool :=
  current.length == new.length &&
  new.all fun c =>
    match find? current c.type with
    | some old => sameContent old c
    | none => false

/-- The status of a condition that holds or does not. -/
def statusOf (holds : Bool) : String := if holds then Names.conditionTrue else Names.conditionFalse

end EtcdRoster.Conditions
