import EtcdRoster.Json.Decoder
import EtcdRoster.Json.Parser
import EtcdRoster.Text.Quoted

/-!
# The status in a refusal

The API server explains a refusal with a status: a code, a reason, a message, and perhaps details. A
reply that holds no status becomes the message of one (`Status.ofReply`). `Status.shown` lists all
members of a status with their values.
-/

namespace EtcdRoster

open Json Json.Record

inductive Verdict
  | success
  | failure
deriving DecidableEq, Inhabited, Repr

/-- What a reply says about the list that it is part of. -/
structure ListMeta where
  continuation : Option String := none
  remainingItemCount : Option Int64 := none
  resourceVersion : Option String := none
  selfLink : Option String := none
deriving DecidableEq, Inhabited, Repr

structure StatusCause where
  reason : String := ""
  message : String := ""
  field : String := ""
deriving DecidableEq, Inhabited, Repr

structure StatusDetails where
  name : String := ""
  group : String := ""
  kind : String := ""
  uid : String := ""
  causes : List StatusCause := []
  retryAfterSeconds : UInt32 := 0
deriving DecidableEq, Inhabited, Repr

structure Status where
  verdict : Option Verdict := none
  code : UInt16 := 0
  message : String := ""
  metadata : Option ListMeta := none
  reason : String := ""
  details : Option StatusDetails := none
deriving DecidableEq, Inhabited, Repr

/-! ## Reading -/

def Verdict.name : Verdict → String
  | success => "Success"
  | failure => "Failure"

/-- The verdict of a name. -/
def Verdict.ofName? (name : String) : Option Verdict := [success, failure].find? (·.name == name)

/-- A verdict is given by its name, or by an object whose one member has that name. -/
def Verdict.decode : Json.Decoder Verdict := fun j =>
  let name := match j with
    | .str name => some name
    | .obj [(name, .null)] => some name
    | _ => none
  match name.bind Verdict.ofName? with
  | some verdict => .ok verdict
  | none => .error (wrongValue "variant of enum StatusSummary" j)

def ListMeta.decode : Json.Decoder ListMeta :=
  decoder "ListMeta" <|
    ListMeta.mk <$> optional text "continue"
      <*> optional int64 "remainingItemCount"
      <*> optional text "resourceVersion"
      <*> optional text "selfLink"

def StatusCause.decode : Json.Decoder StatusCause :=
  listDecoder "StatusCause" <|
    StatusCause.mk <$> defaulted "" text "reason"
      <*> defaulted "" text "message"
      <*> defaulted "" text "field"

def StatusDetails.decode : Json.Decoder StatusDetails :=
  listDecoder "StatusDetails" <|
    StatusDetails.mk <$> defaulted "" text "name"
      <*> defaulted "" text "group"
      <*> defaulted "" text "kind"
      <*> defaulted "" text "uid"
      <*> defaulted [] (list StatusCause.decode) "causes"
      <*> defaulted 0 uint32 "retryAfterSeconds"

namespace Status

def decode : Json.Decoder Status :=
  listDecoder "Status" <|
    Status.mk <$> defaulted none (nullable Verdict.decode) "status"
      <*> defaulted 0 uint16 "code"
      <*> defaulted "" text "message"
      <*> defaulted none (nullable ListMeta.decode) "metadata"
      <*> defaulted "" text "reason"
      <*> defaulted none (nullable StatusDetails.decode) "details"

def failure (code : UInt16) (reason message : String) : Status :=
  { verdict := some .failure, code, reason, message }

/-- The status in the body of a reply. A body that holds none is the message of a failure. -/
def ofReply (code : UInt16) (body : String) : Status :=
  match (Json.parse? body).map decode with
  | some (.ok status) => status
  | _ => failure code "Failed to parse error data" body

end Status

/-! ## Showing -/

namespace Status

def shownRecord (name : String) (fields : List (String × String)) : String :=
  name ++ " \x7b " ++ String.intercalate ", " (fields.map fun f => f.1 ++ ": " ++ f.2) ++ " \x7d"

def shownOption : Option String → String
  | some text => "Some(" ++ text ++ ")"
  | none => "None"

def shownList (items : List String) : String := "[" ++ String.intercalate ", " items ++ "]"

def shownMeta (m : ListMeta) : String :=
  shownRecord "ListMeta" [
    ("continue_", shownOption (m.continuation.map Text.quoted)),
    ("remaining_item_count", shownOption (m.remainingItemCount.map fun n => Int.repr n.toInt)),
    ("resource_version", shownOption (m.resourceVersion.map Text.quoted)),
    ("self_link", shownOption (m.selfLink.map Text.quoted))]

def shownCause (c : StatusCause) : String :=
  shownRecord "StatusCause" [
    ("reason", Text.quoted c.reason),
    ("message", Text.quoted c.message),
    ("field", Text.quoted c.field)]

def shownDetails (d : StatusDetails) : String :=
  shownRecord "StatusDetails" [
    ("name", Text.quoted d.name),
    ("group", Text.quoted d.group),
    ("kind", Text.quoted d.kind),
    ("uid", Text.quoted d.uid),
    ("causes", shownList (d.causes.map shownCause)),
    ("retry_after_seconds", Nat.repr d.retryAfterSeconds.toNat)]

def shown (s : Status) : String :=
  shownRecord "Status" [
    ("status", shownOption (s.verdict.map Verdict.name)),
    ("code", Nat.repr s.code.toNat),
    ("message", Text.quoted s.message),
    ("metadata", shownOption (s.metadata.map shownMeta)),
    ("reason", Text.quoted s.reason),
    ("details", shownOption (s.details.map shownDetails))]

end Status

end EtcdRoster
