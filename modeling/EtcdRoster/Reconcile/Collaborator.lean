import EtcdRoster.Dns.Member
import EtcdRoster.Metrics.Registry
import EtcdRoster.Object.Condition
import EtcdRoster.Object.Config
import EtcdRoster.Object.Endpoints
import EtcdRoster.Object.Node
import EtcdRoster.Object.Resource

/-!
# What a sync asks of the world

A sync talks to the topology of the cluster, to the store of the published object, to the status of
the operator, to a resolver, to a sink of events, to clocks and to metrics. All of this is one type
of questions with their answers, so a sync is a dialogue.
-/

namespace EtcdRoster

/-- Something to tell the people who run the cluster. -/
structure Event where
  isWarning : Bool
  reason : String
  message : String
deriving DecidableEq, Inhabited

namespace Reconcile

inductive Ask
  | readEndpoints (name scope : String)
  | createEndpoints (endpoints : Endpoints)
  /-- Replaces the object if it still has the version that the new one carries. -/
  | replaceEndpoints (endpoints : Endpoints)
  | memberNodes (label : String)
  | networkConfig (name : String)
  | infrastructureConfig (name : String)
  | lookup (question : Dns.Question)
  | readConditions
  | writeConditions (conditions : List Condition)
  | emit (event : Event)
  | record (sample : Metrics.Sample)
  /-- The current time. -/
  | clock
  /-- The time since the sync began. -/
  | elapsed

abbrev Ask.Answer : Ask → Type
  | .readEndpoints .. => Except SyncError (Option Endpoints)
  | .createEndpoints _ => Except SyncError Unit
  | .replaceEndpoints _ => Except SyncError Unit
  | .memberNodes _ => Except SyncError (List Node)
  | .networkConfig _ => Except SyncError Network
  | .infrastructureConfig _ => Except SyncError Infrastructure
  | .lookup question => question.Answer
  | .readConditions => Except SyncError (List Condition)
  | .writeConditions _ => Except SyncError Unit
  | .emit _ => Unit
  | .record _ => Unit
  | .clock => String
  | .elapsed => Duration

/-- Why a read of an object that is not there fails. -/
def notFound (kind : Kind) (name : String) : SyncError :=
  .storeRead (kind.definitionName ++ "/" ++ name) "not found"

/-- A dialogue with the collaborators. -/
abbrev Talk := Dialogue Ask Ask.Answer

/-- A question whose answer can be an error. -/
def checked {α : Type} (talk : Talk (Except SyncError α)) : ExceptT SyncError Talk α :=
  ExceptT.mk talk

def readEndpoints (name scope : String) : ExceptT SyncError Talk (Option Endpoints) :=
  checked (Dialogue.question (A := Ask.Answer) (.readEndpoints name scope))

def createEndpoints (e : Endpoints) : Talk (Except SyncError Unit) :=
  Dialogue.question (A := Ask.Answer) (.createEndpoints e)

def replaceEndpoints (e : Endpoints) : Talk (Except SyncError Unit) :=
  Dialogue.question (A := Ask.Answer) (.replaceEndpoints e)

def memberNodes (label : String) : ExceptT SyncError Talk (List Node) :=
  checked (Dialogue.question (A := Ask.Answer) (.memberNodes label))

def networkConfig (name : String) : ExceptT SyncError Talk Network :=
  checked (Dialogue.question (A := Ask.Answer) (.networkConfig name))

def infrastructureConfig (name : String) : ExceptT SyncError Talk Infrastructure :=
  checked (Dialogue.question (A := Ask.Answer) (.infrastructureConfig name))

def readConditions : Talk (Except SyncError (List Condition)) :=
  Dialogue.question (A := Ask.Answer) .readConditions

def writeConditions (conditions : List Condition) : Talk (Except SyncError Unit) :=
  Dialogue.question (A := Ask.Answer) (.writeConditions conditions)

def emit (event : Event) : Talk Unit := Dialogue.question (A := Ask.Answer) (.emit event)

def record (sample : Metrics.Sample) : Talk Unit :=
  Dialogue.question (A := Ask.Answer) (.record sample)

def clock : Talk String := Dialogue.question (A := Ask.Answer) .clock

def elapsed : Talk Duration := Dialogue.question (A := Ask.Answer) .elapsed

/-- Holds a dialogue with the resolver. -/
def inquire {α : Type} (inquiry : ExceptT SyncError Dns.Inquiry α) : ExceptT SyncError Talk α :=
  checked (inquiry.run.interpret fun question =>
    Dialogue.question (A := Ask.Answer) (.lookup question))

end Reconcile

end EtcdRoster
