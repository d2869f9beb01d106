import EtcdRoster.Duration
import EtcdRoster.Ip.Text
import EtcdRoster.Metrics.Server
import EtcdRoster.Names
import EtcdRoster.Text.Ranges

/-!
# Settings

How the controller is set up, and which settings it refuses to run with.
-/

namespace EtcdRoster

inductive LogFormat
  | text
  | json
deriving DecidableEq, Inhabited, Repr

structure Settings where
  /-- The namespace of the published object. -/
  scope : String := Names.defaultScope
  workers : UInt64 := 1
  /-- The ceiling of the delay before a failed key is tried again. -/
  maxBackoffSecs : UInt64 := 1000
  metricsPort : UInt16 := Metrics.defaultPort
  metricsAddress : String := Metrics.defaultAddress
  logFormat : LogFormat := .text
deriving DecidableEq, Inhabited

namespace Settings

/-- Why settings are refused. -/
inductive Refusal
  | blankScope
  | noWorkers
  | noBackoff
  | badAddress (address : String)
deriving DecidableEq, Inhabited, Repr

def Refusal.message : Refusal → String
  | blankScope => "namespace must not be empty"
  | noWorkers => "workers must be at least 1"
  | noBackoff => "max-backoff-secs must be at least 1"
  | badAddress address => "invalid metrics bind address " ++ address

/-- What lies behind a refusal, if it has a cause of its own. -/
def Refusal.cause? : Refusal → Option String
  | badAddress _ => some "invalid IP address syntax"
  | _ => none

/-- The message with its cause in a paragraph below. -/
def Refusal.fullText (r : Refusal) : String :=
  match r.cause? with
  | some cause => r.message ++ "\n\nCaused by:\n    " ++ cause
  | none => r.message

def maxBackoff (s : Settings) : Duration := .ofSecs s.maxBackoffSecs

/-- The address and port that metrics are served on. -/
def metricsSocket (s : Settings) : Except Refusal (IpAddress × UInt16) :=
  match IpAddress.parse? s.metricsAddress with
  | some ip => .ok (ip, s.metricsPort)
  | none => .error (.badAddress s.metricsAddress)

/-- Refuses settings that the controller cannot run with. -/
def validate (s : Settings) : Except Refusal Unit :=
  if Text.allBlank s.scope then .error .blankScope
  else if s.workers = 0 then .error .noWorkers
  else if s.maxBackoffSecs = 0 then .error .noBackoff
  else s.metricsSocket.map fun _ => ()

end Settings

end EtcdRoster
