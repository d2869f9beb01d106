import EtcdRoster.Json.Printer
import EtcdRoster.Settings.Arguments
import EtcdRoster.Settings.Filter

/-!
# Launching the controller

A launch reads the settings, refuses bad ones before anything is logged, and then looks for a
cluster. It has no way to find one, so a launch that gets this far ends there.
-/

namespace EtcdRoster.Launch

/-- An event of the log. -/
structure LogEvent where
  level : Logging.Level
  message : String
  fields : List (String × Json) := []

/-- The names of the fields of an event, its message among them. -/
def LogEvent.fieldNames (e : LogEvent) : List String := "message" :: e.fields.map Prod.fst

def LogEvent.toJson (e : LogEvent) : Json :=
  Json.object [
    ("level", .str e.level.name),
    ("fields", Json.object (("message", .str e.message) :: e.fields)),
    ("threadName", .str "main")]

/-- The event as a line for people. -/
def LogEvent.line (e : LogEvent) : String :=
  String.intercalate " " ([e.level.name, "main:", e.message] ++
    e.fields.map fun (name, value) => name ++ "=" ++ value.print)

/-- How a launch ends. -/
inductive Ending
  | answered (request : Settings.Request)
  | misused (misuse : Settings.Misuse)
  | refused (refusal : Settings.Refusal)
  /-- The settings are good, but there is no cluster to be found. -/
  | noCluster (format : LogFormat) (log : List LogEvent)

def programName : String := "etcd-host-endpoints"

def versionText : String := programName ++ " 0.1.0"

def Ending.code : Ending → UInt32
  | answered _ => 0
  | misused _ => 2
  | refused _ => 1
  | noCluster .. => 1

/-- What is said at the end of a failed launch. -/
def Ending.error? : Ending → Option String
  | refused refusal => some refusal.fullText
  | noCluster .. => some "Failed to infer configuration"
  | _ => none

/-- The events before the search for a cluster. -/
def events (s : Settings) : List LogEvent :=
  [{ level := .info
     message := "Starting host-etcd endpoints controller"
     fields := [("namespace", .str s.scope), ("workers", .int s.workers.toNat),
       ("max_backoff_secs", .int s.maxBackoffSecs.toNat)] },
   { level := .debug, message := "Initializing Kubernetes client" }]

def launch (arguments : List String) (env : String → Option String) : Ending :=
  match Settings.ofArguments arguments env with
  | .error (.request request) => .answered request
  | .error (.misuse misuse) => .misused misuse
  | .ok settings =>
    match settings.validate with
    | .error refusal => .refused refusal
    | .ok () =>
      let admitted := Logging.directives (env "RUST_LOG")
      .noCluster settings.logFormat
        ((events settings).filter fun e => Logging.admits admitted e.level e.fieldNames)

/-! ## Texts for people -/

def helpText : String :=
  String.intercalate "\n"
    (["Publishes the host-etcd Endpoints from node topology and etcd SRV records", "",
      "Usage: " ++ programName ++ " [OPTIONS]", "", "Options:"] ++
      (Settings.Flag.all.map fun flag =>
        "  --" ++ flag.name ++ " <VALUE>  [env: " ++ flag.variableName ++ "=]") ++
      ["  -h, --help", "  -V, --version"])

def misuseText : Settings.Misuse → String
  | .unknownArgument => "unexpected argument found"
  | .missingValue flag => "a value is required for '--" ++ flag.name ++ "' but none was supplied"
  | .badNumber flag => "invalid value for '--" ++ flag.name ++ "'"
  | .badFormat => "invalid value for '--log-format' [possible values: text, json]"
  | .repeated flag => "the argument '--" ++ flag.name ++ "' cannot be used multiple times"
  | .unwantedValue request => "unexpected value for '--" ++ request.name ++ "' found"

end EtcdRoster.Launch
