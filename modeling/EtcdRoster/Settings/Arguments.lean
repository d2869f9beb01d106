import EtcdRoster.Settings.Basic
import EtcdRoster.Text.Digits

/-!
# Settings from the command line

Every setting has a flag `--name value` or `--name=value`, and a variable of the environment that
counts if the flag is absent. Arguments are read from left to right. The value of a flag is only
checked when the next known flag or the end is reached, so an unknown argument behind it is noticed
first; a request for help or for the version ends the reading at once.
-/

namespace EtcdRoster.Settings

inductive Flag
  | scope
  | workers
  | maxBackoffSecs
  | metricsPort
  | metricsAddress
  | logFormat
deriving DecidableEq, Inhabited, Repr

namespace Flag

def name : Flag → String
  | scope => "namespace"
  | workers => "workers"
  | maxBackoffSecs => "max-backoff-secs"
  | metricsPort => "metrics-port"
  | metricsAddress => "metrics-bind-address"
  | logFormat => "log-format"

/-- The variable of the environment that stands in for the flag. -/
def variableName : Flag → String
  | scope => "TARGET_NAMESPACE"
  | workers => "WORKERS"
  | maxBackoffSecs => "MAX_BACKOFF_SECS"
  | metricsPort => "METRICS_PORT"
  | metricsAddress => "METRICS_BIND_ADDRESS"
  | logFormat => "RUST_LOG_FORMAT"

def all : List Flag := [scope, workers, maxBackoffSecs, metricsPort, metricsAddress, logFormat]

def ofName? (name : String) : Option Flag := all.find? fun flag => flag.name == name

end Flag

/-- What can be asked for instead of a run. -/
inductive Request
  | help
  | version
deriving DecidableEq, Inhabited, Repr

def Request.name : Request → String
  | help => "help"
  | version => "version"

/-- The names of all long options, in the order in which help lists them. -/
def optionNames : List String :=
  Flag.all.map Flag.name ++ [Request.help, .version].map Request.name

/-- What is wrong with a command line or with the environment. -/
inductive Misuse
  | unknownArgument
  | missingValue (flag : Flag)
  | badNumber (flag : Flag)
  | badFormat
  | repeated (flag : Flag)
  /-- A request takes no value. -/
  | unwantedValue (request : Request)
deriving DecidableEq, Inhabited, Repr

/-- Why reading the arguments ends without settings. -/
inductive Interruption
  | request (request : Request)
  | misuse (misuse : Misuse)
deriving DecidableEq, Inhabited, Repr

/-! ## Values -/

/-- A port number; zero may have a minus sign. -/
def port? (text : List Char) : Option Nat :=
  match text with
  | '-' :: digits => if digits.head? = some '+' then none else (Text.natBelow? 1 digits)
  | _ => Text.natBelow? UInt16.size text

/-- A format is known by its name in any case. -/
def logFormat? (text : String) : Option LogFormat :=
  match text.map Char.toLower with
  | "text" => some .text
  | "json" => some .json
  | _ => none

/-- Gives a setting its value. -/
def put (s : Settings) (flag : Flag) (text : String) : Except Misuse Settings :=
  match flag with
  | .scope => .ok { s with scope := text }
  | .workers => number (Text.natBelow? UInt64.size text.toList) fun n => { s with workers := .ofNat n }
  | .maxBackoffSecs =>
    number (Text.natBelow? UInt64.size text.toList) fun n => { s with maxBackoffSecs := .ofNat n }
  | .metricsPort => number (port? text.toList) fun n => { s with metricsPort := .ofNat n }
  | .metricsAddress => .ok { s with metricsAddress := text }
  | .logFormat =>
    match logFormat? text with
    | some logFormat => .ok { s with logFormat }
    | none => .error .badFormat
where
  number (n : Option Nat) (f : Nat → Settings) : Except Misuse Settings :=
    match n with
    | some n => .ok (f n)
    | none => .error (.badNumber flag)

/-! ## Arguments -/

/-- The settings so far, the flags that gave them, and a flag whose value is yet to be checked or
yet to come. -/
structure Reading where
  settings : Settings := {}
  given : List Flag := []
  pending : Option (Flag × Option String) := none

namespace Reading

/-- Takes the value of a flag that was not given before. -/
def take (r : Reading) (flag : Flag) (text : String) : Except Misuse Reading :=
  if flag ∈ r.given then .error (.repeated flag)
  else do return { settings := ← r.settings.put flag text, given := flag :: r.given }

/-- Checks the value that is pending. -/
def settle (r : Reading) : Except Misuse Reading :=
  match r.pending with
  | none => .ok r
  | some (flag, none) => .error (.missingValue flag)
  | some (flag, some text) => { r with pending := none }.take flag text

/-- Takes an argument that is no flag. -/
def value (r : Reading) (text : String) : Except Misuse Reading :=
  match r.pending with
  | some (flag, none) => .ok { r with pending := some (flag, some text) }
  | _ => .error .unknownArgument

/-- Takes a long option. -/
def long (r : Reading) (name : String) (attached : Option String) : Except Interruption Reading :=
  match [Request.help, .version].find? fun request => request.name == name with
  | some request =>
    match attached with
    | some _ => .error (.misuse (.unwantedValue request))
    | none => do
      let _ ← r.settle.mapError .misuse
      .error (.request request)
  | none =>
    match Flag.ofName? name with
    | none => .error (.misuse .unknownArgument)
    | some flag => do
      let r ← r.settle.mapError .misuse
      match attached with
      | some text => (r.take flag text).mapError .misuse
      | none => return { r with pending := some (flag, none) }

/-- Takes short options; only the first one matters, because each of them ends the reading. -/
def short (r : Reading) (letter : Char) : Except Interruption Reading :=
  match letter with
  | 'h' => r.long Request.help.name none
  | 'V' => r.long Request.version.name none
  | _ => .error (.misuse .unknownArgument)

/-- Takes one argument that is not the end of the options. -/
def argument (r : Reading) (text : String) : Except Interruption Reading :=
  match text.toList with
  | '-' :: '-' :: body =>
    match Text.cut? ['='] body with
    | some (name, attached) => r.long (String.ofList name) (some (String.ofList attached))
    | none => r.long (String.ofList body) none
  | '-' :: letter :: _ => r.short letter
  | _ => (r.value text).mapError .misuse

/-- Takes all arguments. Behind `--` there may be none. -/
def arguments (r : Reading) : List String → Except Interruption Reading
  | [] => r.settle.mapError .misuse
  | text :: rest =>
    if text = "--" then
      if rest.isEmpty then r.settle.mapError .misuse
      else .error (.misuse .unknownArgument)
    else do arguments (← r.argument text) rest

/-- Takes the value of a flag that was not given from the environment. -/
def fromVariable (env : String → Option String) (s : Settings) (flag : Flag) (given : List Flag) :
    Except Misuse Settings :=
  if flag ∈ given then .ok s
  else match env flag.variableName with
    | some text => s.put flag text
    | none => .ok s

end Reading

/-- The settings that arguments and environment give. -/
def ofArguments (arguments : List String) (env : String → Option String) :
    Except Interruption Settings := do
  let r ← Reading.arguments {} arguments
  let settings :=
    Flag.all.foldlM (fun s flag => Reading.fromVariable env s flag r.given) r.settings
  settings.mapError .misuse

end EtcdRoster.Settings
