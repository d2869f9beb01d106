import EtcdRoster.Settings.Launch

/-!
# The command line
-/

open EtcdRoster

/-- The variables of the environment that count. -/
def environment : IO (String → Option String) := do
  let names := "RUST_LOG" :: Settings.Flag.all.map Settings.Flag.variableName
  let values ← names.mapM fun name => return (name, ← IO.getEnv name)
  return fun name => (values.lookup name).join

def main (arguments : List String) : IO UInt32 := do
  let ending := Launch.launch arguments (← environment)
  match ending with
  | .answered .help => IO.println Launch.helpText
  | .answered .version => IO.println Launch.versionText
  | .misused misuse => IO.eprintln ("error: " ++ Launch.misuseText misuse)
  | .refused _ => pure ()
  | .noCluster format log =>
    for event in log do
      IO.println (match format with
        | .json => event.toJson.print
        | .text => event.line)
  match ending.error? with
  | some text => IO.eprintln ("Error: " ++ text)
  | none => pure ()
  return ending.code
