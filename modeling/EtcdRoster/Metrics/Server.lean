import EtcdRoster.Metrics.Exposition
import EtcdRoster.Text.Split

/-!
# Serving metrics

The metrics are served under one path to GET and HEAD. The server runs until it is told to stop.
-/

namespace EtcdRoster.Metrics

/-! ## Requests -/

structure Response where
  status : Nat
  contentType : Option String := none
  allow : Option String := none
  body : String := ""

def servedPath : String := "/metrics"

def defaultPort : UInt16 := 8080

def defaultAddress : String := "0.0.0.0"

def contentType : String := "text/plain; version=0.0.4"

/-- The path of a request target: what comes up to the query, without a scheme and a host in front
of it. A target that begins with a slash has neither. -/
def targetPath (target : String) : String :=
  let path := target.toList.takeWhile fun c => c ≠ '?' && c ≠ '#'
  match path, Text.cut? "://".toList path with
  | '/' :: _, _ => String.ofList path
  | _, some (_, rest) =>
    let path := rest.dropWhile (· ≠ '/')
    if path.isEmpty then "/" else String.ofList path
  | _, none => String.ofList path

def Registry.respond (r : Registry) (method target : String) : Response :=
  if targetPath target ≠ servedPath then { status := 404 }
  else if method = "GET" then { status := 200, contentType := some contentType, body := r.text }
  else if method = "HEAD" then { status := 200, contentType := some contentType }
  else { status := 405, allow := some "GET,HEAD" }

/-! ## Life of the server -/

/-- What the server hears about stopping: the last value set, as long as somebody can set it. -/
structure Signal where
  stop : Bool
  connected : Bool := true

inductive Signal.Change
  | set (stop : Bool)
  | disconnect

def Signal.change (s : Signal) : Signal.Change → Signal
  | .set stop => if s.connected then { s with stop } else s
  | .disconnect => { s with connected := false }

inductive Server
  | serving (signal : Signal)
  | stopped
  | failed (reason : String)

namespace Server

/-- A server stops when told to, and when nobody is left to tell it. -/
def settle (signal : Signal) : Server :=
  if signal.stop || !signal.connected then .stopped else .serving signal

/-- Starts the server, which fails on an address that somebody listens on already. -/
def start (taken : Bool) (signal : Signal) : Server :=
  if taken then .failed "Address already in use (os error 98)" else settle signal

def hear (server : Server) (change : Signal.Change) : Server :=
  match server with
  | .serving signal => settle (signal.change change)
  | ended => ended

end Server

end EtcdRoster.Metrics
