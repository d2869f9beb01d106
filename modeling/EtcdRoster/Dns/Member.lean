import EtcdRoster.Dialogue
import EtcdRoster.Dns.Name
import EtcdRoster.Ip.Text
import EtcdRoster.SyncError

/-!
# Who a member is

Every etcd member advertises itself as a target of the service record
`_<service>._<proto>.<domain>.`. The name of the member at an address is the target that resolves to
this address. All targets are looked up: a lookup that fails ends the search even after a match, and
of several matches the last one counts.
-/

namespace EtcdRoster.Dns

/-! ## Questions -/

/-- A question to a resolver. -/
inductive Question
  /-- The targets of a service. -/
  | service (name : String)
  /-- The addresses of a host. -/
  | host (name : String)
deriving DecidableEq, Inhabited

abbrev Question.Answer : Question → Type
  | .service _ => Except SyncError (List String)
  | .host _ => Except SyncError (List IpAddress)

/-- A dialogue with a resolver. -/
abbrev Inquiry := Dialogue Question Question.Answer

/-- A resolver with fixed answers. -/
structure Resolver where
  service : String → Except SyncError (List String)
  host : String → Except SyncError (List IpAddress)

def Resolver.answer (r : Resolver) : (q : Question) → q.Answer
  | .service name => r.service name
  | .host name => r.host name

def askService (name : String) : ExceptT SyncError Inquiry (List String) :=
  ExceptT.mk (Dialogue.question (A := Question.Answer) (.service name))

def askHost (name : String) : ExceptT SyncError Inquiry (List IpAddress) :=
  ExceptT.mk (Dialogue.question (A := Question.Answer) (.host name))

/-! ## The query -/

def etcdService : String := "etcd-server-ssl"

def etcdProto : String := "tcp"

/-- The text of a service name; dots at the end of the domain do not count. -/
def serviceText (service proto domain : String) : String :=
  "_" ++ service ++ "._" ++ proto ++ "." ++ String.ofList (Text.trimEnd '.' domain.toList)

/-- The absolute name under which a service is looked up. -/
def serviceName (service proto domain : String) : Except SyncError Name :=
  let text := serviceText service proto domain
  match Name.ofText text.toList with
  | .ok name => .ok { name with absolute := true }
  | .error e => .error (.dnsFailure text ("invalid SRV name: " ++ e.message))

/-! ## The search -/

/-- Looks every target up and keeps the last one that resolves to the address. -/
def lastMatch (ip : IpAddress) (found : Option String) :
    List String → ExceptT SyncError Inquiry (Option String)
  | [] => pure found
  | target :: rest => do
    let addresses ← askHost target
    if addresses.contains ip then lastMatch ip (some target) rest
    else lastMatch ip found rest

/-- The name of the member at an address, without dots at its ends. -/
def resolveMember (service proto domain : String) (ip : IpAddress) :
    ExceptT SyncError Inquiry String := do
  let query := String.ofList (← liftExcept (serviceName service proto domain)).text
  let targets ← askService query
  match ← lastMatch ip none targets with
  | some target => return String.ofList (Text.trimBoth '.' target.toList)
  | none => throw (.selfNotFound query ip.text)
where
  liftExcept {α : Type} (r : Except SyncError α) : ExceptT SyncError Inquiry α :=
    ExceptT.mk (pure r)

/-- A name without the discovery domain and the dot before it; a name outside the domain stays. -/
def stripDomain (name domain : String) : String :=
  match Text.dropEnding? ('.' :: domain.toList) name.toList with
  | some rest => String.ofList rest
  | none => name

end EtcdRoster.Dns
