import EtcdRoster.Dns.Label
import EtcdRoster.Dns.Member

/-!
# Names that need no name server

A resolver of the system answers some names by itself. An address literal is its own address,
`localhost.` and all names below it are the two loopback addresses, and there is nothing at or below
`invalid.` and `onion.`. No service records exist under any of these. Labels may be in any script.
-/

namespace EtcdRoster.Dns.Reserved

/-- What the options of a system resolver come to: both families are asked for and nothing is
remembered. -/
structure Options where
  ndots : Nat
  attempts : Nat
  cacheSize : Nat
  bothFamilies : Bool
deriving DecidableEq, Inhabited

def Options.forMembers (o : Options) : Options := { o with cacheSize := 0, bothFamilies := true }

/-- The last label in lower case. -/
def topLabel (name : Name) : List Char := (name.labels.getLast?.getD []).map Char.toLower

/-- The name that a text in any script stands for. -/
def nameOf (text : String) : Except NameError Name := Name.read Label.keep text.toList

/-- The text of a name with each label in its own script. -/
def shown (name : Name) : String :=
  String.ofList { name with labels := name.labels.map Label.shown }.text

/-- The reason given when a name has no record of a type. -/
def noRecord (name : Name) (type : String) : String :=
  "no record found for Query \x7b name: Name(\"" ++ shown name ++ "\"), query_type: " ++ type
    ++ ", query_class: IN \x7d"

def nameReason (e : NameError) : String := "proto error: " ++ e.message

def hostPrefix : String := "could not resolve member: "

def host (text : String) : Except SyncError (List IpAddress) :=
  match IpAddress.parse? text with
  | some ip => .ok [ip]
  | none =>
    match nameOf text with
    | .error e => .error (.dnsFailure text (hostPrefix ++ nameReason e))
    | .ok name =>
      if topLabel name = "localhost".toList then .ok [.loopback4, .loopback6]
      else .error (.dnsFailure text (hostPrefix ++ noRecord name "A"))

def service (text : String) : Except SyncError (List String) :=
  match nameOf text with
  | .error e => .error (.dnsFailure text (nameReason e))
  | .ok name => .error (.dnsFailure text (noRecord name "SRV"))

end EtcdRoster.Dns.Reserved
