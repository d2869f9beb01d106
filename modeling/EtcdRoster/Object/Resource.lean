/-!
# Kinds of objects

Every kind of object has a group, a version and a plural, and these make the path of its collection.
-/

namespace EtcdRoster

/-- The kinds that are watched. -/
inductive Kind
  | etcd
  | endpoints
  | node
  | infrastructure
  | network
deriving DecidableEq, Inhabited, Repr

namespace Kind

def name : Kind → String
  | etcd => "Etcd"
  | endpoints => "Endpoints"
  | node => "Node"
  | infrastructure => "Infrastructure"
  | network => "Network"

def all : List Kind := [etcd, endpoints, node, infrastructure, network]

def ofName? (name : String) : Option Kind := all.find? fun kind => kind.name == name

/-- The group; kinds of the core have none. -/
def group : Kind → String
  | etcd => "operator.openshift.io"
  | endpoints => ""
  | node => ""
  | infrastructure => "config.openshift.io"
  | network => "config.openshift.io"

def version : Kind → String := fun _ => "v1"

def plural : Kind → String
  | etcd => "etcds"
  | endpoints => "endpoints"
  | node => "nodes"
  | infrastructure => "infrastructures"
  | network => "networks"

def apiVersion (kind : Kind) : String :=
  if kind.group = "" then kind.version else kind.group ++ "/" ++ kind.version

/-- The path of all objects of the kind. -/
def clusterPath (kind : Kind) : String :=
  if kind.group = "" then "/api/" ++ kind.version ++ "/" ++ kind.plural
  else "/apis/" ++ kind.apiVersion ++ "/" ++ kind.plural

/-- The path of the objects of the kind in a namespace. -/
def scopedPath (kind : Kind) (scope : String) : String :=
  let root := if kind.group = "" then "/api/" ++ kind.version else "/apis/" ++ kind.apiVersion
  root ++ "/namespaces/" ++ scope ++ "/" ++ kind.plural

/-- The full name of the definition of the kind. -/
def definitionName (kind : Kind) : String := kind.plural ++ "." ++ kind.group

end Kind

end EtcdRoster
