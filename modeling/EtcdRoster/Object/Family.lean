import EtcdRoster.Object.Config
import EtcdRoster.Object.Endpoints
import EtcdRoster.Object.Etcd
import EtcdRoster.Object.Node
import EtcdRoster.Object.Resource

/-!
# The objects of each kind

Every kind has its type of objects, so that a store or a question can be about any kind.
-/

namespace EtcdRoster.Kind

abbrev Object : Kind → Type
  | etcd => Etcd
  | endpoints => Endpoints
  | node => Node
  | infrastructure => Infrastructure
  | network => Network

def decode : (kind : Kind) → Json.Decoder kind.Object
  | etcd => Etcd.decode
  | endpoints => Endpoints.decode
  | node => Node.decode
  | infrastructure => Infrastructure.decode
  | network => Network.decode

def read? (kind : Kind) (j : Json) : Option kind.Object := (kind.decode j).toOption

def metadata : (kind : Kind) → kind.Object → ObjectMeta
  | etcd, o => Etcd.metadata o
  | endpoints, o => Endpoints.metadata o
  | node, o => Node.metadata o
  | infrastructure, o => Infrastructure.metadata o
  | network, o => Network.metadata o

end EtcdRoster.Kind
