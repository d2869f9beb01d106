import EtcdRoster.Object.Meta

/-!
# Nodes

A node reports its addresses in its status, each with a type such as `InternalIP`.
-/

namespace EtcdRoster

open Json Json.Record

structure NodeAddress where
  type : String := ""
  address : String := ""
deriving DecidableEq, Inhabited

structure NodeStatus where
  addresses : Option (List NodeAddress) := none
deriving DecidableEq, Inhabited

structure Node where
  metadata : ObjectMeta := {}
  status : Option NodeStatus := none
deriving DecidableEq, Inhabited

def NodeAddress.decode : Json.Decoder NodeAddress :=
  decoder "NodeAddress" <|
    NodeAddress.mk <$> lenient "" text "type"
      <*> lenient "" text "address"

def NodeStatus.decode : Json.Decoder NodeStatus :=
  decoder "NodeStatus" <|
    NodeStatus.mk <$> optional (list NodeAddress.decode) "addresses"

namespace Node

def decode : Json.Decoder Node :=
  decoder "Node" <|
    (fun _ _ => Node.mk) <$> constant "v1" "apiVersion"
      <*> constant "Node" "kind"
      <*> lenient {} ObjectMeta.decode "metadata"
      <*> optional NodeStatus.decode "status"

def ofJson? (j : Json) : Option Node := (Node.decode j).toOption

/-- The addresses that the node reports, in its order. -/
def addresses (n : Node) : List NodeAddress := (n.status.bind (·.addresses)).getD []

end Node

end EtcdRoster
