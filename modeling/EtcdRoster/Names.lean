/-!
# Fixed names

The names under which the cluster knows the published object, the member nodes, the configuration
and the reports of this controller.
-/

namespace EtcdRoster.Names

/-- The published object. -/
def published : String := "host-etcd"

/-- The namespace of the published object, unless another one is chosen. -/
def defaultScope : String := "openshift-etcd"

def portName : String := "etcd"

def clientPort : Int32 := 2379

def portProtocol : String := "TCP"

/-- The short host name of the temporary member that starts the cluster. -/
def bootstrapHost : String := "etcd-bootstrap"

/-- The objects that describe the cluster as a whole. -/
def cluster : String := "cluster"

/-- The label of nodes that run an etcd member. -/
def memberLabel : String := "node-role.kubernetes.io/master"

/-- The annotation that records the discovery domain. -/
def domainAnnotation : String := "alpha.installer.openshift.io/dns-suffix"

/-- The type of the node addresses that members are reached at. -/
def internalAddress : String := "InternalIP"

/-- The one key that every change puts into the work queue. -/
def workKey : String := "key"

def reporter : String := "host-etcd-endpoints-controller"

/-! ## Reports -/

/-- The condition of this controller. -/
def degraded : String := "HostEndpointsDegraded"

def conditionTrue : String := "True"

def conditionFalse : String := "False"

/-- The published object matches the membership. -/
def updatedReason : String := "HostEndpointsUpdated"

/-- The last sync failed. -/
def errorReason : String := "ErrorUpdatingHostEndpoints"

def createdEvent : String := "EndpointsCreated"

def createFailedEvent : String := "EndpointsCreateFailed"

def updatedEvent : String := "EndpointsUpdated"

def updateFailedEvent : String := "EndpointsUpdateFailed"

def statusFailedEvent : String := "HostEndpointsErrorUpdatingStatus"

end EtcdRoster.Names
