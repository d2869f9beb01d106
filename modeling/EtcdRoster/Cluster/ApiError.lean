import EtcdRoster.Cluster.Status
import EtcdRoster.Cluster.Target
import EtcdRoster.SyncError

/-!
# Failed requests

A request to the API server fails when the server refuses it with a status, when it cannot be sent,
and when the reply is not what was asked for. A code of 409 says that the object changed since it
was read, 404 that there is none.
-/

namespace EtcdRoster

/-- Why a request to the API server gave no object. -/
inductive ApiError
  /-- The server refused the request. -/
  | refused (status : Status)
  /-- The request names no object, so it is never sent. -/
  | unnamed
  /-- The request has no valid target, so it is never sent. -/
  | unsendable (fault : Cluster.Target.Fault)
  /-- The reply is not an object of the type asked for. -/
  | unreadable (misfit : Json.Misfit)
deriving DecidableEq, Inhabited, Repr

namespace ApiError

/-- A failure with a code, a reason and a message. -/
def status (code : UInt16) (reason message : String) : ApiError :=
  refused (.failure code reason message)

def text : ApiError → String
  | refused status =>
    "ApiError: " ++ status.message ++ ": " ++ status.reason ++ " (" ++ status.shown ++ ")"
  | unnamed =>
    "Failed to build request: failed to validate request: A non-empty name is required"
  | unsendable fault => "Failed to build request: failed to build request: " ++ fault.message
  | unreadable misfit => "Error deserializing response: " ++ misfit.message

/-- The code of the status, if the server refused the request. -/
def code? : ApiError → Option UInt16
  | refused status => some status.code
  | _ => none

def isNotFound (e : ApiError) : Bool := e.code? == some 404

def isConflict (e : ApiError) : Bool := e.code? == some 409

def toReadError (e : ApiError) (resource : String) : SyncError := .storeRead resource e.text

def toWriteError (e : ApiError) (resource : String) : SyncError :=
  if e.isConflict then .conflict resource e.text else .storeWrite resource e.text

end ApiError

end EtcdRoster
