import EtcdRoster.Data.Dict
import EtcdRoster.Dns.Member

/-!
# Fixed zones

A zone answers from tables. Lookups of chosen names can be made to fail.
-/

namespace EtcdRoster.Dns

structure Zone where
  services : Dict (List String) := .empty
  hosts : Dict (List IpAddress) := .empty
  failing : List String := []

namespace Zone

/-- Addresses that cannot be read are left out. -/
def addresses (texts : List String) : List IpAddress := texts.filterMap IpAddress.parse?

/-- The records of an etcd cluster: one target `etcd-<n>.<domain>.` for each address. -/
def cluster (domain : String) (ips : List String) : Zone :=
  let targets := ips.mapIdx fun i _ => "etcd-" ++ Nat.repr i ++ "." ++ domain ++ "."
  let hosts := (targets.zip ips).foldl
    (fun hosts (target, ip) => hosts.insert target (addresses [ip])) Dict.empty
  { services := Dict.empty.insert ("_etcd-server-ssl._tcp." ++ domain ++ ".") targets
    hosts }

def failure (name reason : String) : SyncError := .dnsFailure name reason

def service (z : Zone) (name : String) : Except SyncError (List String) :=
  if name ∈ z.failing then .error (failure name "injected failure")
  else match z.services.get? name with
    | some targets => .ok targets
    | none => .error (failure name "no records found")

def host (z : Zone) (name : String) : Except SyncError (List IpAddress) :=
  if name ∈ z.failing then .error (failure name "injected failure")
  else match z.hosts.get? name with
    | some ips => .ok ips
    | none => .error (failure name "could not resolve member")

def resolver (z : Zone) : Resolver := ⟨z.service, z.host⟩

end Zone

end EtcdRoster.Dns
