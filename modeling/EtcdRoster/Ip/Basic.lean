/-!
# IP addresses
-/

namespace EtcdRoster

/-- An IPv4 address by its octets, an IPv6 address by its eight groups. -/
inductive IpAddress
  | v4 (a b c d : UInt8)
  | v6 (groups : Vector UInt16 8)
deriving DecidableEq, Repr

inductive IpFamily
  | v4
  | v6
deriving DecidableEq, Repr

namespace IpAddress

def family : IpAddress → IpFamily
  | .v4 .. => .v4
  | .v6 _ => .v6

def loopback4 : IpAddress := .v4 127 0 0 1

def loopback6 : IpAddress := .v6 #v[0, 0, 0, 0, 0, 0, 0, 1]

end IpAddress

/-- The name of a family in messages. -/
def IpFamily.label : IpFamily → String
  | .v4 => "tcp4"
  | .v6 => "tcp6"

end EtcdRoster
