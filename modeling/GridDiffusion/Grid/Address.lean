/-! Addresses of datagram sockets: a host, a port, and for the longer hosts a zone. -/
namespace GridDiffusion

inductive Host
  | ipv4 (first second third fourth : UInt8)
  | ipv6 (groups : Vector UInt16 8)
deriving DecidableEq, Repr

/-- Where a socket listens. Hosts of four octets have zone zero. -/
structure Address where
  host : Host
  port : UInt16
  zone : UInt32 := 0
deriving DecidableEq, Repr

/-- The host that programs on one machine reach each other at. -/
def Host.loopback : Host := .ipv4 127 0 0 1

end GridDiffusion
