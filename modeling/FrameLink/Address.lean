/-
  Addresses of the two ends of a connection.

  An address is an IP address with a port: four octets, or
  eight groups of sixteen bits together with a numeric scope,
  zero when none is given.  All parts take part in equality.

  Key definitions include:
    * `IpAddress`
    * `Address`
    * `Address.loopback`
-/

------------------------------------------------------------
-- Addresses
------------------------------------------------------------

namespace FrameLink

/- The part of an address that names a machine. -/
inductive IpAddress where
  | v4 (a b c d : UInt8)
  | v6 (groups : Vector UInt16 8) (scope : UInt32)
  deriving DecidableEq

/- A machine and a port on it. -/
structure Address where
  ip : IpAddress
  port : UInt16
  deriving DecidableEq

namespace Address

/- A port of the local machine. -/
def loopback (port : UInt16) : Address :=
  ⟨.v4 127 0 0 1, port⟩

instance : Inhabited Address :=
  ⟨loopback 0⟩

end Address

end FrameLink
