/-
  Counters of what sockets do.

  A measure is one thing that happened and is counted.  The
  counters hold 64 bits each and wrap around.  What has been
  counted is the fold of `Metrics.record` over the measures.

  Key definitions include:
    * `Measure`
    * `Metrics`
    * `Metrics.record`
    * `Metrics.ofMeasures`
-/

------------------------------------------------------------
-- Measures
------------------------------------------------------------

namespace FrameLink

/- One thing that happened and is counted. -/
inductive Measure where
  | packetSent (size : UInt64)
  | packetDropped
  | rawQueued (size : UInt64)
  | packetReceived (size : UInt64)
  | bufferOverflow
  | readError
  | connectionAccepted
  | acceptError
  deriving DecidableEq

------------------------------------------------------------
-- Counters
------------------------------------------------------------

/- The counters, zero at first. -/
structure Metrics where
  packetsSent : UInt64 := 0
  bytesSent : UInt64 := 0
  packetsDropped : UInt64 := 0
  rawBytesQueued : UInt64 := 0
  packetsReceived : UInt64 := 0
  bytesReceived : UInt64 := 0
  bufferOverflows : UInt64 := 0
  readErrors : UInt64 := 0
  connectionsAccepted : UInt64 := 0
  acceptErrors : UInt64 := 0
  deriving DecidableEq

namespace Metrics

/- Count one measure. -/
def record (m : Metrics) : Measure → Metrics
  | .packetSent size =>
      { m with
        packetsSent := m.packetsSent + 1
        bytesSent := m.bytesSent + size }
  | .packetDropped =>
      { m with packetsDropped := m.packetsDropped + 1 }
  | .rawQueued size =>
      { m with rawBytesQueued := m.rawBytesQueued + size }
  | .packetReceived size =>
      { m with
        packetsReceived := m.packetsReceived + 1
        bytesReceived := m.bytesReceived + size }
  | .bufferOverflow =>
      { m with bufferOverflows := m.bufferOverflows + 1 }
  | .readError => { m with readErrors := m.readErrors + 1 }
  | .connectionAccepted =>
      { m with
        connectionsAccepted := m.connectionsAccepted + 1 }
  | .acceptError =>
      { m with acceptErrors := m.acceptErrors + 1 }

/- The counters after a run of measures from zero. -/
def ofMeasures (measures : List Measure) : Metrics :=
  measures.foldl record {}

/- The counters under the names they are reported by. -/
def entries (m : Metrics) : List (String × UInt64) :=
  [ ("packets_sent", m.packetsSent),
    ("bytes_sent", m.bytesSent),
    ("packets_dropped", m.packetsDropped),
    ("raw_bytes_queued", m.rawBytesQueued),
    ("packets_received", m.packetsReceived),
    ("bytes_received", m.bytesReceived),
    ("buffer_overflows", m.bufferOverflows),
    ("read_errors", m.readErrors),
    ("connections_accepted", m.connectionsAccepted),
    ("accept_errors", m.acceptErrors) ]

end Metrics

end FrameLink
