import FrameLink.LogLevel
import FrameLink.Metrics

/-
  What a socket reports while it works.

  A report is a log line or a measure for the counters.  An
  operation lists its reports in the order in which they are
  made.  A log line is what happened; level and wording follow
  from that.

  Key definitions include:
    * `LogLine`, `LogLine.level`, `LogLine.message`
    * `Report`
    * `Report.lines`, `Report.measures`
-/

------------------------------------------------------------
-- Log Lines
------------------------------------------------------------

namespace FrameLink

/- Something that is worth a log line. -/
inductive LogLine where
  | sizeClamped
  | listening
  | listenFailed
  | packetShed
  | partlyWritten
  | wrongPeer
  | writeOverrun
  | connected
  | flushed
  | flushFailed
  | closed
  | nothingPending
  | acceptFailed
  | accepted
  | receiveFailed
  | packetReceived
  | inputOverflow
  | closeFailed
  | snapshot
  deriving DecidableEq

namespace LogLine

/- How serious a log line is. -/
def level : LogLine → LogLevel
  | .sizeClamped => .warn
  | .listening => .debug
  | .listenFailed => .error
  | .packetShed => .trace
  | .partlyWritten => .trace
  | .wrongPeer => .warn
  | .writeOverrun => .warn
  | .connected => .debug
  | .flushed => .trace
  | .flushFailed => .debug
  | .closed => .debug
  | .nothingPending => .trace
  | .acceptFailed => .error
  | .accepted => .info
  | .receiveFailed => .error
  | .packetReceived => .trace
  | .inputOverflow => .error
  | .closeFailed => .warn
  | .snapshot => .info

/- The words of a log line. -/
def message : LogLine → String
  | .sizeClamped =>
      "Max packet size beyond prefix range, clamped"
  | .listening => "Listening"
  | .listenFailed => "Listen failed"
  | .packetShed =>
      "Previous frame still draining, packet dropped"
  | .partlyWritten => "Frame partially written"
  | .wrongPeer =>
      "send_to target is not the connected peer"
  | .writeOverrun =>
      "transport reported more bytes written than queued"
  | .connected => "Connected"
  | .flushed => "Flushed"
  | .flushFailed => "Flush on writable failed"
  | .closed => "Closed"
  | .nothingPending => "No pending connection"
  | .acceptFailed => "Accept failed"
  | .accepted => "Accepted connection"
  | .receiveFailed => "Receive failed"
  | .packetReceived => "Packet received"
  | .inputOverflow => "input buffer overflow"
  | .closeFailed => "Close after overflow failed"
  | .snapshot => "Packet socket metrics snapshot"

end LogLine

------------------------------------------------------------
-- Reports
------------------------------------------------------------

/- A log line or a measure. -/
inductive Report where
  | line (line : LogLine)
  | measure (measure : Measure)
  deriving DecidableEq

namespace Report

/- The log lines among reports. -/
def lines (reports : List Report) : List LogLine :=
  reports.filterMap
    (fun
      | .line l => some l
      | .measure _ => none)

/- The measures among reports. -/
def measures (reports : List Report) : List Measure :=
  reports.filterMap
    (fun
      | .line _ => none
      | .measure m => some m)

end Report

end FrameLink
