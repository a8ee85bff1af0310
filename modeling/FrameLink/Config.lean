import FrameLink.Error
import FrameLink.Frame
import FrameLink.LogLevel

/-
  Configuration of packet sockets.

  The framing part says how large a packet may be, how many
  connections may wait at a listening socket, and what
  becomes of a connection whose input overflows.  The logging
  part names the program and says what it logs.  Every field
  has a default.

  `SocketConfig.problems` lists whatever is wrong with a
  configuration, the framing part before the logging part.

  Key definitions include:
    * `OverflowPolicy`
    * `FramingConfig`, `FramingConfig.clamped`
    * `LoggingConfig`
    * `SocketConfig`
    * `SocketConfig.problems`, `SocketConfig.check`
-/

------------------------------------------------------------
-- Framing
------------------------------------------------------------

namespace FrameLink

/- What to do when the input fills up without a frame. -/
inductive OverflowPolicy where
  /- Discard the input and keep the connection open. -/
  | reset
  /- Discard the input and close the connection. -/
  | close
  deriving DecidableEq

namespace OverflowPolicy

/- Every policy. -/
def all : List OverflowPolicy :=
  [.reset, .close]

/- The name of a policy in a configuration. -/
def name : OverflowPolicy → String
  | .reset => "reset"
  | .close => "close"

end OverflowPolicy

/- The limits of framing and the overflow policy. -/
structure FramingConfig where
  maxPacketSize : UInt64 := UInt64.ofNat Frame.maxPayload
  listenBacklog : UInt32 := 5
  overflowPolicy : OverflowPolicy := .reset
  deriving DecidableEq

namespace FramingConfig

/- The greatest packet is beyond what a frame can carry. -/
def oversized (c : FramingConfig) : Bool :=
  Frame.maxPayload < c.maxPacketSize.toNat

/- The configuration with its greatest packet made to fit. -/
def clamped (c : FramingConfig) : FramingConfig :=
  if c.oversized then
    { c with maxPacketSize := UInt64.ofNat Frame.maxPayload }
  else
    c

end FramingConfig

------------------------------------------------------------
-- Logging
------------------------------------------------------------

/- The program's name and what it logs. -/
structure LoggingConfig where
  appName : String := "packet-socket"
  logLevel : LogLevel := .info
  jsonFormat : Bool := false
  deriving DecidableEq

/- A whole configuration. -/
structure SocketConfig where
  framing : FramingConfig := {}
  logging : LoggingConfig := {}
  deriving DecidableEq

------------------------------------------------------------
-- Problems
------------------------------------------------------------

/- Something wrong with a configuration. -/
inductive ConfigProblem where
  | zeroPacketSize
  | packetSizeTooLarge (size : Nat)
  | zeroBacklog
  | backlogVeryHigh (backlog : Nat)
  | emptyAppName
  | appNameTooLong (length : Nat)
  deriving DecidableEq

namespace ConfigProblem

/- The greatest backlog that most systems do not reduce. -/
def backlogLimit : Nat := 1024

/- The greatest number of characters of a program's name. -/
def appNameLimit : Nat := 64

/- The words for a problem. -/
def message : ConfigProblem → String
  | .zeroPacketSize => "Max packet size cannot be 0"
  | .packetSizeTooLarge size =>
      s!"Max packet size too large: {size} bytes " ++
        s!"(maximum: {Frame.maxPayload})"
  | .zeroBacklog => "Listen backlog must be greater than 0"
  | .backlogVeryHigh backlog =>
      s!"Listen backlog very high: {backlog} " ++
        "(most systems cap it at SOMAXCONN)"
  | .emptyAppName => "Application name cannot be empty"
  | .appNameTooLong length =>
      s!"Application name too long: {length} characters " ++
        s!"(maximum: {appNameLimit})"

end ConfigProblem

namespace FramingConfig

/- What is wrong with the greatest packet size. -/
def packetSizeProblems
    (c : FramingConfig) : List ConfigProblem :=
  if c.maxPacketSize = 0 then
    [.zeroPacketSize]
  else if c.oversized then
    [.packetSizeTooLarge c.maxPacketSize.toNat]
  else
    []

/- What is wrong with the backlog. -/
def backlogProblems
    (c : FramingConfig) : List ConfigProblem :=
  if c.listenBacklog = 0 then
    [.zeroBacklog]
  else if
      ConfigProblem.backlogLimit <
        c.listenBacklog.toNat then
    [.backlogVeryHigh c.listenBacklog.toNat]
  else
    []

/- What is wrong with the framing part. -/
def problems (c : FramingConfig) : List ConfigProblem :=
  c.packetSizeProblems ++ c.backlogProblems

end FramingConfig

namespace LoggingConfig

/- What is wrong with the logging part. -/
def problems (c : LoggingConfig) : List ConfigProblem :=
  if c.appName.length = 0 then
    [.emptyAppName]
  else if
      ConfigProblem.appNameLimit < c.appName.length then
    [.appNameTooLong c.appName.length]
  else
    []

end LoggingConfig

namespace SocketConfig

/- What is wrong with a configuration, part after part. -/
def problems (c : SocketConfig) : List ConfigProblem :=
  c.framing.problems ++ c.logging.problems

/- A list of problems as one error. -/
def failure (problems : List ConfigProblem) : SocketError :=
  .configError
    ("Configuration validation failed:" ++
      String.join
        (problems.map (fun p => "\n  - " ++ p.message)))

/- Succeed if nothing is wrong. -/
def check (c : SocketConfig) : Except SocketError Unit :=
  match c.problems with
  | [] => .ok ()
  | problems => .error (failure problems)

end SocketConfig

end FrameLink
