import FrameLink.Config.Words

/-
  Configuration from the environment.

  Four variables override fields of the default configuration.
  They are read one after the other, and the first that holds
  no value of its field makes the whole fail.  A variable that
  is not text counts as unset, and no other variable matters.

  Key definitions include:
    * `Environment`, `Environment.text?`
    * `Environment.Variable`
    * `SocketConfig.ofEnvironment`
-/

------------------------------------------------------------
-- Environments
------------------------------------------------------------

namespace FrameLink

/- Variables with the bytes that they hold. -/
abbrev Environment := List (String × Bytes)

namespace Environment

/- The text of a variable, if it is set and is text. -/
def text? (env : Environment) (name : String) :
    Option String :=
  (env.lookup name).bind
    (fun bs => String.fromUTF8? bs.toByteArray)

------------------------------------------------------------
-- Variables
------------------------------------------------------------

/- The variables that are read, in this order. -/
inductive Variable where
  | maxPacketSize
  | listenBacklog
  | overflowPolicy
  | logLevel
  deriving DecidableEq

namespace Variable

/- The variables in the order of reading. -/
def all : List Variable :=
  [.maxPacketSize, .listenBacklog, .overflowPolicy, .logLevel]

/- The name of a variable. -/
def name : Variable → String
  | .maxPacketSize => "PACKET_SOCKET_MAX_PACKET_SIZE"
  | .listenBacklog => "PACKET_SOCKET_LISTEN_BACKLOG"
  | .overflowPolicy => "PACKET_SOCKET_OVERFLOW_POLICY"
  | .logLevel => "PACKET_SOCKET_LOG_LEVEL"

/- The failure of a variable, for a given reason. -/
def invalid (v : Variable) (reason : String) : SocketError :=
  .configError s!"Invalid {v.name}: {reason}"

/- Override the field of a variable by what it holds. -/
def apply
    (v : Variable)
    (held : String)
    (c : SocketConfig) : Except SocketError SocketConfig :=
  let word := Text.trim held.toList
  let trimmed := String.ofList word
  match v with
  | .maxPacketSize =>
      match Text.readNumber (UInt64.size - 1) word with
      | .ok n =>
          .ok { c with framing.maxPacketSize := .ofNat n }
      | .error fault => .error (v.invalid fault.message)
  | .listenBacklog =>
      match Text.readNumber (UInt32.size - 1) word with
      | .ok n =>
          .ok { c with framing.listenBacklog := .ofNat n }
      | .error fault => .error (v.invalid fault.message)
  | .overflowPolicy =>
      match OverflowPolicy.ofText trimmed with
      | .ok policy =>
          .ok { c with framing.overflowPolicy := policy }
      | .error e => .error (v.invalid e.message)
  | .logLevel =>
      match LogLevel.ofText trimmed with
      | .ok level => .ok { c with logging.logLevel := level }
      | .error e => .error (v.invalid e.message)

end Variable

end Environment

------------------------------------------------------------
-- Reading the Environment
------------------------------------------------------------

namespace SocketConfig

/- Override by one variable, if it is set. -/
def override
    (env : Environment)
    (c : SocketConfig)
    (v : Environment.Variable) :
    Except SocketError SocketConfig :=
  match env.text? v.name with
  | none => .ok c
  | some held => v.apply held c

/- The defaults, overridden by the variables that are set. -/
def ofEnvironment
    (env : Environment) : Except SocketError SocketConfig :=
  Environment.Variable.all.foldlM (override env) {}

end SocketConfig

end FrameLink
