import FrameLink.Address.Text
import FrameLink.Error.Kind

/-
  Errors of a packet socket and of the stream below it.

  A stream fails with an `IoError`: a kind, and a message of
  its own where it has one.  A call on a socket fails with a
  `SocketError`, a cause with what the cause is about.  Every
  such error has an `ErrorCode`, the short form that a stream
  keeps as its last error and that a close notice carries.

  Key definitions include:
    * `IoError`
    * `IoError.message`
    * `ErrorCode`
    * `SocketError`
    * `SocketError.code`
    * `SocketError.message`
-/

------------------------------------------------------------
-- Stream Errors
------------------------------------------------------------

namespace FrameLink

/- A failure of a byte stream. -/
structure IoError where
  kind : IoKind
  note : Option String := none
  deriving DecidableEq

namespace IoError

/- The failure's own message, or else the text of its kind. -/
def message (e : IoError) : String :=
  e.note.getD e.kind.text

/- Nothing could be done right now. -/
def wouldBlock (e : IoError) : Bool :=
  e.kind = .wouldBlock

end IoError

------------------------------------------------------------
-- Error Codes
------------------------------------------------------------

/- The short form of an error. -/
inductive ErrorCode where
  | messageTooLarge
  | notConnected
  | bufferOverflow
  | io (kind : IoKind)
  deriving DecidableEq

namespace ErrorCode

/- The text shown for a code. -/
def text : ErrorCode → String
  | .messageTooLarge => "message too large"
  | .notConnected => "not connected"
  | .bufferOverflow => "buffer overflow"
  | .io kind => kind.text

end ErrorCode

------------------------------------------------------------
-- Socket Errors
------------------------------------------------------------

/- Why a call on a socket, or a configuration, failed. -/
inductive SocketError where
  | messageTooLarge (size : Nat)
  | notConnected (address : Address)
  | transportFailure (cause : IoError)
  | writeOverrun (written queued : Nat)
  | configError (reason : String)
  deriving DecidableEq

namespace SocketError

/- The code that is kept of an error. -/
def code : SocketError → ErrorCode
  | .messageTooLarge _ => .messageTooLarge
  | .notConnected _ => .notConnected
  | .transportFailure cause => .io cause.kind
  | .writeOverrun _ _ => .io .invalidData
  | .configError _ => .io .invalidInput

/- Whether the stream only could not go on right now. -/
def wouldBlock : SocketError → Bool
  | .transportFailure cause => cause.wouldBlock
  | _ => false

/- The message shown for an error. -/
def message : SocketError → String
  | .messageTooLarge size =>
      s!"Message too large: {size} bytes"
  | .notConnected address =>
      s!"Not connected to {address.toText}"
  | .transportFailure cause =>
      s!"Transport failure: {cause.message}"
  | .writeOverrun written queued =>
      s!"Transport wrote {written} bytes but only " ++
        s!"{queued} were queued"
  | .configError reason =>
      s!"Configuration error: {reason}"

end SocketError

end FrameLink
