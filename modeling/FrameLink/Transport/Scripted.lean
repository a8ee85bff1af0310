import FrameLink.Transport

/-
  Byte streams that answer from a script.

  A script lists, for each kind of call, the answers to be
  given one after the other.  When a list has run out, a
  listen or a close succeeds and any other call would block.
  The stream writes down the calls made on it.  It does not
  touch its last error; only its user does.

  Key definitions include:
    * `Script`, `Arrival`
    * `SendAnswer`, `ReceiveAnswer`
    * `TransportCall`
    * `Scripted`
-/

------------------------------------------------------------
-- Scripts
------------------------------------------------------------

namespace FrameLink

/- The answer to a send. -/
inductive SendAnswer where
  | fails (e : IoError)
  /- A count is claimed, whatever was offered. -/
  | claims (n : Nat)
  /- All that was offered is taken. -/
  | all

/- The answer to a receive. -/
inductive ReceiveAnswer where
  | fails (e : IoError)
  /- Bytes, of which those that do not fit are lost. -/
  | yields (bs : Bytes)

mutual

/- The answers to be given, call by call. -/
structure Script where
  remote : Option Address := none
  address : Option Address := none
  listens : List (Option IoError) := []
  accepts : List Arrival := []
  sends : List SendAnswer := []
  receives : List ReceiveAnswer := []
  closes : List (Option IoError) := []

/- The answer to an accept. -/
inductive Arrival where
  | fails (e : IoError)
  /- A connection from a peer, with a script of its own. -/
  | connects (peer : Address) (script : Script)

end

/- A call made on a transport. -/
inductive TransportCall where
  | listen (backlog : UInt32)
  | accept
  | send (offered : Bytes)
  | receive (room : Nat)
  | close

/- A stream with the rest of its script. -/
structure Scripted where
  script : Script
  lastError : Option ErrorCode := none
  /- The calls since they were last asked for. -/
  calls : List TransportCall := []

namespace Scripted

------------------------------------------------------------
-- Answering
------------------------------------------------------------

/- Write a call down. -/
def note (t : Scripted) (call : TransportCall) : Scripted :=
  { t with calls := t.calls ++ [call] }

/- Forget the calls. -/
def forgetCalls (t : Scripted) : Scripted :=
  { t with calls := [] }

/- An answer, with the stream after it. -/
def reply
    {α : Type}
    (result : Except IoError α)
    (t : Scripted) : Outcome Scripted Unit α where
  result := result
  transport := t
  world := ()

/- The result of a call that can only succeed or fail. -/
def plain : Option IoError → Except IoError Unit
  | none => .ok ()
  | some e => .error e

/- Answer a listen. -/
def listen
    (t : Scripted)
    (backlog : UInt32) : Outcome Scripted Unit Unit :=
  let t := t.note (.listen backlog)
  match t.script.listens with
  | [] => reply (.ok ()) t
  | answer :: rest =>
      reply (plain answer)
        { t with script := { t.script with listens := rest } }

/- Answer an accept. -/
def accept
    (t : Scripted) :
    Outcome Scripted Unit (Scripted × Address) :=
  let t := t.note .accept
  match t.script.accepts with
  | [] => reply (.error { kind := .wouldBlock }) t
  | answer :: rest =>
      let t :=
        { t with script := { t.script with accepts := rest } }
      match answer with
      | .fails e => reply (.error e) t
      | .connects peer script =>
          reply (.ok ({ script }, peer)) t

/- Answer a send. -/
def send
    (t : Scripted)
    (offered : Bytes) : Outcome Scripted Unit Nat :=
  let t := t.note (.send offered)
  match t.script.sends with
  | [] => reply (.error { kind := .wouldBlock }) t
  | answer :: rest =>
      let t :=
        { t with script := { t.script with sends := rest } }
      match answer with
      | .fails e => reply (.error e) t
      | .claims n => reply (.ok n) t
      | .all => reply (.ok offered.length) t

/- Answer a receive. -/
def receive
    (t : Scripted)
    (room : Nat) : Outcome Scripted Unit Bytes :=
  let t := t.note (.receive room)
  match t.script.receives with
  | [] => reply (.error { kind := .wouldBlock }) t
  | answer :: rest =>
      let t :=
        { t with script := { t.script with receives := rest } }
      match answer with
      | .fails e => reply (.error e) t
      | .yields bs => reply (.ok (bs.take room)) t

/- Answer a close. -/
def close (t : Scripted) : Outcome Scripted Unit Unit :=
  let t := t.note .close
  match t.script.closes with
  | [] => reply (.ok ()) t
  | answer :: rest =>
      reply (plain answer)
        { t with script := { t.script with closes := rest } }

------------------------------------------------------------
-- Scripted Streams as Transports
------------------------------------------------------------

instance : Transport Scripted Unit where
  listen t backlog _ := t.listen backlog
  accept t _ := t.accept
  send t offered _ := t.send offered
  receive t room _ := t.receive room
  close t _ := t.close
  remoteAddress t := t.script.remote
  localAddress t := t.script.address
  lastError := lastError
  setError t code := { t with lastError := some code }

end Scripted

end FrameLink
