import FrameLink.Transport

/-
  Byte streams in memory.

  A network holds pipes and queues.  A pipe carries bytes from
  one endpoint to another, in order, and knows when its writer
  has closed.  A queue holds connections that wait for a
  listener, with the addresses they come from.  Endpoints name
  their pipes or their queue by number, so two endpoints share
  a pipe by sharing its number.

  Each endpoint may be troubled on purpose: a window caps what
  its sends take, the next receive or accept can be made to
  fail once, and every listen from then on.

  Key definitions include:
    * `Pipe`, `Role`, `Endpoint`
    * `Network`
    * `Connector`
    * `Network.pair`, `Network.pairAddresses`
    * `Network.listener`
    * `Connector.connect`
    * `Endpoint.available`, `Endpoint.waiting`
    * `Endpoint.Operation`, `Endpoint.perform`
-/

------------------------------------------------------------
-- Networks
------------------------------------------------------------

namespace FrameLink

/- Bytes on their way, and whether more can follow. -/
structure Pipe where
  bytes : Bytes := []
  writerClosed : Bool := false
  deriving DecidableEq

/- What an endpoint is for. -/
inductive Role where
  /- One end of a connection: a pipe in and a pipe out. -/
  | stream (inbound outbound : Nat)
  /- A listener: the queue of connections that wait. -/
  | listener (queue : Nat) (listening : Bool)
  deriving DecidableEq

/- One end of a connection in memory, or a listener. -/
structure Endpoint where
  role : Role
  address : Address
  peer : Option Address
  closed : Bool := false
  /- How many more bytes the sends may take. -/
  window : Option Nat := none
  lastError : Option ErrorCode := none
  failNextReceive : Option IoKind := none
  failNextAccept : Option IoKind := none
  failListen : Option IoKind := none
  deriving DecidableEq

/- The pipes and the queues that endpoints share. -/
structure Network where
  pipes : Array Pipe := #[]
  queues : Array (List (Endpoint × Address)) := #[]

namespace Network

/- The pipe of a given number. -/
def pipe (net : Network) (i : Nat) : Pipe :=
  net.pipes.getD i {}

/- Change one pipe. -/
def changePipe
    (net : Network)
    (i : Nat)
    (f : Pipe → Pipe) : Network :=
  { net with pipes := net.pipes.modify i f }

/- The queue of a given number. -/
def queue
    (net : Network)
    (i : Nat) : List (Endpoint × Address) :=
  net.queues.getD i []

/- Change one queue. -/
def changeQueue
    (net : Network)
    (i : Nat)
    (f : List (Endpoint × Address) →
      List (Endpoint × Address)) : Network :=
  { net with queues := net.queues.modify i f }

------------------------------------------------------------
-- Making Endpoints
------------------------------------------------------------

/- The addresses of a pair for which none are given. -/
def pairAddresses : Address × Address :=
  (.loopback 40001, .loopback 40002)

/-
  Two connected endpoints with given addresses, over two new
  pipes.
-/
def pair
    (net : Network)
    (a b : Address) : (Endpoint × Endpoint) × Network :=
  let n := net.pipes.size
  let left : Endpoint :=
    { role := .stream (n + 1) n, address := a, peer := some b }
  let right : Endpoint :=
    { role := .stream n (n + 1), address := b, peer := some a }
  ((left, right),
    { net with pipes := (net.pipes.push {}).push {} })

end Network

/- Opens connections to a listener. -/
structure Connector where
  address : Address
  queue : Nat
  deriving DecidableEq

namespace Network

/-
  An endpoint that can listen at an address, and a connector
  to it.
-/
def listener
    (net : Network)
    (address : Address) :
    (Endpoint × Connector) × Network :=
  let n := net.queues.size
  let endpoint : Endpoint :=
    { role := .listener n false, address, peer := none }
  ((endpoint, { address, queue := n }),
    { net with queues := net.queues.push [] })

end Network

namespace Connector

/-
  Open a connection from an address: its far end waits in the
  queue of the listener, its near end is the result.
-/
def connect
    (connector : Connector)
    (origin : Address)
    (net : Network) : Endpoint × Network :=
  let ((near, far), net) := net.pair origin connector.address
  (near,
    net.changeQueue connector.queue (· ++ [(far, origin)]))

end Connector

------------------------------------------------------------
-- Operations of Endpoints
------------------------------------------------------------

namespace Endpoint

/- Fail with a kind, and keep it as the last error. -/
def fail
    {α : Type}
    (e : Endpoint)
    (kind : IoKind)
    (net : Network) : Outcome Endpoint Network α where
  result := .error { kind }
  transport := { e with lastError := some (.io kind) }
  world := net

/- Fail as nothing could be done, and keep no error. -/
def stall
    {α : Type}
    (e : Endpoint)
    (net : Network) : Outcome Endpoint Network α where
  result := .error { kind := .wouldBlock }
  transport := e
  world := net

/- Succeed, with the endpoint and the network afterwards. -/
def succeed
    {α : Type}
    (e : Endpoint)
    (value : α)
    (net : Network) : Outcome Endpoint Network α where
  result := .ok value
  transport := e
  world := net

/- Begin to listen; only a listener can. -/
def listen
    (e : Endpoint)
    (net : Network) : Outcome Endpoint Network Unit :=
  match e.failListen, e.role with
  | some kind, _ => e.fail kind net
  | none, .listener queue _ =>
      succeed { e with role := .listener queue true } () net
  | none, .stream _ _ => e.fail .invalidInput net

/- Take the connection that has waited longest. -/
def accept
    (e : Endpoint)
    (net : Network) :
    Outcome Endpoint Network (Endpoint × Address) :=
  match e.failNextAccept with
  | some kind =>
      fail { e with failNextAccept := none } kind net
  | none =>
      match e.role with
      | .listener queue true =>
          match net.queue queue with
          | [] => e.stall net
          | connection :: _ =>
              e.succeed connection
                (net.changeQueue queue List.tail)
      | _ => e.fail .invalidInput net

/- What is left of a window after a number of bytes. -/
def narrow (e : Endpoint) (n : Nat) : Endpoint :=
  { e with window := e.window.map (· - n) }

/- Write into the outgoing pipe, as far as the window goes. -/
def send
    (e : Endpoint)
    (bs : Bytes)
    (net : Network) : Outcome Endpoint Network Nat :=
  match e.closed, e.role with
  | true, _ => e.fail .notConnected net
  | false, .listener _ _ => e.fail .notConnected net
  | false, .stream _ outbound =>
      if e.window = some 0 ∧ bs ≠ [] then
        e.stall net
      else
        let n := min bs.length (e.window.getD bs.length)
        (e.narrow n).succeed n
          (net.changePipe outbound
            (fun p => { p with bytes := p.bytes ++ bs.take n }))

/-
  Read from the incoming pipe.  An empty pipe ends the stream
  when its writer has closed, and else has nothing yet.
-/
def receive
    (e : Endpoint)
    (room : Nat)
    (net : Network) : Outcome Endpoint Network Bytes :=
  match e.failNextReceive with
  | some kind =>
      fail { e with failNextReceive := none } kind net
  | none =>
      match e.closed, e.role with
      | true, _ => e.fail .notConnected net
      | false, .listener _ _ => e.fail .notConnected net
      | false, .stream inbound _ =>
          let pipe := net.pipe inbound
          if room = 0 then
            e.succeed [] net
          else if pipe.bytes = [] then
            if pipe.writerClosed then
              e.succeed [] net
            else
              e.stall net
          else
            e.succeed (pipe.bytes.take room)
              (net.changePipe inbound
                (fun p =>
                  { p with bytes := p.bytes.drop room }))

/- Close; the peer may still read what was written. -/
def close
    (e : Endpoint)
    (net : Network) : Outcome Endpoint Network Unit :=
  let net :=
    match e.role with
    | .stream _ outbound =>
        net.changePipe outbound
          (fun p => { p with writerClosed := true })
    | .listener _ _ => net
  succeed { e with closed := true } () net

/- The bytes that wait to be read. -/
def available (e : Endpoint) (net : Network) : Nat :=
  match e.role with
  | .stream inbound _ => (net.pipe inbound).bytes.length
  | .listener _ _ => 0

/- The connections that wait to be taken. -/
def waiting (e : Endpoint) (net : Network) : Nat :=
  match e.role with
  | .stream _ _ => 0
  | .listener queue _ => (net.queue queue).length

/- The endpoint takes connections. -/
def isListening (e : Endpoint) : Bool :=
  match e.role with
  | .listener _ listening => listening
  | .stream _ _ => false

/- Something that is done with an endpoint. -/
inductive Operation where
  | listen
  | accept
  | send (bs : Bytes)
  | receive (room : Nat)
  | close
  | setError (code : ErrorCode)
  | setWindow (window : Option Nat)
  | failNextReceive (kind : IoKind)
  | failNextAccept (kind : IoKind)
  | failListen (kind : IoKind)
  deriving DecidableEq

/- What an operation results in. -/
inductive Result where
  | done (result : Except IoError Unit)
  | accepted (result : Except IoError (Endpoint × Address))
  | sent (result : Except IoError Nat)
  | received (result : Except IoError Bytes)
  /- The endpoint was changed, which never fails. -/
  | changed

/- What an operation comes to. -/
structure Effect where
  result : Result
  endpoint : Endpoint
  network : Network

/- An outcome as an effect. -/
def effect
    {α : Type}
    (f : Except IoError α → Result)
    (o : Outcome Endpoint Network α) : Effect :=
  ⟨f o.result, o.transport, o.world⟩

/- Do one thing with an endpoint. -/
def perform
    (e : Endpoint)
    (operation : Operation)
    (net : Network) : Effect :=
  match operation with
  | .listen => effect .done (e.listen net)
  | .accept => effect .accepted (e.accept net)
  | .send bs => effect .sent (e.send bs net)
  | .receive room => effect .received (e.receive room net)
  | .close => effect .done (e.close net)
  | .setError code =>
      ⟨.changed, { e with lastError := some code }, net⟩
  | .setWindow window => ⟨.changed, { e with window }, net⟩
  | .failNextReceive kind =>
      ⟨.changed, { e with failNextReceive := some kind }, net⟩
  | .failNextAccept kind =>
      ⟨.changed, { e with failNextAccept := some kind }, net⟩
  | .failListen kind =>
      ⟨.changed, { e with failListen := some kind }, net⟩

------------------------------------------------------------
-- Endpoints as Transports
------------------------------------------------------------

instance : Transport Endpoint Network where
  listen e _ net := e.listen net
  accept := accept
  send := send
  receive := receive
  close := close
  remoteAddress := peer
  localAddress e := some e.address
  lastError := lastError
  setError e code := { e with lastError := some code }

end Endpoint

end FrameLink
