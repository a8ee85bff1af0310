import FrameLink.Socket.Operation
import FrameLink.Transport.Memory
import FrameLink.Transport.Scripted

/-
  A bench on which sockets are driven by hand.

  A bench has slots with names.  A slot holds an endpoint in
  memory, a connector, or a packet socket over an endpoint or
  over a scripted stream.  Commands act on slots, one after
  the other, and each gives an answer and the log lines that
  were written on the way.

  Sockets on a bench add to counters that are numbered.  The
  first counters are those that are shared by default; a
  socket can also be given counters of its own, or counters
  shared under a name.

  Key definitions include:
    * `Slot`, `Bench`
    * `Counters`, `SocketPlan`
    * `Command`, `Notice`, `Answer`
    * `Bench.run`
-/

------------------------------------------------------------
-- Slots and Counters
------------------------------------------------------------

namespace FrameLink

/- What a slot holds. -/
inductive Slot where
  | endpoint (e : Endpoint)
  | connector (c : Connector)
  | socket (s : Socket Endpoint)
  | scripted (s : Socket Scripted)

namespace Slot

/-
  Forget the calls of a scripted stream, once they have been
  shown.
-/
def forgetCalls : Slot → Slot
  | .scripted s =>
      .scripted { s with transport := s.transport.forgetCalls }
  | slot => slot

end Slot

/- The counters that a new socket is to add to. -/
inductive Counters where
  /- Counters that nothing else has. -/
  | own
  /- The counters shared by default. -/
  | global
  /- Counters shared under a name. -/
  | named (name : String)
  deriving DecidableEq

/- Slots, the network behind them, and all counters. -/
structure Bench where
  slots : List (String × Slot) := []
  network : Network := {}
  nextId : SocketId := ⟨1⟩
  meters : Array Metrics := #[{}]
  meterNames : List (String × Nat) := []

------------------------------------------------------------
-- Commands and Answers
------------------------------------------------------------

/- How a socket is to be made. -/
structure SocketPlan where
  listener : Bool := false
  framing : FramingConfig := {}
  counters : Counters := .own

/- A command to the bench. -/
inductive Command where
  | pair (a b : String) (addresses : Address × Address)
  | listener (address : Address) (slot connector : String)
  | script (slot : String) (script : Script)
      (plan : SocketPlan)
  | connect (slot : String) (origin : Address)
      (near : String)
  | wrap (slot : String) (plan : SocketPlan)
  | unwrap (slot : String)
  | drop (slot : String)
  | look (slot : String)
  | describe (slot : String)
  /- New connections go to slots, if a name is given. -/
  | socket (slot : String) (operation : Socket.Operation)
      (connections : Option String)
  /- The endpoint may stand bare or below a socket. -/
  | endpoint (slot : String) (operation : Endpoint.Operation)
      (connection : Option String)

/- An event as the bench shows it. -/
inductive Notice where
  | connected
  | packet (payload : Bytes) (remote : Option Address)
  | newConnection (slot : Slot)
  | closed (code : Option ErrorCode)

/- The answer to a command. -/
inductive Answer where
  | noSuchSlot
  /- The slot holds something else. -/
  | unsuited
  | done
  | shown (slot : Slot)
  | shownPair (a b : Slot)
  | described (text : String) (id : SocketId)
  | count (result : Except SocketError Nat)
  | polled (notice : Option Notice)
  | drained (notices : List Notice)
  | stream (result : Endpoint.Result)

------------------------------------------------------------
-- Keeping Slots and Counters
------------------------------------------------------------

namespace Bench

/- What a slot holds. -/
def slot? (b : Bench) (name : String) : Option Slot :=
  b.slots.lookup name

/- Empty a slot. -/
def remove (b : Bench) (name : String) : Bench :=
  { b with
    slots := b.slots.filter (fun entry => entry.1 != name) }

/- Put something into a slot. -/
def put (b : Bench) (name : String) (slot : Slot) : Bench :=
  { b with slots := (name, slot) :: (b.remove name).slots }

/- The counters of a given number. -/
def meter (b : Bench) (i : Nat) : Metrics :=
  b.meters.getD i {}

/- Counters that nothing else has. -/
def newMeter (b : Bench) : Nat × Bench :=
  (b.meters.size, { b with meters := b.meters.push {} })

/- The number of the counters that a socket is to have. -/
def meterFor (b : Bench) : Counters → Nat × Bench
  | .global => (0, b)
  | .own => b.newMeter
  | .named name =>
      match b.meterNames.lookup name with
      | some i => (i, b)
      | none =>
          let (i, b) := b.newMeter
          (i,
            { b with meterNames := (name, i) :: b.meterNames })

/- Add measures to the counters of a given number. -/
def count
    (b : Bench)
    (i : Nat)
    (measures : List Measure) : Bench :=
  { b with
    meters :=
      b.meters.modify i
        (fun m => measures.foldl Metrics.record m) }

/- Forget the calls that a slot has shown. -/
def forgetCalls (b : Bench) (name : String) : Bench :=
  match b.slot? name with
  | some slot => b.put name slot.forgetCalls
  | none => b

------------------------------------------------------------
-- Sockets
------------------------------------------------------------

variable {τ ω : Type} [Transport τ ω]

/- An event, with a way to keep the sockets in it. -/
def noticeOf (keep : Socket τ → Slot) : Event τ → Notice
  | .connected => .connected
  | .packet payload remote => .packet payload remote
  | .newConnection s => .newConnection (keep s)
  | .closed code => .closed code

/- The answer that a result of a socket gives. -/
def answerOf
    (keep : Socket τ → Slot) : Socket.Result τ → Answer
  | .count result => .count result
  | .done => .done
  | .polled event => .polled (event.map (noticeOf keep))
  | .drained events => .drained (events.map (noticeOf keep))

/-
  The new connections of an answer, with the slots they go to
  under a given name: a polled one under the name itself, and
  others with their place among the events behind it.
-/
def connectionsOf
    (name : String) : Answer → List (String × Slot)
  | .polled (some (.newConnection slot)) => [(name, slot)]
  | .drained notices =>
      notices.zipIdx.filterMap
        (fun
          | (.newConnection slot, i) =>
              some (name ++ toString i, slot)
          | _ => none)
  | _ => []

/- Put connections that have been shown into their slots. -/
def keepConnections
    (b : Bench)
    (name : Option String)
    (answer : Answer) : Bench :=
  match name with
  | none => b
  | some name =>
      (connectionsOf name answer).foldl
        (fun b (name, slot) => b.put name slot.forgetCalls) b

/- Keep the socket and the counters of a reply. -/
def settle
    {α : Type}
    (b : Bench)
    (name : String)
    (keep : Socket τ → Slot)
    (r : Reply τ ω α) : Bench :=
  let b := { b with nextId := r.host.nextId }
  (b.count r.socket.meter (Report.measures r.reports)).put
    name (keep r.socket)

/- Do something with the socket in a slot. -/
def runSocket
    (b : Bench)
    (name : String)
    (operation : Socket.Operation)
    (connections : Option String) :
    Answer × List LogLine × Bench :=
  match b.slot? name with
  | some (.socket s) =>
      let r :=
        s.perform operation
          { world := b.network, nextId := b.nextId }
      let answer := answerOf .socket r.result
      let b := { b with network := r.host.world }
      (answer, Report.lines r.reports,
        (b.settle name .socket r).keepConnections connections
          answer)
  | some (.scripted s) =>
      let r :=
        s.perform operation { world := (), nextId := b.nextId }
      let answer := answerOf .scripted r.result
      (answer, Report.lines r.reports,
        (b.settle name .scripted r).keepConnections connections
          answer)
  | some _ => (.unsuited, [], b)
  | none => (.noSuchSlot, [], b)

/- Make a socket in a slot from a plan. -/
def install
    (b : Bench)
    (name : String)
    (keep : Socket τ → Slot)
    (transport : τ)
    (world : ω)
    (plan : SocketPlan) :
    List LogLine × ω × Bench :=
  let (meter, b) := b.meterFor plan.counters
  let r :=
    Socket.start transport plan.listener plan.framing meter
      { world, nextId := b.nextId }
  (Report.lines r.reports, r.host.world,
    b.settle name keep r)

/- Let the socket in a slot describe itself. -/
def describe (b : Bench) (name : String) : Answer :=
  match b.slot? name with
  | some (.socket s) => .described s.describe s.id
  | some (.scripted s) => .described s.describe s.id
  | some _ => .unsuited
  | none => .noSuchSlot

------------------------------------------------------------
-- Endpoints
------------------------------------------------------------

/- Keep what is left of an endpoint, and its connection. -/
def settleEndpoint
    (b : Bench)
    (name : String)
    (keep : Endpoint → Slot)
    (connection : Option String)
    (effect : Endpoint.Effect) :
    Answer × List LogLine × Bench :=
  let b :=
    { b with network := effect.network }.put name
      (keep effect.endpoint)
  let b :=
    match effect.result, connection with
    | .accepted (.ok (e, _)), some slot =>
        b.put slot (.endpoint e)
    | _, _ => b
  (.stream effect.result, [], b)

/- Do something with the endpoint in a slot. -/
def runEndpoint
    (b : Bench)
    (name : String)
    (operation : Endpoint.Operation)
    (connection : Option String) :
    Answer × List LogLine × Bench :=
  match b.slot? name with
  | some (.endpoint e) =>
      b.settleEndpoint name .endpoint connection
        (e.perform operation b.network)
  | some (.socket s) =>
      b.settleEndpoint name
        (fun e => .socket { s with transport := e }) connection
        (s.transport.perform operation b.network)
  | some _ => (.unsuited, [], b)
  | none => (.noSuchSlot, [], b)

------------------------------------------------------------
-- Commands
------------------------------------------------------------

/- Run a command. -/
def run
    (b : Bench)
    (command : Command) : Answer × List LogLine × Bench :=
  match command with
  | .pair nameA nameB (addressA, addressB) =>
      let ((left, right), network) :=
        b.network.pair addressA addressB
      let b :=
        ({ b with network }.put nameA (.endpoint left)).put
          nameB (.endpoint right)
      (.shownPair (.endpoint left) (.endpoint right), [], b)
  | .listener address name connectorName =>
      let ((endpoint, connector), network) :=
        b.network.listener address
      let b :=
        ({ b with network }.put name (.endpoint endpoint)).put
          connectorName (.connector connector)
      (.shown (.endpoint endpoint), [], b)
  | .script name script plan =>
      let stream : Scripted := { script }
      let (lines, _, b) :=
        b.install name .scripted stream () plan
      (.done, lines, b)
  | .connect name origin nearName =>
      match b.slot? name with
      | some (.connector c) =>
          let (near, network) := c.connect origin b.network
          (.shown (.endpoint near), [],
            { b with network }.put nearName (.endpoint near))
      | some _ => (.unsuited, [], b)
      | none => (.noSuchSlot, [], b)
  | .wrap name plan =>
      match b.slot? name with
      | some (.endpoint e) =>
          let (lines, network, b) :=
            b.install name .socket e b.network plan
          (.done, lines, { b with network })
      | some _ => (.unsuited, [], b)
      | none => (.noSuchSlot, [], b)
  | .unwrap name =>
      match b.slot? name with
      | some (.socket s) =>
          (.done, [], b.put name (.endpoint s.transport))
      | some _ => (.unsuited, [], b)
      | none => (.noSuchSlot, [], b)
  | .drop name =>
      match b.slot? name with
      | some _ => (.done, [], b.remove name)
      | none => (.noSuchSlot, [], b)
  | .look name =>
      match b.slot? name with
      | some _ => (.done, [], b)
      | none => (.noSuchSlot, [], b)
  | .describe name => (b.describe name, [], b)
  | .socket name operation connections =>
      b.runSocket name operation connections
  | .endpoint name operation connection =>
      b.runEndpoint name operation connection

end Bench

end FrameLink
