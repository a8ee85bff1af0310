import FrameLink.Proofs.Socket.Overflow
import FrameLink.Proofs.Transport.Ending

/-
  A socket and the bare endpoint at the other end.

  A wire is the life of a connection in memory together with
  the endpoint that reads what the connection writes.  What
  is done with the socket, with its endpoint past it, or with
  the other endpoint comes in any order.  A wire remembers
  which bytes the other end has read.

  To the socket, what is done at the other end happens
  elsewhere, so the life on a wire is one from its origin
  (`Wire.life_run_origin`), and the two endpoints remain
  joined (`Wire.Joined.run`).  If nobody writes past the
  socket, what it has written is what the peer has read and
  what the peer can still read (`Wire.written_run`).

  Key definitions include:
    * `Wire`, `Wire.Action`
    * `Wire.act`, `Wire.run`, `Wire.moments`
    * `Wire.Joined`
    * `Origin.wire`
-/

------------------------------------------------------------
-- Wires
------------------------------------------------------------

namespace FrameLink

/- The life of a socket, and the endpoint it writes to. -/
structure Wire where
  life : Life Endpoint Network
  peer : Endpoint
  /- The bytes that the peer has read. -/
  heard : Bytes := []

namespace Wire

/- Something that is done at one end. -/
inductive Action where
  /- With the socket. -/
  | operate (operation : Socket.Operation)
  /- With the endpoint of the socket, past the socket. -/
  | handle (operation : Endpoint.Operation)
  /- With the peer. -/
  | answer (operation : Endpoint.Operation)
  deriving DecidableEq

/- What doing something with the peer comes to. -/
def answer
    (wire : Wire)
    (operation : Endpoint.Operation) : Endpoint.Effect :=
  wire.peer.perform operation wire.life.host.world

/- An action as a moment of the socket. -/
def moment
    (wire : Wire)
    (action : Action) : Moment Endpoint Network :=
  match action with
  | .operate operation => .operate operation
  | .handle operation => .handle operation
  | .answer operation =>
      .elsewhere
        { wire.life.host with
          world := (wire.answer operation).network }

/- Do one thing. -/
def act (wire : Wire) (action : Action) : Wire :=
  let life := Socket.pass wire.life (wire.moment action)
  match action with
  | .answer operation =>
      let effect := wire.answer operation
      { life
        peer := effect.endpoint
        heard := wire.heard ++ effect.result.bytes }
  | _ => { wire with life }

/- Do one thing after the other. -/
def run (wire : Wire) (actions : List Action) : Wire :=
  actions.foldl act wire

/- The actions as moments of the socket. -/
def moments
    (wire : Wire) :
    List Action → List (Moment Endpoint Network)
  | [] => []
  | action :: actions =>
      wire.moment action :: (wire.act action).moments actions

theorem life_act
    (wire : Wire)
    (action : Action) :
    (wire.act action).life =
      Socket.pass wire.life (wire.moment action) := by
  cases action with
  | operate operation => rfl
  | handle operation => rfl
  | answer operation => rfl

/- A run is a row of moments of the life. -/
theorem life_run
    (wire : Wire)
    (actions : List Action) :
    (wire.run actions).life =
      (wire.moments actions).foldl Socket.pass wire.life := by
  induction actions generalizing wire with
  | nil => rfl
  | cons action actions ih =>
      rw [moments, List.foldl_cons, ← life_act]
      exact ih (wire.act action)

------------------------------------------------------------
-- Joined Ends
------------------------------------------------------------

/-
  The endpoint of the socket writes to the pipe that the peer
  reads from, and the peer does not.
-/
structure Joined
    (inbound outbound : Nat)
    (wire : Wire) : Prop where
  listener : wire.life.socket.listener = false
  writes :
    Endpoint.Writes inbound outbound
      wire.life.socket.transport wire.life.host.world
  reads : wire.peer.role = .stream outbound inbound
  apart : inbound ≠ outbound

/- The bytes in a pipe of the network. -/
def pending (wire : Wire) (pipe : Nat) : Bytes :=
  (wire.life.host.world.pipe pipe).bytes

variable {inbound outbound : Nat} {wire : Wire}

/- Taking bytes from its pipe is all that the peer does. -/
theorem Joined.moves_answer
    (hJoined : Joined inbound outbound wire)
    (operation : Endpoint.Operation) :
    Endpoint.Moves outbound []
      (wire.answer operation).result.bytes
      (wire.peer, wire.life.host.world)
      ((wire.answer operation).endpoint,
        (wire.answer operation).network) :=
  Endpoint.perform_moves_reader hJoined.reads hJoined.apart
    hJoined.writes.pipe operation

/- Whatever is done, the ends remain joined. -/
theorem Joined.act
    (hJoined : Joined inbound outbound wire)
    (action : Action) :
    Joined inbound outbound (wire.act action) := by
  cases action with
  | operate operation =>
      have hShape :=
        Socket.perform_shape wire.life.socket operation
          wire.life.host
      constructor
      · exact (congrArg Socket.Shape.listener hShape).trans
          hJoined.listener
      · apply Socket.perform_keeps_endpoint
          (P := Endpoint.Writes inbound outbound)
        · intro e net operation hWrites
          exact hWrites.perform operation
        · exact hJoined.listener
        · exact hJoined.writes
      · exact hJoined.reads
      · exact hJoined.apart
  | handle operation =>
      exact ⟨hJoined.listener,
        hJoined.writes.perform operation, hJoined.reads,
        hJoined.apart⟩
  | answer operation =>
      have hMoves := hJoined.moves_answer operation
      constructor
      · exact hJoined.listener
      · refine ⟨hJoined.writes.role, ?_⟩
        exact
          Nat.lt_of_lt_of_eq hJoined.writes.pipe
            hMoves.size.symm
      · exact hMoves.role.trans hJoined.reads
      · exact hJoined.apart

theorem Joined.run
    (hJoined : Joined inbound outbound wire)
    (actions : List Action) :
    Joined inbound outbound (wire.run actions) := by
  unfold Wire.run
  apply List.foldlRecOn actions Wire.act
  · exact hJoined
  · intro wire hJoined action hMember
    exact hJoined.act action

end Wire

------------------------------------------------------------
-- Wires of an Origin
------------------------------------------------------------

namespace Origin

/- The wire of a new socket and a given peer. -/
def wire
    (origin : Origin Endpoint Network)
    (peer : Endpoint) : Wire where
  life := origin.live []
  peer := peer

end Origin

namespace Wire

variable {origin : Origin Endpoint Network}
variable {peer : Endpoint}

/- The life on a wire is one from the origin. -/
theorem life_run_origin
    (origin : Origin Endpoint Network)
    (peer : Endpoint)
    (actions : List Action) :
    ((origin.wire peer).run actions).life =
      origin.live ((origin.wire peer).moments actions) :=
  life_run _ _

/- The bytes that the socket has received on a wire. -/
def received
    (origin : Origin Endpoint Network)
    (peer : Endpoint)
    (actions : List Action) : Bytes :=
  (origin.journal
    ((origin.wire peer).moments actions)).received

/- Ends that are joined when a connection is made. -/
theorem joined_wire
    (hListener : origin.listener = false)
    {inbound outbound : Nat}
    (hWrites :
      Endpoint.Writes inbound outbound origin.transport
        origin.host.world)
    (hReads : peer.role = .stream outbound inbound)
    (hApart : inbound ≠ outbound) :
    Joined inbound outbound (origin.wire peer) := by
  have hSocket := Origin.socket_started origin hListener
  have hHost := Origin.host_started origin hListener
  refine ⟨?_, ?_, hReads, hApart⟩
  · change origin.started.socket.listener = false
    rw [hSocket]
    rfl
  · change
      Endpoint.Writes _ _ origin.started.socket.transport
        origin.started.host.world
    rw [hSocket, hHost]
    exact hWrites

------------------------------------------------------------
-- What Is Written
------------------------------------------------------------

/-
  A recorded life keeps the writer's law of what the peer has
  read, unless its endpoint is made to send.
-/
theorem feeds_act
    {inbound outbound : Nat}
    {wire : Wire}
    (hJoined : Joined inbound outbound wire)
    {r : Life (Journaled Endpoint) Network}
    (hLife : wire.life = r.unjournaled)
    (hFeeds :
      Journaled.Feeds outbound wire.heard
        r.socket.transport r.host.world)
    {action : Action}
    (hOrderly : ∀ bs, action ≠ .handle (.send bs)) :
    Journaled.Feeds outbound (wire.act action).heard
      (Socket.pass r
        (wire.moment action).journaled).socket.transport
      (Socket.pass r
        (wire.moment action).journaled).host.world := by
  have hWorld : wire.life.host.world = r.host.world := by
    rw [hLife]
    rfl
  cases action with
  | operate operation =>
      have hReads : r.socket.listener = false := by
        have hListener := hJoined.listener
        rw [hLife] at hListener
        exact (Socket.map_listener _ _).symm.trans hListener
      exact hFeeds.perform hReads operation
  | handle operation =>
      apply hFeeds.handle
      intro bs hSend
      exact hOrderly bs (congrArg Action.handle hSend)
  | answer operation =>
      have hMoves := hJoined.moves_answer operation
      have hBytes := hMoves.bytes
      rw [List.append_nil, hWorld] at hBytes
      constructor
      · have hSize := hMoves.size
        rw [hWorld] at hSize
        exact Nat.lt_of_lt_of_eq hFeeds.pipe hSize.symm
      · exact hFeeds.role
      · change
          r.socket.transport.written =
            (wire.heard ++
                (wire.answer operation).result.bytes) ++
              ((wire.answer operation).network.pipe
                outbound).bytes
        rw [List.append_assoc, ← hBytes]
        exact hFeeds.bytes

theorem feeds_run
    {inbound outbound : Nat}
    {wire : Wire}
    (hJoined : Joined inbound outbound wire)
    {r : Life (Journaled Endpoint) Network}
    (hLife : wire.life = r.unjournaled)
    (hFeeds :
      Journaled.Feeds outbound wire.heard
        r.socket.transport r.host.world)
    {actions : List Action}
    (hOrderly :
      ∀ action ∈ actions,
        ∀ bs, action ≠ .handle (.send bs)) :
    let last :=
      ((wire.moments actions).map .journaled).foldl
        Socket.pass r
    Journaled.Feeds outbound (wire.run actions).heard
        last.socket.transport last.host.world ∧
      (wire.run actions).life = last.unjournaled := by
  induction actions generalizing wire r with
  | nil => exact ⟨hFeeds, hLife⟩
  | cons action actions ih =>
      have hNext := hOrderly action List.mem_cons_self
      apply ih (hJoined.act action)
      · rw [life_act, hLife, Socket.unjournaled_pass]
      · exact feeds_act hJoined hLife hFeeds hNext
      · intro later hMember
        exact
          hOrderly later (List.mem_cons_of_mem _ hMember)

/-
  Over a pipe that is empty at first, what the socket has
  written is what the peer has read and can still read.
-/
theorem written_run
    (hListener : origin.listener = false)
    {inbound outbound : Nat}
    (hWrites :
      Endpoint.Writes inbound outbound origin.transport
        origin.host.world)
    (hReads : peer.role = .stream outbound inbound)
    (hApart : inbound ≠ outbound)
    (hEmpty : (origin.host.world.pipe outbound).bytes = [])
    {actions : List Action}
    (hOrderly :
      ∀ action ∈ actions,
        ∀ bs, action ≠ .handle (.send bs)) :
    let wire := (origin.wire peer).run actions
    (origin.journal
        ((origin.wire peer).moments actions)).written =
      wire.heard ++ wire.pending outbound := by
  intro wire
  have hJoined :=
    joined_wire hListener hWrites hReads hApart
  have hSocket :=
    Origin.socket_started origin.journaled hListener
  have hHost :=
    Origin.host_started origin.journaled hListener
  have hFeeds :
      Journaled.Feeds outbound (origin.wire peer).heard
        (origin.recorded []).socket.transport
        (origin.recorded []).host.world := by
    change
      Journaled.Feeds outbound []
        origin.journaled.started.socket.transport
        origin.journaled.started.host.world
    rw [hSocket, hHost]
    refine
      ⟨hWrites.pipe, ⟨inbound, hWrites.role, hApart⟩, ?_⟩
    exact hEmpty.symm
  rcases feeds_run hJoined
      (Origin.live_journaled origin []).symm hFeeds
      hOrderly with
    ⟨hLast, hLife⟩
  have hWorld :
      (origin.recorded
          ((origin.wire peer).moments actions)).host.world =
        wire.life.host.world := by
    rw [life_run_origin, Origin.host_live]
  have hBytes := hLast.bytes
  rw [Wire.pending, ← hWorld]
  exact hBytes

end Wire

end FrameLink
