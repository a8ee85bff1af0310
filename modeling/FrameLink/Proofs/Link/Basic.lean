import FrameLink.Proofs.Socket.Packets
import FrameLink.Proofs.Socket.Reassembly

/-
  Two sockets at the ends of one connection in memory.

  Both are connections and live in one host.  An action is
  done at one end, with the socket or with its endpoint, and
  the other end finds what it has done to the host.  A link
  keeps a list of the packets that the left end has begun to
  send.

  Each end lives a life of its own, in which what is done at
  the other end happens elsewhere (`Link.Lived`).

  Key definitions include:
    * `Side`, `Link`, `Link.Action`
    * `Link.Opening`, `Link.Opening.link`
    * `Link.act`, `Link.run`
    * `Link.Action.IsOrderly`
-/

------------------------------------------------------------
-- Links
------------------------------------------------------------

namespace FrameLink

/- One of the two ends of a link. -/
inductive Side where
  | left
  | right
  deriving DecidableEq

/-
  The lives of two sockets in one host, and the payloads of
  the packets that the left one has begun to send.
-/
structure Link where
  left : Life Endpoint Network
  right : Life Endpoint Network
  accepted : List Bytes := []

namespace Link

/- Something that is done at one end. -/
inductive Action where
  /- With the socket. -/
  | operate (side : Side) (operation : Socket.Operation)
  /- With its endpoint, past the socket. -/
  | handle (side : Side) (operation : Endpoint.Operation)
  deriving DecidableEq

namespace Action

/- The end at which an action is done. -/
def side : Action → Side
  | .operate side _ => side
  | .handle side _ => side

/- An action as a moment of the life at its end. -/
def moment : Action → Moment Endpoint Network
  | .operate _ operation => .operate operation
  | .handle _ operation =>
      .disturb
        (fun e host =>
          let effect := e.perform operation host.world
          (effect.endpoint,
            { host with world := effect.network }))

/-
  The left end writes frames only, nobody writes past its
  socket, and nobody reads past that of the right end.
-/
def IsOrderly : Action → Prop
  | .operate .left (.sendRaw _) => False
  | .handle .left (.send _) => False
  | .handle .right (.receive _) => False
  | _ => True

end Action

/- Do one thing; the other end finds the host changed. -/
def act (link : Link) (action : Action) : Link :=
  match action.side with
  | .left =>
      let left := Socket.pass link.left action.moment
      { left
        right := { link.right with host := left.host }
        accepted :=
          link.accepted ++ link.left.begins action.moment }
  | .right =>
      let right := Socket.pass link.right action.moment
      { link with
        left := { link.left with host := right.host }
        right }

/- Do one thing after the other. -/
def run (link : Link) (actions : List Action) : Link :=
  actions.foldl act link

------------------------------------------------------------
-- Opening a Link
------------------------------------------------------------

/- What a link is opened from. -/
structure Opening where
  leftAddress : Address
  rightAddress : Address
  leftFraming : FramingConfig := {}
  rightFraming : FramingConfig := {}
  leftMeter : Nat := 0
  rightMeter : Nat := 1
  host : Host Network

namespace Opening

/- The two endpoints, and the network with their pipes. -/
def ends (o : Opening) : (Endpoint × Endpoint) × Network :=
  o.host.world.pair o.leftAddress o.rightAddress

/- The left socket is made as soon as the endpoints are. -/
def left (o : Opening) : Origin Endpoint Network where
  transport := o.ends.1.1
  framing := o.leftFraming
  meter := o.leftMeter
  host := { o.host with world := o.ends.2 }

/- The right socket is made behind the left one. -/
def right (o : Opening) : Origin Endpoint Network where
  transport := o.ends.1.2
  framing := o.rightFraming
  meter := o.rightMeter
  host := o.left.started.host

/- The link as it is opened. -/
def link (o : Opening) : Link where
  left :=
    { o.left.live [] with host := o.right.started.host }
  right := o.right.live []

end Opening

------------------------------------------------------------
-- Lives at Both Ends
------------------------------------------------------------

namespace Opening

/- The pipe from the left end to the right one. -/
def pipe (o : Opening) : Nat :=
  o.host.world.pipes.size

/- The bytes that are on their way to the right end. -/
def onTheWay (o : Opening) (net : Network) : Bytes :=
  (net.pipe o.pipe).bytes

end Opening

/-
  Both ends have lived through moments of their own: the left
  end has sent frames only, and what it has written is what
  the right end has received and what is on its way.
-/
structure Lived
    (o : Opening)
    (link : Link)
    (lefts rights : List (Moment Endpoint Network)) :
    Prop where
  left : link.left = o.left.live lefts
  right : link.right = o.right.live rights
  host :
    (o.left.recorded lefts).host =
      (o.right.recorded rights).host
  sends :
    Life.Sends (o.left.recorded lefts)
      (o.left.accepted lefts) link.accepted
  reads : (o.right.recorded rights).socket.listener = false
  feeds :
    Journaled.Feeds o.pipe (o.right.journal rights).received
      (o.left.journal lefts)
      (o.left.recorded lefts).host.world
  drains :
    Journaled.Drains o.pipe (o.left.journal lefts).written
      (o.right.journal rights)
      (o.right.recorded rights).host.world

theorem recorded_elsewhere
    (origin : Origin Endpoint Network)
    (moments : List (Moment Endpoint Network))
    (host : Host Network) :
    origin.recorded (moments ++ [.elsewhere host]) =
      { origin.recorded moments with host } := by
  rw [Origin.recorded_concat]
  exact Socket.pass_elsewhere _ _

theorem live_elsewhere
    (origin : Origin Endpoint Network)
    (moments : List (Moment Endpoint Network))
    (host : Host Network) :
    origin.live (moments ++ [.elsewhere host]) =
      { origin.live moments with host } := by
  rw [Origin.live_concat]
  exact Socket.pass_elsewhere _ _

variable {i : Nat} {drained fed : Bytes}

/- What is done at the left end keeps the writer's law. -/
theorem Action.feeds_pass
    {r : Life (Journaled Endpoint) Network}
    (hListener : r.socket.listener = false)
    (hFeeds :
      Journaled.Feeds i drained r.socket.transport
        r.host.world)
    {action : Action}
    (hOrderly : action.IsOrderly)
    (hLeft : action.side = .left) :
    Journaled.Feeds i drained
      (Socket.pass r action.moment.journaled).socket.transport
      (Socket.pass r action.moment.journaled).host.world := by
  cases action with
  | operate side operation =>
      exact hFeeds.perform hListener operation
  | handle side operation =>
      apply hFeeds.handle
      intro bs hSend
      cases hLeft
      rw [hSend] at hOrderly
      exact hOrderly

/- What is done at the right end keeps the reader's law. -/
theorem Action.drains_pass
    {r : Life (Journaled Endpoint) Network}
    (hListener : r.socket.listener = false)
    (hDrains :
      Journaled.Drains i fed r.socket.transport
        r.host.world)
    {action : Action}
    (hOrderly : action.IsOrderly)
    (hRight : action.side = .right) :
    Journaled.Drains i fed
      (Socket.pass r action.moment.journaled).socket.transport
      (Socket.pass r action.moment.journaled).host.world := by
  cases action with
  | operate side operation =>
      exact hDrains.perform hListener operation
  | handle side operation =>
      apply hDrains.handle
      intro room hReceive
      cases hRight
      rw [hReceive] at hOrderly
      exact hOrderly

end Link

end FrameLink
