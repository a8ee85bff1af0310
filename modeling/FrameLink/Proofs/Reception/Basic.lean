import FrameLink.Proofs.Reception.Guests
import FrameLink.Proofs.Socket.Accepting
import FrameLink.Proofs.Socket.Overflow

/-
  A listening socket, its clients and its connections.

  Clients connect and use their endpoints, the listener is
  notified, accepts can be made to fail, and the connections
  that are handed over are used: all that in any order, in
  one host.  Sockets may be made elsewhere as well.  A
  reception keeps what each client has written, the life of
  each connection from when it was handed over, and the
  numbers of all sockets in the order of their making.

  What a listener does in one step is either nothing to the
  outside, or it takes the connection that has waited longest
  (`Reception.welcomes_listener`).

  Key definitions include:
    * `Life.arrivals`
    * `Socket.Accepts`
    * `Reception`, `Reception.Action`
    * `Reception.act`, `Reception.run`
    * `Reception.Opening`
    * `Reception.Undisturbed`, `Reception.Welcomed`,
      `Reception.Welcomes`
-/

------------------------------------------------------------
-- Arrivals
------------------------------------------------------------

namespace FrameLink

namespace Life

/- The connections that were handed over, in order. -/
def arrivals
    {τ ω : Type}
    (r : Life τ ω) : List (Socket τ) :=
  r.emitted.filterMap Event.connection?

variable {τ ω : Type} [Transport τ ω]

theorem arrivals_operate
    {r : Life τ ω}
    {operation : Socket.Operation}
    {news : List (Event τ)}
    (hEvents :
      (r.socket.perform operation r.host).result.events ++
          (r.socket.perform operation r.host).socket.events =
        r.socket.events ++ news) :
    arrivals (Socket.pass r (.operate operation)) =
      arrivals r ++ news.filterMap Event.connection? := by
  rw [arrivals, emitted_operate hEvents,
    List.filterMap_append]
  rfl

end Life

/- An operation that reads nothing hands no connection over. -/
theorem Socket.connections_news
    {τ : Type}
    (s : Socket τ)
    (operation : Operation) :
    (operation.news s).filterMap Event.connection? = [] := by
  unfold Operation.news
  split
  · rfl
  · split
    · rfl
    · rfl
  · rfl

/- A host is its world and the next number. -/
theorem host_eq
    {h h' : Host Network}
    (hWorld : h.world = h'.world)
    (hNextId : h.nextId = h'.nextId) :
    h = h' := by
  cases h
  cases h'
  cases hWorld
  cases hNextId
  rfl

------------------------------------------------------------
-- Accepting in Memory
------------------------------------------------------------

/- What a listener makes of being told to read. -/
inductive Socket.Accepts
    (s : Socket Endpoint)
    (queue : Nat)
    (host : Host Network)
    (r : Reply Endpoint Network Unit) : Prop where
  /- The accept fails, or nobody waits. -/
  | none
      {transport : Endpoint}
      (hReason :
        s.transport.failNextAccept ≠ none ∨
          host.world.queue queue = [])
      (hSocket : r.socket = { s with transport })
      (hRole : transport.role = s.transport.role)
      (hHost : r.host = host)
  /- The first in the queue is handed over. -/
  | one
      {caller : Endpoint × Address}
      {rest : List (Endpoint × Address)}
      {c : Life Endpoint Network}
      (hWilling : s.transport.failNextAccept = none)
      (hQueue : host.world.queue queue = caller :: rest)
      (hAdmitted :
        c =
          admitted
            (s.admission caller.1
              { host with
                world :=
                  host.world.changeQueue queue List.tail }))
      (hSocket :
        r.socket =
          { s with
            events := s.events ++ [.newConnection c.socket] })
      (hHost : r.host = c.host)

/- A listener takes the first in its queue, or nobody. -/
theorem Socket.accepts_acceptConnection
    {s : Socket Endpoint}
    {queue : Nat}
    (hRole : s.transport.role = .listener queue true)
    (host : Host Network) :
    Accepts s queue host (s.acceptConnection host) := by
  have hAccepts := Endpoint.accept_cases hRole host.world
  cases admits_acceptConnection s host with
  | missed hCall hResult hSocket hHost =>
      subst hCall
      rcases hAccepts with
        ⟨kind, hFail, _, hKept, hWorld⟩ |
          ⟨_, hNobody, _, hKept, hWorld⟩ |
            ⟨connection, rest, _, _, hTaken, _⟩
      · have hSome : s.transport.failNextAccept ≠ none := by
          rw [hFail]
          exact Option.some_ne_none kind
        refine .none (.inl hSome) hSocket hKept ?_
        exact hHost.trans (host_eq hWorld rfl)
      · have hSame := congrArg Endpoint.role hKept
        refine .none (.inr hNobody) hSocket hSame ?_
        exact hHost.trans (host_eq hWorld rfl)
      · cases hTaken.symm.trans hResult
  | @taken _ _ _ c hCall hResult hConnection hSocket hHost =>
      subst hCall
      rcases hAccepts with
        ⟨kind, _, hFailed, _⟩ | ⟨_, _, hFailed, _⟩ |
          ⟨connection, rest, hWilling, hQueue, hTaken, hKept,
            hWorld⟩
      · cases hFailed.symm.trans hResult
      · cases hFailed.symm.trans hResult
      · cases hTaken.symm.trans hResult
        have hNet :
            (Transport.accept s.transport host.world).world =
              host.world.changeQueue queue List.tail :=
          hWorld
        have hStays :
            (Transport.accept s.transport
                host.world).transport =
              s.transport :=
          hKept
        rw [hNet] at hConnection
        rw [hStays] at hSocket
        exact .one hWilling hQueue hConnection hSocket hHost

------------------------------------------------------------
-- Receptions
------------------------------------------------------------

/-
  A listener, its clients in the order in which they have
  connected, and its connections in the order in which they
  were handed over.  The host of the listener is that of all.
-/
structure Reception where
  connector : Connector
  clients : List Client := []
  listener : Life Endpoint Network
  connections : List (Life Endpoint Network) := []
  /- The numbers of all sockets made so far. -/
  made : List SocketId

namespace Reception

/- Something that is done at a reception. -/
inductive Action where
  /- Somebody connects, or uses a connection. -/
  | guest (action : Guests.Action)
  /- Something is done with the listening socket. -/
  | listener (operation : Socket.Operation)
  /- The next accept is made to fail. -/
  | failAccept (kind : IoKind)
  /- Something is done with a connection handed over. -/
  | connection (k : Nat) (operation : Socket.Operation)
  /- A socket is made elsewhere. -/
  | make
  deriving DecidableEq

/- The host that all live in. -/
def host (r : Reception) : Host Network :=
  r.listener.host

/- The same reception in a host that has changed. -/
def inHost (r : Reception) (host : Host Network) : Reception :=
  { r with listener := { r.listener with host } }

/- The clients and their network. -/
def guests (r : Reception) : Guests where
  connector := r.connector
  clients := r.clients
  net := r.host.world

/- The same reception after something clients have done. -/
def visited (r : Reception) (g : Guests) : Reception :=
  { r.inHost { r.host with world := g.net } with
    clients := g.clients }

/- The life of a connection that has just been handed over. -/
def handedOver
    (host : Host Network)
    (socket : Socket Endpoint) : Life Endpoint Network where
  result := []
  socket := socket
  host := host

/- The life of a connection after one thing more, here. -/
def used
    (r : Reception)
    (c : Life Endpoint Network)
    (operation : Socket.Operation) : Life Endpoint Network :=
  Socket.pass { c with host := r.host } (.operate operation)

/- Do one thing.  Who does not exist does nothing. -/
def act (r : Reception) (action : Action) : Reception :=
  match action with
  | .guest action => r.visited (r.guests.act action)
  | .listener operation =>
      let life :=
        Socket.pass r.listener (.operate operation)
      let fresh :=
        life.arrivals.drop r.listener.arrivals.length
      { r with
        listener := life
        connections :=
          r.connections ++ fresh.map (handedOver life.host)
        made := r.made ++ fresh.map Socket.id }
  | .failAccept kind =>
      { r with
        listener :=
          Socket.pass r.listener
            (.handle (.failNextAccept kind)) }
  | .connection k operation =>
      match r.connections[k]? with
      | none => r
      | some c =>
          let life := r.used c operation
          { r.inHost life.host with
            connections := r.connections.set k life }
  | .make =>
      { r.inHost
          { r.host with nextId := r.host.nextId.next } with
        made := r.made ++ [r.host.nextId] }

/- Do one thing after the other. -/
def run (r : Reception) (actions : List Action) : Reception :=
  actions.foldl act r

------------------------------------------------------------
-- Opening a Reception
------------------------------------------------------------

/-
  What a reception is opened from.  Clients may come before
  the listening socket is made.
-/
structure Opening where
  address : Address
  early : List Guests.Action := []
  framing : FramingConfig := {}
  meter : Nat := 0
  host : Host Network

namespace Opening

/- The endpoint of the listener, and its connector. -/
def ends (o : Opening) : (Endpoint × Connector) × Network :=
  o.host.world.listener o.address

/- The clients that come before the socket is made. -/
def guests (o : Opening) : Guests :=
  Guests.run { connector := o.ends.1.2, net := o.ends.2 }
    o.early

/- What the listening socket is made from. -/
def origin (o : Opening) : Origin Endpoint Network where
  transport := o.ends.1.1
  listener := true
  framing := o.framing
  meter := o.meter
  host := { o.host with world := o.guests.net }

/- The reception as it is opened. -/
def reception (o : Opening) : Reception where
  connector := o.ends.1.2
  clients := o.guests.clients
  listener := o.origin.live []
  made := [o.host.nextId]

/- The number of the first pipe of a client. -/
def base (o : Opening) : Nat :=
  o.host.world.pipes.size

end Opening

------------------------------------------------------------
-- What a Listener Does
------------------------------------------------------------

/- Nobody is taken, and the others notice nothing. -/
structure Undisturbed (r r' : Reception) : Prop where
  connector : r'.connector = r.connector
  clients : r'.clients = r.clients
  connections : r'.connections = r.connections
  made : r'.made = r.made
  host : r'.host = r.host
  arrivals : r'.listener.arrivals = r.listener.arrivals
  role :
    r'.listener.socket.transport.role =
      r.listener.socket.transport.role

/- The first in a queue is taken and handed over. -/
structure Welcomed
    (queue : Nat)
    (caller : Endpoint × Address)
    (c : Life Endpoint Network)
    (r r' : Reception) : Prop where
  waiting :
    ∃ rest, r.host.world.queue queue = caller :: rest
  admitted :
    c =
      Socket.admitted
        (r.listener.socket.admission caller.1
          { r.host with
            world :=
              r.host.world.changeQueue queue List.tail })
  connector : r'.connector = r.connector
  clients : r'.clients = r.clients
  connections :
    r'.connections =
      r.connections ++ [handedOver c.host c.socket]
  made : r'.made = r.made ++ [c.socket.id]
  host : r'.host = c.host
  arrivals :
    r'.listener.arrivals = r.listener.arrivals ++ [c.socket]
  role :
    r'.listener.socket.transport.role =
      r.listener.socket.transport.role

/- What doing something with the listening socket comes to. -/
inductive Welcomes
    (queue : Nat)
    (operation : Socket.Operation)
    (r r' : Reception) : Prop where
  | nobody
      (hReason :
        operation = .notify .readable →
          r.listener.socket.transport.failNextAccept ≠ none ∨
            r.host.world.queue queue = [])
      (hSilent :
        operation = .notify .readable →
          r'.listener.emitted = r.listener.emitted)
      (hUndisturbed : Undisturbed r r')
  | somebody
      {caller : Endpoint × Address}
      {c : Life Endpoint Network}
      (hReadable : operation = .notify .readable)
      (hWilling :
        r.listener.socket.transport.failNextAccept = none)
      (hWelcomed : Welcomed queue caller c r r')

variable {r r' : Reception} {queue : Nat}

theorem Undisturbed.guests
    (hUndisturbed : Undisturbed r r') :
    r'.guests = r.guests := by
  rw [Reception.guests, hUndisturbed.connector,
    hUndisturbed.clients, hUndisturbed.host]
  rfl

theorem Welcomed.guests
    {caller : Endpoint × Address}
    {c : Life Endpoint Network}
    (hWelcomed : Welcomed queue caller c r r') :
    r'.guests = { r.guests with net := c.host.world } := by
  rw [Reception.guests, hWelcomed.connector,
    hWelcomed.clients, hWelcomed.host]
  rfl

/- The news are told, and connections among them handed over. -/
theorem act_listener
    {operation : Socket.Operation}
    {next : Reply Endpoint Network (Socket.Result Endpoint)}
    (hNext : r.listener.socket.perform operation r.host = next)
    {news : List (Event Endpoint)}
    (hEvents :
      next.result.events ++ next.socket.events =
        r.listener.socket.events ++ news) :
    let r' := r.act (.listener operation)
    let fresh := news.filterMap Event.connection?
    r'.listener.emitted = r.listener.emitted ++ news ∧
      r'.listener.arrivals =
        r.listener.arrivals ++ fresh ∧
      r'.connections =
        r.connections ++ fresh.map (handedOver next.host) ∧
      r'.made = r.made ++ fresh.map Socket.id := by
  intro r' fresh
  subst hNext
  have hArrivals :
      r'.listener.arrivals = r.listener.arrivals ++ fresh :=
    Life.arrivals_operate hEvents
  have hFresh :
      r'.listener.arrivals.drop
          r.listener.arrivals.length =
        fresh := by
    rw [hArrivals, List.drop_left]
  refine
    ⟨Life.emitted_operate hEvents, hArrivals, ?_, ?_⟩
  · rw [← hFresh]
    rfl
  · rw [← hFresh]
    rfl

/- Without news of a connection nobody is disturbed. -/
theorem undisturbed_act
    {operation : Socket.Operation}
    {next : Reply Endpoint Network (Socket.Result Endpoint)}
    (hNext : r.listener.socket.perform operation r.host = next)
    {news : List (Event Endpoint)}
    (hEvents :
      next.result.events ++ next.socket.events =
        r.listener.socket.events ++ news)
    (hNone : news.filterMap Event.connection? = [])
    (hHost : next.host = r.host)
    (hRole :
      next.socket.transport.role =
        r.listener.socket.transport.role) :
    Undisturbed r (r.act (.listener operation)) := by
  rcases act_listener hNext hEvents with
    ⟨_, hArrivals, hConnections, hMade⟩
  rw [hNone, List.append_nil] at hArrivals
  rw [hNone, List.map_nil, List.append_nil] at hConnections
  rw [hNone, List.map_nil, List.append_nil] at hMade
  subst hNext
  exact
    ⟨rfl, rfl, hConnections, hMade, hHost, hArrivals, hRole⟩

/- Without a readable notification nobody is disturbed. -/
theorem undisturbed_of_ne
    (hRole :
      r.listener.socket.transport.role =
        .listener queue true)
    {operation : Socket.Operation}
    (hOther : operation ≠ .notify .readable) :
    Undisturbed r (r.act (.listener operation)) := by
  have hEmits :=
    Socket.emits_perform r.listener.socket hOther r.host
  have hNone :=
    Socket.connections_news r.listener.socket operation
  have hKept :
      (r.listener.socket.perform operation
              r.host).socket.transport.role =
          .listener queue true ∧
        (r.listener.socket.perform operation
            r.host).host.world =
          r.host.world := by
    apply Socket.perform_keeps
      (P := fun (e : Endpoint) (net : Network) =>
        e.role = .listener queue true ∧ net = r.host.world)
    · intro hReadable
      exact absurd hReadable hOther
    · intro _ e bs net hHolds
      have hMute : e.IsMute := .inr ⟨_, _, hHolds.1⟩
      change
        (e.send bs net).transport.role = _ ∧
          (e.send bs net).world = _
      rw [hMute.send_eq]
      exact hHolds
    · intro hReadable
      exact absurd hReadable hOther
    · intro hReadable
      exact absurd hReadable hOther
    · intro e code net hHolds
      exact hHolds
    · exact ⟨hRole, rfl⟩
  have hNextId :=
    Socket.perform_nextId r.listener.socket
      (fun hReadable => absurd hReadable hOther) r.host
  exact
    undisturbed_act rfl hEmits.events hNone
      (host_eq hKept.2 hNextId) (hKept.1.trans hRole.symm)

/- A readable listener takes the first in its queue. -/
theorem welcomes_readable
    (hListener : r.listener.socket.listener = true)
    (hRole :
      r.listener.socket.transport.role =
        .listener queue true) :
    Welcomes queue (.notify .readable) r
      (r.act (.listener (.notify .readable))) := by
  have hNext :=
    Socket.perform_readable_of_listener hListener r.host
  cases Socket.accepts_acceptConnection hRole r.host with
  | none hReason hSocket hKept hHost =>
      have hEvents :
          (r.listener.socket.acceptConnection
              r.host).socket.events =
            r.listener.socket.events ++ [] := by
        rw [hSocket, List.append_nil]
      have hSilent :
          (r.act (.listener
              (.notify .readable))).listener.emitted =
            r.listener.emitted := by
        rw [(act_listener hNext hEvents).1, List.append_nil]
      refine .nobody (fun _ => hReason) (fun _ => hSilent)
        (undisturbed_act hNext hEvents rfl hHost ?_)
      change
        (r.listener.socket.acceptConnection
          r.host).socket.transport.role = _
      rw [hSocket]
      exact hKept
  | @one caller rest c hWilling hQueue hAdmitted hSocket
      hHost =>
      have hEvents :
          (r.listener.socket.acceptConnection
              r.host).socket.events =
            r.listener.socket.events ++
              [.newConnection c.socket] := by
        rw [hSocket]
      rcases act_listener hNext hEvents with
        ⟨_, hArrivals, hConnections, hMade⟩
      have hLater :
          (r.act (.listener (.notify .readable))).host =
            c.host :=
        (congrArg Reply.host hNext).trans hHost
      have hStays :
          (r.act (.listener
              (.notify .readable))).listener.socket.transport =
            r.listener.socket.transport := by
        refine (congrArg (·.socket.transport) hNext).trans ?_
        change
          (r.listener.socket.acceptConnection
            r.host).socket.transport = _
        rw [hSocket]
      refine .somebody rfl hWilling
        ⟨⟨rest, hQueue⟩, hAdmitted, rfl, rfl, ?_, hMade,
          hLater, hArrivals, ?_⟩
      · rw [hConnections, ← hHost]
        rfl
      · rw [hStays]

/- Nobody is taken, or the first in the queue is. -/
theorem welcomes_listener
    (hListener : r.listener.socket.listener = true)
    (hRole :
      r.listener.socket.transport.role =
        .listener queue true)
    (operation : Socket.Operation) :
    Welcomes queue operation r
      (r.act (.listener operation)) := by
  by_cases hReadable : operation = .notify .readable
  · subst hReadable
    exact welcomes_readable hListener hRole
  · exact
      .nobody (fun hThis => absurd hThis hReadable)
        (fun hThis => absurd hThis hReadable)
        (undisturbed_of_ne hRole hReadable)

end Reception

end FrameLink
