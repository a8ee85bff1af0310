import FrameLink.Proofs.Socket.Receiving

/-
  What a listening socket makes of a connection.

  A readable listener takes at most one connection.  The
  socket that it hands to its consumer has a life of its own,
  which has begun with one readable notification
  (`Socket.admits_acceptConnection`).  Limits, policy and
  counters of the listener are there from its making on, so
  they hold for that first read as well.

  Key definitions include:
    * `Socket.admission`
    * `Socket.Admits`
-/

namespace FrameLink

namespace Socket

variable {τ ω : Type} [Transport τ ω]

------------------------------------------------------------
-- Connections of a Listener
------------------------------------------------------------

/- What the socket of a taken connection is made from. -/
def admission
    (s : Socket τ)
    (transport : τ)
    (host : Host ω) : Origin τ ω where
  transport := transport
  framing := s.framing
  meter := s.meter
  host := host

/- A taken connection has been told to read once. -/
def admitted (origin : Origin τ ω) : Life τ ω :=
  origin.live [.operate (.notify .readable)]

/- A taken connection has what it was made with. -/
theorem admitted_inherits
    {origin : Origin τ ω}
    (hListener : origin.listener = false) :
    (admitted origin).socket.id = origin.host.nextId ∧
      (admitted origin).socket.listener = false ∧
      (admitted origin).socket.framing =
        origin.framing.clamped ∧
      (admitted origin).socket.meter = origin.meter ∧
      (admitted origin).host.nextId =
        origin.host.nextId.next := by
  have hSocket := Origin.socket_started origin hListener
  have hReads : origin.started.socket.listener = false := by
    rw [hSocket]
    rfl
  have hNextId :
      (admitted origin).host.nextId =
        origin.started.host.nextId :=
    perform_nextId origin.started.socket
      (fun _ => hReads) origin.started.host
  rw [Origin.host_started origin hListener] at hNextId
  rcases perform_reach origin.started.socket
      (.notify .readable) origin.started.host with
    ⟨stream, closed, input, output, events, hReach⟩
  rw [hSocket] at hReach
  have hLater :
      (admitted origin).socket =
        { make origin.host.nextId origin.transport false
            origin.framing origin.meter with
          transport := stream
          closed, input, output, events } := by
    rw [← hReach, ← hSocket]
    rfl
  rw [hLater]
  exact ⟨rfl, rfl, rfl, rfl, hNextId⟩

/- What trying to take a connection comes to. -/
inductive Admits
    (s : Socket τ)
    (host : Host ω)
    (r : Reply τ ω Unit) : Prop where
  /- A connection is handed to the consumer. -/
  | taken
      {o : Outcome τ ω (τ × Address)}
      {stream : τ}
      {peer : Address}
      {c : Life τ ω}
      (hCall :
        Transport.accept s.transport host.world = o)
      (hResult : o.result = .ok (stream, peer))
      (hConnection :
        c =
          admitted
            (s.admission stream
              { host with world := o.world }))
      (hSocket :
        r.socket =
          { s with
            transport := o.transport
            events :=
              s.events ++ [.newConnection c.socket] })
      (hHost : r.host = c.host)
  /- There is none, or taking it fails. -/
  | missed
      {o : Outcome τ ω (τ × Address)}
      {e : IoError}
      (hCall :
        Transport.accept s.transport host.world = o)
      (hResult : o.result = .error e)
      (hSocket :
        r.socket = { s with transport := o.transport })
      (hHost : r.host = { host with world := o.world })

/- A listener hands over the connection that it is given. -/
theorem admits_acceptConnection
    (s : Socket τ)
    (host : Host ω) :
    Admits s host (s.acceptConnection host) := by
  cases hResult :
      (Transport.accept s.transport host.world).result with
  | ok connection =>
      rcases connection with ⟨stream, peer⟩
      refine .taken rfl hResult rfl ?_ ?_
      · unfold acceptConnection
        simp only [hResult]
        rfl
      · unfold acceptConnection
        simp only [hResult]
        rfl
  | error e =>
      have hKept :
          (s.acceptConnection host).socket =
              { s with
                transport :=
                  (Transport.accept s.transport
                    host.world).transport } ∧
            (s.acceptConnection host).host =
              { host with
                world :=
                  (Transport.accept s.transport
                    host.world).world } := by
        unfold acceptConnection
        simp only [hResult]
        split
        · exact ⟨rfl, rfl⟩
        · exact ⟨rfl, rfl⟩
      exact .missed rfl hResult hKept.1 hKept.2

/- A readable listener takes a connection. -/
theorem perform_readable_of_listener
    {s : Socket τ}
    (hListener : s.listener = true)
    (host : Host ω) :
    s.perform (.notify .readable) host =
      resulting (fun _ => .done)
        (s.acceptConnection host) := by
  unfold perform handle onReadable
  dsimp only
  rw [hListener]
  rfl

end Socket

end FrameLink
