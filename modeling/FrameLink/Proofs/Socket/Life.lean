import FrameLink.Proofs.Socket.Map

/-
  The life of a socket.

  A socket is made from its origin, and then moment follows
  on moment: something is done with it, or its stream changes
  by another hand, such as that of the peer or of a consumer
  who reaches for the transport itself.  A life is what that
  has come to so far, a reply with the results and reports of
  all moments.

  What every moment keeps holds of a whole life
  (`Socket.live_induction`).

  Key definitions include:
    * `Moment`, `Life`
    * `Socket.pass`, `Socket.live`
    * `Origin`, `Origin.started`, `Origin.live`
    * `Event.packet?`, `Event.connection?`
    * `Socket.Result.events`, `Life.emitted`,
      `Life.packets`
-/

------------------------------------------------------------
-- Moments
------------------------------------------------------------

namespace FrameLink

/- What can happen to a socket and its stream. -/
inductive Moment (τ ω : Type) where
  /- Something is done with the socket. -/
  | operate (operation : Socket.Operation)
  /- The stream and its host change by another hand. -/
  | disturb (change : τ → Host ω → τ × Host ω)

/- Something changes the host and leaves the stream. -/
def Moment.elsewhere
    {τ ω : Type}
    (host : Host ω) : Moment τ ω :=
  .disturb (fun stream _ => (stream, host))

/- What a life has come to so far. -/
abbrev Life (τ ω : Type) :=
  Reply τ ω (List (Socket.Result τ))

namespace Socket

variable {τ ω : Type} [Transport τ ω]

/- One more moment of a life. -/
def pass
    (r : Life τ ω)
    (moment : Moment τ ω) : Life τ ω :=
  match moment with
  | .operate operation =>
      let next := r.socket.perform operation r.host
      { next with
        result := r.result ++ [next.result]
        reports := r.reports ++ next.reports }
  | .disturb change =>
      let after := change r.socket.transport r.host
      { r with
        socket := { r.socket with transport := after.1 }
        host := after.2 }

theorem pass_elsewhere
    (r : Life τ ω)
    (host : Host ω) :
    pass r (.elsewhere host) = { r with host } := by
  rcases r with ⟨result, socket, before, reports⟩
  cases socket
  rfl

/- The moments of a life, one after the other. -/
def live
    (s : Socket τ)
    (host : Host ω)
    (moments : List (Moment τ ω)) : Life τ ω :=
  moments.foldl pass { result := [], socket := s, host }

/- What holds at first and at every next moment holds. -/
theorem live_induction
    {motive : Life τ ω → Prop}
    {s : Socket τ}
    {host : Host ω}
    (hStart : motive { result := [], socket := s, host })
    (hPass :
      ∀ (r : Life τ ω) (moment : Moment τ ω),
        motive r → motive (pass r moment))
    (moments : List (Moment τ ω)) :
    motive (live s host moments) := by
  unfold live
  apply List.foldlRecOn moments pass hStart
  intro r hHolds moment hMember
  exact hPass r moment hHolds

end Socket

------------------------------------------------------------
-- Origins
------------------------------------------------------------

/- What a socket is made from. -/
structure Origin (τ ω : Type) where
  transport : τ
  listener : Bool := false
  framing : FramingConfig := {}
  meter : Nat := 0
  host : Host ω

namespace Origin

variable {τ ω : Type} [Transport τ ω]

/- The making of the socket. -/
def started (origin : Origin τ ω) : Reply τ ω Unit :=
  Socket.start origin.transport origin.listener
    origin.framing origin.meter origin.host

theorem socket_started
    (origin : Origin τ ω)
    (hListener : origin.listener = false) :
    origin.started.socket =
      Socket.make origin.host.nextId origin.transport false
        origin.framing origin.meter := by
  unfold started Socket.start
  simp only [hListener]
  rfl

theorem host_started
    (origin : Origin τ ω)
    (hListener : origin.listener = false) :
    origin.started.host =
      { origin.host with
        nextId := origin.host.nextId.next } := by
  unfold started Socket.start
  simp only [hListener]
  rfl

/- The life of the socket from its making on. -/
def live
    (origin : Origin τ ω)
    (moments : List (Moment τ ω)) : Life τ ω :=
  origin.started.socket.live origin.started.host moments

theorem live_concat
    (origin : Origin τ ω)
    (moments : List (Moment τ ω))
    (moment : Moment τ ω) :
    origin.live (moments ++ [moment]) =
      Socket.pass (origin.live moments) moment := by
  rw [live, Socket.live, List.foldl_append]
  rfl

end Origin

------------------------------------------------------------
-- Events
------------------------------------------------------------

/- The payload of a packet, with where it is from. -/
def Event.packet?
    {τ : Type} : Event τ → Option (Bytes × Option Address)
  | .packet payload remote => some (payload, remote)
  | _ => none

/- The socket of a connection that is handed over. -/
def Event.connection?
    {τ : Type} : Event τ → Option (Socket τ)
  | .newConnection socket => some socket
  | _ => none

/- The events that an operation hands out. -/
def Socket.Result.events
    {τ : Type} : Socket.Result τ → List (Event τ)
  | .polled event => event.toList
  | .drained events => events
  | _ => []

namespace Life

variable {τ ω : Type}

/- The events of a life, handed out or still queued. -/
def emitted (r : Life τ ω) : List (Event τ) :=
  r.result.flatMap Socket.Result.events ++ r.socket.events

/- The packets of a life, with where they are from. -/
def packets (r : Life τ ω) : List (Bytes × Option Address) :=
  r.emitted.filterMap Event.packet?

end Life

end FrameLink
