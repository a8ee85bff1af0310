import FrameLink.Proofs.Transport.Pipes

/-
  Endpoints that move no bytes.

  An endpoint that is closed is mute, and so is a listener:
  its sends and receives fail, and leave the network as it
  is.  Nothing that is done with an endpoint opens it again
  or makes a stream of a listener
  (`Endpoint.perform_stays`).

  Key definitions include:
    * `Endpoint.IsListener`, `Endpoint.IsMute`
    * `Endpoint.Stays`
    * `Moment.handle`, `Moment.connect`
    * `Moment.KeepsListener`
-/

------------------------------------------------------------
-- Mute Endpoints
------------------------------------------------------------

namespace FrameLink

namespace Endpoint

/- The endpoint takes connections and carries no bytes. -/
def IsListener (e : Endpoint) : Prop :=
  ∃ queue listening, e.role = .listener queue listening

/- The endpoint is closed, or carries no bytes anyway. -/
def IsMute (e : Endpoint) : Prop :=
  e.closed = true ∨ e.IsListener

variable {e : Endpoint}

/- A mute endpoint is not connected. -/
theorem IsMute.send_eq
    (hMute : e.IsMute)
    (bs : Bytes)
    (net : Network) :
    e.send bs net = e.fail .notConnected net := by
  unfold send
  rcases hMute with hClosed | ⟨queue, listening, hRole⟩
  · rw [hClosed]
  · cases hClosed : e.closed with
    | true => rfl
    | false => rw [hRole]

/- A mute endpoint hands nothing over. -/
theorem IsMute.receive_failed
    (hMute : e.IsMute)
    (room : Nat)
    (net : Network) :
    ∃ failure,
      (e.receive room net).result = .error failure ∧
        (e.receive room net).world = net := by
  unfold receive
  split
  · exact ⟨_, rfl, rfl⟩
  · split
    · exact ⟨_, rfl, rfl⟩
    · exact ⟨_, rfl, rfl⟩
    · rename_i hOpen hRole
      rcases hMute with hClosed | ⟨queue, listening, hOther⟩
      · rw [hClosed] at hOpen
        cases hOpen
      · rw [hOther] at hRole
        cases hRole

------------------------------------------------------------
-- Staying Mute
------------------------------------------------------------

/- From one endpoint to another nothing is opened. -/
structure Stays (before after : Endpoint) : Prop where
  closed : before.closed = true → after.closed = true
  listener : before.IsListener → after.IsListener

theorem Stays.of_eq
    {after : Endpoint}
    (hClosed : after.closed = e.closed)
    (hRole : after.role = e.role) :
    Stays e after := by
  constructor
  · intro hBefore
    rw [hClosed, hBefore]
  · intro hBefore
    unfold IsListener
    rw [hRole]
    exact hBefore

theorem send_stays
    (e : Endpoint)
    (bs : Bytes)
    (net : Network) :
    Stays e (e.send bs net).transport := by
  unfold send
  split
  · exact .of_eq rfl rfl
  · exact .of_eq rfl rfl
  · split
    · exact .of_eq rfl rfl
    · exact .of_eq rfl rfl

theorem receive_stays
    (e : Endpoint)
    (room : Nat)
    (net : Network) :
    Stays e (e.receive room net).transport := by
  unfold receive
  split
  · exact .of_eq rfl rfl
  · split
    · exact .of_eq rfl rfl
    · exact .of_eq rfl rfl
    · dsimp only
      split
      · exact .of_eq rfl rfl
      · split
        · split
          · exact .of_eq rfl rfl
          · exact .of_eq rfl rfl
        · exact .of_eq rfl rfl

theorem accept_stays
    (e : Endpoint)
    (net : Network) :
    Stays e (e.accept net).transport := by
  unfold accept
  split
  · exact .of_eq rfl rfl
  · split
    · split
      · exact .of_eq rfl rfl
      · exact .of_eq rfl rfl
    · exact .of_eq rfl rfl

theorem listen_stays
    (e : Endpoint)
    (net : Network) :
    Stays e (e.listen net).transport := by
  unfold listen
  split
  · exact .of_eq rfl rfl
  · refine ⟨id, ?_⟩
    intro hBefore
    exact ⟨_, true, rfl⟩
  · exact .of_eq rfl rfl

theorem close_stays
    (e : Endpoint)
    (net : Network) :
    Stays e (e.close net).transport :=
  ⟨fun _ => rfl, id⟩

/- Nothing that is done with an endpoint opens it again. -/
theorem perform_stays
    (e : Endpoint)
    (operation : Operation)
    (net : Network) :
    Stays e (e.perform operation net).endpoint := by
  cases operation with
  | listen => exact listen_stays e net
  | accept => exact accept_stays e net
  | send bs => exact send_stays e bs net
  | receive room => exact receive_stays e room net
  | close => exact close_stays e net
  | setError code => exact .of_eq rfl rfl
  | setWindow window => exact .of_eq rfl rfl
  | failNextReceive kind => exact .of_eq rfl rfl
  | failNextAccept kind => exact .of_eq rfl rfl
  | failListen kind => exact .of_eq rfl rfl

end Endpoint

------------------------------------------------------------
-- Sockets over Endpoints
------------------------------------------------------------

/-
  What is kept by all that can be done with an endpoint is
  kept by all that can be done with a connection over it.
-/
theorem Socket.perform_keeps_endpoint
    {P : Endpoint → Network → Prop}
    (hKeeps :
      ∀ e net operation, P e net →
        P (Endpoint.perform e operation net).endpoint
          (Endpoint.perform e operation net).network)
    {s : Socket Endpoint}
    (hListener : s.listener = false)
    {host : Host Network}
    (hHolds : P s.transport host.world)
    (operation : Operation) :
    P (s.perform operation host).socket.transport
      (s.perform operation host).host.world := by
  apply perform_keeps
  · intro _
    exact hListener
  · intro _ e bs net hBefore
    exact hKeeps e net (.send bs) hBefore
  · intro _ e room net hBefore
    exact hKeeps e net (.receive room) hBefore
  · intro _ e net hBefore
    exact hKeeps e net .close hBefore
  · intro e code net hBefore
    exact hKeeps e net (.setError code) hBefore
  · exact hHolds

------------------------------------------------------------
-- Moments
------------------------------------------------------------

namespace Moment

/- Something is done with the endpoint, past the socket. -/
def handle
    (operation : Endpoint.Operation) :
    Moment Endpoint Network :=
  .disturb
    (fun e host =>
      let effect := e.perform operation host.world
      (effect.endpoint, { host with world := effect.network }))

/- A client at an address connects. -/
def connect
    (connector : Connector)
    (client : Address) : Moment Endpoint Network :=
  .disturb
    (fun e host =>
      let connection := connector.connect client host.world
      (e, { host with world := connection.2 }))

/- If the endpoint is a listener, it still is one after. -/
def KeepsListener : Moment Endpoint Network → Prop
  | .operate _ => True
  | .disturb change =>
      ∀ e host, e.IsListener → (change e host).1.IsListener

theorem handle_keepsListener
    (operation : Endpoint.Operation) :
    (handle operation).KeepsListener := by
  intro e host hListener
  have hStays := Endpoint.perform_stays e operation host.world
  exact hStays.listener hListener

theorem connect_keepsListener
    (connector : Connector)
    (client : Address) :
    (connect connector client).KeepsListener := by
  intro e host hListener
  exact hListener

end Moment

end FrameLink
