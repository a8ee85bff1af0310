import FrameLink.Socket.Operation

/-
  Sockets over one transport as sockets over another.

  A map between transports that every call respects carries
  over to sockets, to their events and to what operations on
  them come to.  A socket learns nothing of its transport but
  the answers to its calls, so it makes no difference whether
  the transport is mapped before an operation or after it
  (`Socket.perform_map`).

  Key definitions include:
    * `Outcome.map`, `Transport.Hom`
    * `Socket.map`, `Event.map`
    * `Reply.map`, `Socket.Result.map`
-/

------------------------------------------------------------
-- Maps of Transports
------------------------------------------------------------

namespace FrameLink

/- The outcome over another transport. -/
def Outcome.map
    {τ σ ω α β : Type}
    (f : τ → σ)
    (g : α → β)
    (o : Outcome τ ω α) : Outcome σ ω β where
  result := o.result.map g
  transport := f o.transport
  world := o.world

/- A map with a way back changes nothing that matters. -/
theorem Outcome.map_map_of_leftInverse
    {τ σ ω α β : Type}
    {f : τ → σ}
    {f' : σ → τ}
    {g : α → β}
    {g' : β → α}
    (hTransport : ∀ t, f' (f t) = t)
    (hResult : ∀ a, g' (g a) = a)
    (o : Outcome τ ω α) :
    (o.map f g).map f' g' = o := by
  rcases o with ⟨result, transport, world⟩
  cases result with
  | error e =>
      simp only [map, Except.map, hTransport]
  | ok value =>
      simp only [map, Except.map, hTransport, hResult]

/- Every call can be made before or after the map. -/
structure Transport.Hom
    {τ σ ω : Type}
    [Transport τ ω]
    [Transport σ ω]
    (f : τ → σ) : Prop where
  listen :
    ∀ (t : τ) (backlog : UInt32) (w : ω),
      Transport.listen (f t) backlog w =
        (Transport.listen t backlog w).map f id
  accept :
    ∀ (t : τ) (w : ω),
      Transport.accept (f t) w =
        (Transport.accept t w).map f (Prod.map f id)
  send :
    ∀ (t : τ) (bs : Bytes) (w : ω),
      Transport.send (f t) bs w =
        (Transport.send t bs w).map f id
  receive :
    ∀ (t : τ) (room : Nat) (w : ω),
      Transport.receive (f t) room w =
        (Transport.receive t room w).map f id
  close :
    ∀ (t : τ) (w : ω),
      Transport.close (f t) w =
        (Transport.close t w).map f id
  setError :
    ∀ (t : τ) (code : ErrorCode),
      Transport.setError (f t) code =
        f (Transport.setError t code)
  remoteAddress :
    ∀ t : τ,
      Transport.remoteAddress (f t) =
        Transport.remoteAddress t

------------------------------------------------------------
-- Maps of Sockets
------------------------------------------------------------

mutual

/- The socket with its own and every nested transport mapped. -/
def Socket.map
    {τ σ : Type}
    (f : τ → σ) : Socket τ → Socket σ
  | ⟨id, transport, listener, closed, input, output,
      framing, events, meter⟩ =>
      ⟨id, f transport, listener, closed, input, output,
        framing, Event.mapAll f events, meter⟩

/- The event with the transport inside it mapped. -/
def Event.map
    {τ σ : Type}
    (f : τ → σ) : Event τ → Event σ
  | .connected => .connected
  | .packet payload remote => .packet payload remote
  | .newConnection socket => .newConnection (socket.map f)
  | .closed code => .closed code

/- Every event of a queue mapped. -/
def Event.mapAll
    {τ σ : Type}
    (f : τ → σ) : List (Event τ) → List (Event σ)
  | [] => []
  | event :: events => event.map f :: Event.mapAll f events

end

section Fields

variable {τ σ : Type} (f : τ → σ)

theorem Event.mapAll_eq_map (events : List (Event τ)) :
    Event.mapAll f events = events.map (Event.map f) := by
  induction events with
  | nil => simp [Event.mapAll]
  | cons event events ih => simp [Event.mapAll, ih]

namespace Socket

/- Only the transport and the events are changed by a map. -/
theorem map_eq (s : Socket τ) :
    s.map f =
      { id := s.id
        transport := f s.transport
        listener := s.listener
        closed := s.closed
        input := s.input
        output := s.output
        framing := s.framing
        events := s.events.map (Event.map f)
        meter := s.meter } := by
  cases s
  rw [Socket.map, Event.mapAll_eq_map]

@[simp]
theorem map_transport (s : Socket τ) :
    (s.map f).transport = f s.transport := by
  rw [map_eq]

@[simp]
theorem map_listener (s : Socket τ) :
    (s.map f).listener = s.listener := by
  rw [map_eq]

@[simp]
theorem map_input (s : Socket τ) :
    (s.map f).input = s.input := by
  rw [map_eq]

@[simp]
theorem map_output (s : Socket τ) :
    (s.map f).output = s.output := by
  rw [map_eq]

@[simp]
theorem map_framing (s : Socket τ) :
    (s.map f).framing = s.framing := by
  rw [map_eq]

@[simp]
theorem map_events (s : Socket τ) :
    (s.map f).events = s.events.map (Event.map f) := by
  rw [map_eq]

end Socket

end Fields

------------------------------------------------------------
-- Maps of Replies
------------------------------------------------------------

/- The reply of a mapped socket, with the same result. -/
def Reply.map
    {τ σ ω α : Type}
    (f : τ → σ)
    (r : Reply τ ω α) : Reply σ ω α where
  result := r.result
  socket := r.socket.map f
  host := r.host
  reports := r.reports

/- The result of an operation on a mapped socket. -/
def Socket.Result.map
    {τ σ : Type}
    (f : τ → σ) : Socket.Result τ → Socket.Result σ
  | .count result => .count result
  | .done => .done
  | .polled event => .polled (event.map (Event.map f))
  | .drained events => .drained (events.map (Event.map f))

------------------------------------------------------------
-- Operations Respect Maps
------------------------------------------------------------

namespace Socket

variable {τ σ ω : Type}
variable [Transport τ ω] [Transport σ ω]
variable {f : τ → σ}

theorem setError_map
    (hHom : Transport.Hom f)
    (s : Socket τ)
    (code : ErrorCode) :
    (s.map f).setError code = (s.setError code).map f := by
  simp only [setError, map_eq, hHom.setError]

theorem emit_map
    (s : Socket τ)
    (event : Event τ) :
    (s.map f).emit (event.map f) = (s.emit event).map f := by
  simp only [emit, map_eq, List.map_append, List.map_cons,
    List.map_nil]

theorem announceClose_map
    (s : Socket τ)
    (code : Option ErrorCode) :
    (s.map f).announceClose code =
      ((s.announceClose code).1.map f,
        (s.announceClose code).2) := by
  simp only [announceClose, map_eq]
  split
  · rfl
  · simp only [emit, List.map_append, List.map_cons,
      List.map_nil, Event.map]

theorem flush_map
    (hHom : Transport.Hom f)
    (s : Socket τ)
    (host : Host ω) :
    (s.map f).flush host = (s.flush host).map f := by
  unfold flush
  simp only [map_eq, hHom.send, Outcome.map]
  split
  · rw [Reply.map, map_eq]
  · cases (Transport.send s.transport s.output.filled
      host.world).result with
    | error e => simp only [Except.map, Reply.map, map_eq]
    | ok written =>
        simp only [Except.map, Reply.map, map_eq, id_eq]
        split
        · rfl
        · split
          · rfl
          · rfl

theorem discard_map
    (hHom : Transport.Hom f)
    (r : Reply τ ω (Except SocketError Nat))
    (e : SocketError) :
    discard (r.map f) e = (discard r e).map f := by
  simp only [discard, Reply.map, ← setError_map hHom]
  simp only [map_eq]

theorem sendFrame_map
    (hHom : Transport.Hom f)
    (s : Socket τ)
    (front payload : Bytes)
    (host : Host ω) :
    (s.map f).sendFrame front payload host =
      (s.sendFrame front payload host).map f := by
  have hQueued :
      ({ s.map f with
          output :=
            ((s.map f).output.append front).append payload } :
        Socket σ) =
      ({ s with
          output :=
            (s.output.append front).append payload } :
        Socket τ).map f := by
    simp only [map_eq]
  unfold sendFrame
  simp only [hQueued, flush_map hHom]
  cases hResult : (flush
      { s with
        output := (s.output.append front).append payload }
      host).result with
  | error e =>
      simp only [Reply.map, hResult]
      exact discard_map hHom _ e
  | ok written =>
      simp only [Reply.map, hResult]
      split
      · exact discard_map hHom _ nothingWritten
      · simp only [map_output]
theorem send_map
    (hHom : Transport.Hom f)
    (s : Socket τ)
    (payload : Bytes)
    (host : Host ω) :
    (s.map f).send payload host =
      (s.send payload host).map f := by
  have hLimit :
      (s.map f).maxPacketSize = s.maxPacketSize := by
    simp only [maxPacketSize, map_framing]
  unfold send
  rw [hLimit, map_output]
  split
  · simp only [Reply.map, setError_map hHom]
  · split
    · exact sendFrame_map hHom s _ payload host
    · rfl

theorem sendTo_map
    (hHom : Transport.Hom f)
    (s : Socket τ)
    (payload : Bytes)
    (address : Address)
    (host : Host ω) :
    (s.map f).sendTo payload address host =
      (s.sendTo payload address host).map f := by
  unfold sendTo
  rw [map_transport, hHom.remoteAddress]
  split
  · exact send_map hHom s payload host
  · simp only [Reply.map, setError_map hHom]

theorem sendRaw_map
    (hHom : Transport.Hom f)
    (s : Socket τ)
    (data : Bytes)
    (host : Host ω) :
    (s.map f).sendRaw data host =
      (s.sendRaw data host).map f := by
  unfold sendRaw
  rw [map_output]
  split
  · simp only [Reply.map, setError_map hHom]
  · rename_i output hRoom
    have hQueued :
        ({ s.map f with output } : Socket σ) =
          ({ s with output } : Socket τ).map f := by
      simp only [map_eq]
    simp only [hQueued, flush_map hHom]
    rfl

theorem deliver_map
    (hHom : Transport.Hom f)
    (s : Socket τ) :
    (s.map f).deliver =
      ((s.deliver).1.map f, (s.deliver).2) := by
  have hPackets :
      ∀ (payloads : List Bytes) (remote : Option Address),
        (payloads.map
            (Event.packet (τ := τ) · remote)).map
            (Event.map f) =
          payloads.map (Event.packet (τ := σ) · remote) := by
    intro payloads remote
    induction payloads with
    | nil => rfl
    | cons payload payloads ih =>
        rw [List.map_cons, List.map_cons, List.map_cons, ih,
          Event.map]
  simp only [deliver, map_eq, hHom.remoteAddress,
    List.map_append, hPackets]

theorem overflow_map
    (hHom : Transport.Hom f)
    (s : Socket τ)
    (host : Host ω) :
    (s.map f).overflow host = (s.overflow host).map f := by
  have hCleared :
      ({ s.map f with input := (s.map f).input.clear } :
        Socket σ) =
      ({ s with input := s.input.clear } :
        Socket τ).map f := by
    simp only [map_eq]
  have hMoved :
      ∀ (t : Socket τ) (u : τ),
        ({ t.map f with transport := f u } : Socket σ) =
          ({ t with transport := u } : Socket τ).map f := by
    intro t u
    simp only [map_eq]
  unfold overflow
  dsimp only
  rw [hCleared, map_framing, setError_map hHom]
  cases s.framing.overflowPolicy with
  | reset => rfl
  | close =>
      dsimp only
      rw [map_transport, hHom.close, Outcome.map, hMoved,
        announceClose_map]
      cases hResult : (Transport.close
          (setError { s with input := s.input.clear }
            ErrorCode.bufferOverflow).transport
          host.world).result with
      | error e => rfl
      | ok done => rfl

theorem takeBytes_map
    (hHom : Transport.Hom f)
    (s : Socket τ)
    (bs : Bytes)
    (host : Host ω) :
    (s.map f).takeBytes bs host =
      (s.takeBytes bs host).map f := by
  have hFilled :
      ({ s.map f with input := (s.map f).input.fill bs } :
        Socket σ) =
      ({ s with input := s.input.fill bs } :
        Socket τ).map f := by
    simp only [map_eq]
  unfold takeBytes
  rw [hFilled, deliver_map hHom]
  dsimp only
  rw [map_input, overflow_map hHom]
  split
  · rfl
  · rfl

theorem readInput_map
    (hHom : Transport.Hom f)
    (s : Socket τ)
    (host : Host ω) :
    (s.map f).readInput host =
      (s.readInput host).map f := by
  unfold readInput
  rw [map_transport, map_input, hHom.receive, Outcome.map]
  let o := Transport.receive s.transport s.input.remaining
    host.world
  cases hResult : o.result with
  | ok bs =>
      have hTaken :=
        takeBytes_map hHom
          { s with transport := o.transport } bs
          { host with world := o.world }
      simp only [o, map_eq, Except.map, hResult]
        at hTaken ⊢
      exact hTaken
  | error e =>
      simp only [o, map_eq, Except.map, hResult]
      split
      · simp only [Reply.map, map_eq]
      · simp only [Reply.map, map_eq]

theorem start_map
    (hHom : Transport.Hom f)
    (t : τ)
    (listener : Bool)
    (framing : FramingConfig)
    (meter : Nat)
    (host : Host ω) :
    start (f t) listener framing meter host =
      (start t listener framing meter host).map f := by
  unfold start make
  simp only [hHom.listen, Outcome.map]
  split
  · cases (Transport.listen t framing.clamped.listenBacklog
      host.world).result with
    | error e =>
        simp only [Except.map, Reply.map, map_eq, List.map_nil]
    | ok done =>
        simp only [Except.map, Reply.map, map_eq, List.map_nil]
  · simp only [Reply.map, map_eq, List.map_nil]

theorem acceptConnection_map
    (hHom : Transport.Hom f)
    (s : Socket τ)
    (host : Host ω) :
    (s.map f).acceptConnection host =
      (s.acceptConnection host).map f := by
  unfold acceptConnection
  rw [map_transport, hHom.accept, Outcome.map]
  let o := Transport.accept s.transport host.world
  cases hResult : o.result with
  | ok accepted =>
      let made :=
        start accepted.1 false s.framing s.meter
          { host with world := o.world }
      have hMade :=
        start_map hHom accepted.1 false s.framing s.meter
          { host with world := o.world }
      have hPrimed := readInput_map hHom made.socket made.host
      have hQueued :=
        emit_map (f := f) { s with transport := o.transport }
          (.newConnection
            (readInput made.socket made.host).socket)
      simp only [made, o, map_eq, Event.map] at hPrimed hQueued
      simp only [o, map_eq, Except.map, hResult, Prod.map,
        hMade, Reply.map, hPrimed, hQueued]
  | error e =>
      simp only [o, map_eq, Except.map, hResult]
      split
      · simp only [Reply.map, map_eq]
      · simp only [Reply.map, map_eq]

theorem handle_map
    (hHom : Transport.Hom f)
    (s : Socket τ)
    (notification : Notification)
    (host : Host ω) :
    (s.map f).handle notification host =
      (s.handle notification host).map f := by
  cases notification with
  | connected =>
      dsimp only [handle, Reply.map]
      rw [← emit_map, Event.map]
  | readable =>
      unfold handle onReadable
      dsimp only
      rw [map_listener]
      split
      · exact acceptConnection_map hHom s host
      · exact readInput_map hHom s host
  | writable =>
      unfold handle onWritable
      dsimp only
      rw [map_output]
      split
      · rfl
      · rw [flush_map hHom]
        rfl
  | closed code =>
      unfold handle
      dsimp only
      rw [announceClose_map]
      rfl

theorem poll_map (s : Socket τ) :
    (s.map f).poll =
      ((s.poll).1.map (Event.map f), (s.poll).2.map f) := by
  cases hEvents : s.events with
  | nil =>
      simp only [poll, map_events, hEvents, List.map_nil,
        Option.map]
  | cons event events =>
      simp only [poll, map_eq, hEvents, List.map_cons,
        Option.map]

theorem drain_map (s : Socket τ) :
    (s.map f).drain =
      ((s.drain).1.map (Event.map f), (s.drain).2.map f) := by
  simp only [drain, map_eq, List.map_nil]

/-
  An operation on a mapped socket comes to what the operation
  on the socket comes to, mapped.
-/
theorem perform_map
    (hHom : Transport.Hom f)
    (s : Socket τ)
    (operation : Operation)
    (host : Host ω) :
    (s.map f).perform operation host =
      { (s.perform operation host).map f with
        result :=
          (s.perform operation host).result.map f } := by
  cases operation with
  | send data =>
      dsimp only [perform]
      rw [send_map hHom]
      rfl
  | sendTo data address =>
      dsimp only [perform]
      rw [sendTo_map hHom]
      rfl
  | sendRaw data =>
      dsimp only [perform]
      rw [sendRaw_map hHom]
      rfl
  | flush =>
      dsimp only [perform]
      rw [flush_map hHom]
      rfl
  | notify notification =>
      dsimp only [perform]
      rw [handle_map hHom]
      rfl
  | poll =>
      dsimp only [perform]
      rw [poll_map]
      rfl
  | drain =>
      dsimp only [perform]
      rw [drain_map]
      rfl

end Socket

end FrameLink
