import FrameLink.Proofs.Socket.Refusal

/-
  The buffers of a listening socket.

  A listening socket reads nothing, so its input is empty for
  good.  It has no stream to write to either: a packet that
  meets an idle output is taken back.  Raw bytes, however,
  are queued before they are found to be in vain, and nothing
  ever takes them out again.  So the output is what these
  have left there (`Origin.buffers_of_listener`), and packets
  behind them are shed.

  Key definitions include:
    * `Socket.Operation.queue`, `Moment.queued`
    * `Life.Listens`
-/

------------------------------------------------------------
-- What Is Queued
------------------------------------------------------------

namespace FrameLink

namespace Socket

/- Raw bytes queue behind others while there is room. -/
def Operation.queue
    (room : Nat)
    (waiting : Bytes) : Operation → Bytes
  | .sendRaw data =>
      if waiting.length + data.length ≤ room then
        waiting ++ data
      else
        waiting
  | _ => waiting

variable {s : Socket Endpoint}

/- Over a mute stream raw bytes queue and nothing leaves. -/
theorem output_perform_of_isMute
    (hMute : s.transport.IsMute)
    (hFitted : Fitted s)
    (operation : Operation)
    (host : Host Network) :
    (s.perform operation host).socket.output.filled =
      operation.queue s.output.capacity s.output.filled := by
  have hFlush :
      (s.flush host).socket.output.filled =
        s.output.filled := by
    rw [flush_of_isMute hMute]
    split
    · rfl
    · rfl
  have hQuiet :
      operation.IsQuiet →
        (s.perform operation host).socket.output.filled =
          s.output.filled := by
    intro hQuiet
    rw [output_perform_of_isQuiet s hQuiet]
  cases operation with
  | send payload =>
      exact (refused_send hMute hFitted payload host).output
  | sendTo payload address =>
      rcases refused_sendTo hMute hFitted payload address
          host with
        ⟨_, hRefused⟩ | hOther
      · exact hRefused.output
      · change
          (s.sendTo payload address
            host).socket.output.filled = _
        rw [hOther]
        rfl
  | sendRaw data =>
      have hAll := Buffer.size_add_remaining s.output
      rw [← Buffer.length_filled] at hAll
      rcases sendRaw_of_isMute hMute data host with
        ⟨hRoom, hResult, hOutput⟩ | ⟨hRoom, hResult, hOutput⟩
      · rw [Operation.queue, if_pos (by omega)]
        exact hOutput
      · rw [Operation.queue, if_neg (by omega)]
        exact hOutput
  | flush => exact hFlush
  | poll => exact hQuiet trivial
  | drain => exact hQuiet trivial
  | notify notification =>
      cases notification with
      | connected => exact hQuiet trivial
      | readable => exact hQuiet trivial
      | closed code => exact hQuiet trivial
      | writable =>
          unfold perform handle onWritable
          dsimp only [resulting]
          split
          · rfl
          · exact hFlush

/- A listening socket leaves its input alone. -/
theorem input_perform_of_listener
    (hListener : s.listener = true)
    (operation : Operation)
    (host : Host Network) :
    (s.perform operation host).socket.input = s.input := by
  by_cases hReadable : operation = .notify .readable
  · subst hReadable
    rcases acceptConnection_reach s host with
      ⟨events, hAccept⟩
    unfold perform handle onReadable
    dsimp only [resulting]
    rw [if_pos hListener, hAccept]
  · exact (aside_perform s hReadable host).input

/- A listening socket keeps its endpoint a listener. -/
theorem isListener_perform
    (hListener : s.listener = true)
    (hStream : s.transport.IsListener)
    (operation : Operation)
    (host : Host Network) :
    (s.perform operation host).socket.transport.IsListener := by
  by_cases hReadable : operation = .notify .readable
  · subst hReadable
    rcases acceptConnection_reach s host with
      ⟨events, hAccept⟩
    have hStays :=
      Endpoint.accept_stays s.transport host.world
    unfold perform handle onReadable
    dsimp only [resulting]
    rw [if_pos hListener, hAccept]
    exact hStays.listener hStream
  · apply perform_keeps
      (P := fun (e : Endpoint) (_ : Network) => e.IsListener)
    · intro hThis
      exact absurd hThis hReadable
    · intro _ e bs net hHolds
      exact (Endpoint.send_stays e bs net).listener hHolds
    · intro hThis
      exact absurd hThis hReadable
    · intro hThis
      exact absurd hThis hReadable
    · intro e code net hHolds
      exact hHolds
    · exact hStream

end Socket

------------------------------------------------------------
-- Listening Lives
------------------------------------------------------------

namespace Moment

/- What a moment leaves of the bytes that wait. -/
def queue
    (room : Nat)
    (waiting : Bytes)
    (moment : Moment Endpoint Network) : Bytes :=
  match moment with
  | .operate operation => operation.queue room waiting
  | .disturb _ => waiting

/- The raw bytes that the moments leave, one by one. -/
def queued
    (room : Nat)
    (moments : List (Moment Endpoint Network)) : Bytes :=
  moments.foldl (queue room) []

/- Nothing is queued where there are no raw bytes. -/
theorem queued_eq_nil
    {room : Nat}
    {moments : List (Moment Endpoint Network)}
    (hFramed :
      ∀ data,
        Moment.operate (.sendRaw data) ∈ moments →
          data = []) :
    queued room moments = [] := by
  unfold queued
  apply List.foldlRecOn
    (motive := fun waiting => waiting = [])
    moments (queue room)
  · rfl
  · intro waiting hNone moment hMember
    cases moment with
    | disturb change => exact hNone
    | operate operation =>
        cases operation with
        | sendRaw data =>
            rw [hFramed data hMember, hNone]
            simp only [queue, Socket.Operation.queue,
              List.append_nil, ite_self]
        | _ => exact hNone

end Moment

/- A life has queued raw bytes and nothing else. -/
structure Life.Listens
    (room : Nat)
    (waiting : Bytes)
    (r : Life Endpoint Network) : Prop where
  listener : r.socket.listener = true
  stream : r.socket.transport.IsListener
  fitted : Socket.Fitted r.socket
  room : r.socket.output.capacity = room
  input : r.socket.input.filled = []
  output : r.socket.output.filled = waiting

/- A moment queues its raw bytes and nothing else. -/
theorem Life.Listens.pass
    {room : Nat}
    {waiting : Bytes}
    {r : Life Endpoint Network}
    (hListens : Listens room waiting r)
    {moment : Moment Endpoint Network}
    (hKeeps : moment.KeepsListener) :
    Listens room (moment.queue room waiting)
      (Socket.pass r moment) := by
  cases moment with
  | disturb change =>
      exact ⟨hListens.listener,
        hKeeps _ _ hListens.stream,
        ⟨hListens.fitted.room, hListens.fitted.limit⟩,
        hListens.room, hListens.input, hListens.output⟩
  | operate operation =>
      have hShape :=
        Socket.perform_shape r.socket operation r.host
      have hFitted := hListens.fitted.of_shape_eq hShape
      have hMute : r.socket.transport.IsMute :=
        .inr hListens.stream
      constructor
      · exact (congrArg Socket.Shape.listener hShape).trans
          hListens.listener
      · exact
          Socket.isListener_perform hListens.listener
            hListens.stream operation r.host
      · exact hFitted
      · exact (congrArg Socket.Shape.outputRoom hShape).trans
          hListens.room
      · exact
          (congrArg Buffer.filled
            (Socket.input_perform_of_listener
              hListens.listener operation r.host)).trans
            hListens.input
      · have hOutput :=
          Socket.output_perform_of_isMute hMute
            hListens.fitted operation r.host
        rw [hListens.room, hListens.output] at hOutput
        exact hOutput

/- A listener goes on listening over many moments. -/
theorem Life.Listens.foldl
    {room : Nat}
    {waiting : Bytes}
    {r : Life Endpoint Network}
    (hListens : Listens room waiting r)
    {moments : List (Moment Endpoint Network)}
    (hKeeps : ∀ moment ∈ moments, moment.KeepsListener) :
    Listens room (moments.foldl (Moment.queue room) waiting)
      (moments.foldl Socket.pass r) := by
  induction moments generalizing waiting r with
  | nil => exact hListens
  | cons moment moments ih =>
      have hNext :=
        hListens.pass (hKeeps moment List.mem_cons_self)
      apply ih hNext
      intro later hMember
      exact hKeeps later (List.mem_cons_of_mem _ hMember)

namespace Origin

/- A listening socket starts with empty buffers. -/
theorem listens_nil
    {origin : Origin Endpoint Network}
    (hListener : origin.listener = true)
    (hStream : origin.transport.IsListener) :
    Life.Listens (origin.limit + Frame.prefixSize) []
      (origin.live []) := by
  have hStarted :
      origin.started.socket.transport.IsListener ∧
        origin.started.socket.input.filled = [] ∧
        origin.started.socket.output.filled = [] := by
    have hStays :=
      Endpoint.listen_stays origin.transport
        origin.host.world
    unfold started Socket.start
    dsimp only
    rw [if_pos hListener]
    exact ⟨hStays.listener hStream,
      Buffer.filled_ofCapacity _,
      Buffer.filled_ofCapacity _⟩
  constructor
  · exact (listener_live origin []).trans hListener
  · exact hStarted.1
  · exact fitted_live origin []
  · exact
      congrArg Socket.Shape.outputRoom (started_shape origin)
  · exact hStarted.2.1
  · exact hStarted.2.2

/-
  Whatever happens to a listening socket, as long as its
  endpoint remains a listener: its input is empty, and its
  output holds the raw bytes that it was given while there
  was room.  No packet is acknowledged unless such bytes
  wait, and without any nothing waits.
-/
theorem buffers_of_listener
    {origin : Origin Endpoint Network}
    (hListener : origin.listener = true)
    (hStream : origin.transport.IsListener)
    {moments : List (Moment Endpoint Network)}
    (hKeeps : ∀ moment ∈ moments, moment.KeepsListener) :
    let s := (origin.live moments).socket
    let host := (origin.live moments).host
    s.bufferedInput = 0 ∧
      s.output.filled = Moment.queued s.capacity moments ∧
      (s.pendingOutput = 0 →
        ∀ operation payload n,
          operation.payload? = some payload →
            (s.perform operation host).result ≠
              .count (.ok n)) ∧
      ((∀ data,
          Moment.operate (.sendRaw data) ∈ moments →
            data = []) →
        s.pendingOutput = 0) := by
  intro s host
  have hListens : Life.Listens _ _ (origin.live moments) :=
    (listens_nil hListener hStream).foldl hKeeps
  have hOutput :
      s.output.filled = Moment.queued s.capacity moments := by
    rw [capacity_live]
    exact hListens.output
  refine ⟨?_, hOutput, ?_, ?_⟩
  · rw [Socket.bufferedInput, ← Buffer.length_filled,
      hListens.input]
    rfl
  · intro hIdle operation payload n hPacket hOk
    rcases Socket.eq_of_count_ok (.inr hListens.stream)
        hListens.fitted hOk with
      ⟨_, _, rfl | rfl⟩ | ⟨hBusy, _⟩
    · cases hPacket
    · cases hPacket
    · exact hBusy hIdle
  · intro hFramed
    rw [← Socket.filled_output_eq_nil_iff, hOutput]
    exact Moment.queued_eq_nil hFramed

/- A listener in memory, and a connector to it. -/
def doorkeeper : Origin Endpoint Network × Connector :=
  let ends := Network.listener {} (.loopback 5222)
  ({ transport := ends.1.1
     listener := true
     framing := { maxPacketSize := 4 }
     host := { world := ends.2 } },
    ends.1.2)

/- A client comes, and an accept fails before it is taken. -/
def visits : List (Moment Endpoint Network) :=
  [.connect doorkeeper.2 (.loopback 40001),
    .handle (.failNextAccept .connectionReset),
    .operate (.notify .readable),
    .operate (.notify .readable), .operate (.send [7])]

/- Nothing waits after that, and packets are refused. -/
theorem buffers_of_listener_visited :
    doorkeeper.1.listener = true ∧
      doorkeeper.1.transport.IsListener ∧
      (∀ moment ∈ visits, moment.KeepsListener) ∧
      (doorkeeper.1.live visits).socket.bufferedInput = 0 ∧
      (doorkeeper.1.live visits).socket.pendingOutput = 0 ∧
      ∀ n,
        ((doorkeeper.1.live visits).socket.perform
            (.send [8]) (doorkeeper.1.live visits).host).result ≠
          .count (.ok n) := by
  have hListener : doorkeeper.1.listener = true := rfl
  have hStream : doorkeeper.1.transport.IsListener :=
    ⟨0, false, rfl⟩
  have hKeeps : ∀ moment ∈ visits, moment.KeepsListener := by
    intro moment hMember
    simp only [visits, List.mem_cons, List.not_mem_nil,
      or_false] at hMember
    rcases hMember with rfl | rfl | rfl | rfl | rfl
    · exact Moment.connect_keepsListener _ _
    · exact Moment.handle_keepsListener _
    all_goals exact trivial
  have hFramed :
      ∀ data,
        Moment.operate (.sendRaw data) ∈ visits →
          data = [] := by
    intro data hMember
    simp [visits, Moment.connect, Moment.handle] at hMember
  rcases buffers_of_listener hListener hStream hKeeps with
    ⟨hInput, hOutput, hRefused, hNothing⟩
  have hIdle := hNothing hFramed
  exact ⟨hListener, hStream, hKeeps, hInput, hIdle,
    fun n => hRefused hIdle (.send [8]) [8] n rfl⟩

/- Raw bytes stay, and a packet behind them is accepted. -/
theorem listener_accepts_packet :
    let strayed := doorkeeper.1.live [.operate (.sendRaw [1])]
    strayed.socket.listener = true ∧
      strayed.socket.pendingOutput = 1 ∧
      (strayed.socket.send [2] strayed.host).result =
        .ok 1 := by
  refine ⟨?_, ?_, ?_⟩
  · rfl
  · rfl
  · rfl

end Origin

end FrameLink
