import FrameLink.Proofs.Socket.Atomic
import FrameLink.Proofs.Socket.Limits

/-
  What a socket hears of its stream.

  In an operation a connection makes at most one call that
  moves bytes, which can be told from its state
  (`Origin.journal_operate`), and it may ask who its peer is.
  It learns nothing else: over two streams that answer alike
  it does the same, in whatever worlds these live
  (`Socket.alike_perform`).

  Key definitions include:
    * `Hearing`, `Exchange.heard`
    * `Request`, `Exchange.request`
    * `Socket.exchanges`, `Socket.hears`
    * `Reply.Alike`
-/

------------------------------------------------------------
-- What Is Asked and Heard
------------------------------------------------------------

namespace FrameLink

/- What a socket asks of its stream, to move bytes. -/
inductive Request where
  | send (offered : Bytes)
  | receive (room : Nat)
  deriving DecidableEq

/- What a socket learns from its stream. -/
inductive Hearing where
  | peer (remote : Option Address)
  | sent (result : Except IoError Nat)
  /- A receive that fails is not asked whence it came. -/
  | received
      (result : Except IoError Bytes)
      (remote : Option Address)
  deriving DecidableEq

namespace Exchange

/- The request of an exchange. -/
def request : Exchange → Request
  | .sent offered _ => .send offered
  | .received room _ _ => .receive room

/- What is learnt from an exchange. -/
def heard : Exchange → Hearing
  | .sent _ result => .sent result
  | .received _ (.ok bs) remote => .received (.ok bs) remote
  | .received _ (.error e) _ => .received (.error e) none

end Exchange

namespace Socket

variable {τ ω : Type} [Transport τ ω]

/- The call of an operation that moves bytes, if any. -/
def exchanges
    (s : Socket τ)
    (operation : Operation)
    (host : Host ω) : List Exchange :=
  if operation = .notify .readable then
    if s.listener then
      []
    else
      let o :=
        Transport.receive s.transport s.input.remaining
          host.world
      [.received s.input.remaining o.result
        (Transport.remoteAddress o.transport)]
  else if operation.offer s = [] then
    []
  else
    [.sent (operation.offer s)
      (Transport.send s.transport (operation.offer s)
        host.world).result]

/- What an operation is told of the peer before all else. -/
def Operation.asked (s : Socket τ) : Operation → List Hearing
  | .sendTo _ _ =>
      [.peer (Transport.remoteAddress s.transport)]
  | _ => []

/- What the socket learns from its stream in an operation. -/
def hears
    (s : Socket τ)
    (operation : Operation)
    (host : Host ω) : List Hearing :=
  operation.asked s ++
    (s.exchanges operation host).map Exchange.heard

theorem offer_map_stream
    (s : Socket (Journaled τ))
    (operation : Operation) :
    operation.offer (s.map Journaled.stream) =
      operation.offer s := by
  unfold Operation.offer offeredFrame maxPacketSize
  simp only [map_eq]
  rfl

/- The journal gains the call that can be told beforehand. -/
theorem journal_perform
    {limit : Nat}
    {s : Socket (Journaled τ)}
    (hLimit : HasLimit limit s)
    (hMost : limit ≤ Frame.maxPayload)
    (operation : Operation)
    (host : Host ω) :
    (s.perform operation host).socket.transport.journal =
      s.transport.journal ++
        (s.map Journaled.stream).exchanges operation
          host := by
  unfold exchanges
  simp only [offer_map_stream, map_transport, map_listener,
    map_input]
  by_cases hReadable : operation = .notify .readable
  · rw [if_pos hReadable]
    subst hReadable
    cases hListener : s.listener with
    | true =>
        rw [perform_readable_of_listener hListener,
          if_pos rfl, List.append_nil]
        exact journal_acceptConnection s host
    | false =>
        rw [perform_readable hListener,
          if_neg Bool.false_ne_true]
        exact journal_readInput s host
  · rw [if_neg hReadable]
    have hRoom :
        s.output.capacity =
          s.maxPacketSize + Frame.prefixSize := by
      rw [hLimit.output, hLimit.packet]
    have hOffers :=
      offers_perform hRoom (hLimit.packet ▸ hMost) hReadable
        host
    generalize operation.offer s = offered at hOffers
    cases hOffers with
    | nothing hJournal =>
        rw [if_pos rfl, List.append_nil]
        exact hJournal
    | something hSome hJournal =>
        rw [if_neg hSome]
        exact hJournal

end Socket

namespace Origin

variable {τ ω : Type} [Transport τ ω]

/- The journal of a life gains the call of an operation. -/
theorem journal_operate
    (origin : Origin τ ω)
    (moments : List (Moment τ ω))
    (operation : Socket.Operation) :
    let life := origin.live moments
    (origin.journal
        (moments ++ [.operate operation])).journal =
      (origin.journal moments).journal ++
        life.socket.exchanges operation life.host := by
  intro life
  have hLimit :
      Socket.HasLimit origin.limit
        (origin.recorded moments).socket :=
    hasLimit_live origin.journaled (moments.map .journaled)
  change _ = _ ++ (origin.live moments).socket.exchanges _ _
  rw [socket_live, host_live]
  rw [journal, recorded_concat]
  exact
    Socket.journal_perform hLimit (Nat.min_le_right _ _)
      operation (origin.recorded moments).host

end Origin

------------------------------------------------------------
-- Replies Alike
------------------------------------------------------------

/- Two replies that differ in stream and world alone. -/
structure Reply.Alike
    {τ ω α : Type}
    (r r' : Reply τ ω α) : Prop where
  result : r'.result = r.result
  socket :
    r'.socket =
      { r.socket with transport := r'.socket.transport }
  measures :
    Report.measures r'.reports = Report.measures r.reports

namespace Socket

variable {τ ω : Type} [Transport τ ω]
variable {s : Socket τ} {t : τ} {host host' : Host ω}

/- A flush does the same if it is answered the same. -/
theorem alike_flush
    (hAnswer :
      s.output.filled ≠ [] →
        (Transport.send t s.output.filled
            host'.world).result =
          (Transport.send s.transport s.output.filled
            host.world).result) :
    Reply.Alike (s.flush host)
      (flush { s with transport := t } host') := by
  unfold flush
  dsimp only
  by_cases hEmpty : s.output.isEmpty = true
  · rw [if_pos hEmpty, if_pos hEmpty]
    exact ⟨rfl, rfl, rfl⟩
  · rw [if_neg hEmpty, if_neg hEmpty,
      hAnswer (fun hNone =>
        hEmpty (Buffer.isEmpty_iff.mpr hNone))]
    split
    · exact ⟨rfl, rfl, rfl⟩
    · split
      · exact ⟨rfl, rfl, rfl⟩
      · split
        · exact ⟨rfl, rfl, rfl⟩
        · exact ⟨rfl, rfl, rfl⟩

theorem alike_discard
    {r r' : Reply τ ω (Except SocketError Nat)}
    (hAlike : Reply.Alike r r')
    (e : SocketError) :
    Reply.Alike (discard r e) (discard r' e) := by
  refine ⟨rfl, ?_, hAlike.measures⟩
  unfold discard
  rw [hAlike.socket]
  rfl

/- Frames do the same if they are answered the same. -/
theorem alike_sendFrame
    {front payload : Bytes}
    (hAnswer :
      let queued :=
        ((s.output.append front).append payload).filled
      (Transport.send t queued host'.world).result =
        (Transport.send s.transport queued
          host.world).result) :
    Reply.Alike (s.sendFrame front payload host)
      (sendFrame { s with transport := t } front payload
        host') := by
  have hFlush :=
    alike_flush
      (s :=
        { s with
          output := (s.output.append front).append payload })
      (fun _ => hAnswer)
  unfold sendFrame
  dsimp only at hFlush ⊢
  rw [hFlush.result]
  split
  · exact alike_discard hFlush _
  · split
    · exact alike_discard hFlush _
    · refine ⟨rfl, hFlush.socket, ?_⟩
      simp only [Report.measures_append, hFlush.measures]
      rw [hFlush.socket]

/- Packets do the same if their frames are answered so. -/
theorem alike_send
    {limit : Nat}
    (hLimit : HasLimit limit s)
    {payload : Bytes}
    (hAnswer :
      s.offeredFrame payload ≠ [] →
        (Transport.send t (s.offeredFrame payload)
            host'.world).result =
          (Transport.send s.transport
            (s.offeredFrame payload) host.world).result) :
    Reply.Alike (s.send payload host)
      (send { s with transport := t } payload host') := by
  have hMost :
      maxPacketSize { s with transport := t } =
        s.maxPacketSize :=
    rfl
  unfold send
  rw [hMost]
  cases hFront :
      Frame.encodePrefix payload.length s.maxPacketSize with
  | error e => exact ⟨rfl, rfl, rfl⟩
  | ok front =>
      rcases Frame.encodePrefix_eq_ok_iff.mp hFront with
        ⟨hFits, _, rfl⟩
      dsimp only
      by_cases hEmpty : s.output.isEmpty = true
      · rw [if_pos hEmpty, if_pos hEmpty]
        have hIdle := Buffer.isEmpty_iff.mp hEmpty
        have hRoom :
            (Frame.bytes payload).length ≤
              s.output.capacity := by
          rw [Frame.length_bytes, hLimit.output,
            ← hLimit.packet]
          omega
        rw [offeredFrame, if_pos ⟨hFits, hIdle⟩] at hAnswer
        apply alike_sendFrame
        dsimp only
        rw [Buffer.filled_frame hIdle hRoom]
        exact hAnswer (List.cons_ne_nil _ _)
      · rw [if_neg hEmpty, if_neg hEmpty]
        exact ⟨rfl, rfl, rfl⟩

/- Raw bytes do the same if they are answered the same. -/
theorem alike_sendRaw
    {data : Bytes}
    (hAnswer :
      s.output.filled ++ data ≠ [] →
        data.length ≤ s.output.remaining →
          (Transport.send t (s.output.filled ++ data)
              host'.world).result =
            (Transport.send s.transport
              (s.output.filled ++ data)
              host.world).result) :
    Reply.Alike (s.sendRaw data host)
      (sendRaw { s with transport := t } data host') := by
  unfold sendRaw
  dsimp only
  cases hRoom : s.output.append? data with
  | none => exact ⟨rfl, rfl, rfl⟩
  | some output =>
      have hFits := (Buffer.append?_eq_some_iff.mp hRoom).1
      have hFilled := Buffer.filled_append? hRoom
      have hFlush :
          Reply.Alike (flush { s with output } host)
            (flush { s with output, transport := t }
              host') := by
        apply alike_flush (s := { s with output })
        dsimp only
        rw [hFilled]
        exact fun hSome => hAnswer hSome hFits
      refine ⟨hFlush.result, hFlush.socket, ?_⟩
      exact
        congrArg
          (Measure.rawQueued (UInt64.ofNat data.length) :: ·)
          hFlush.measures

theorem deliver_alike
    (hPeer :
      Transport.remoteAddress t =
        Transport.remoteAddress s.transport) :
    deliver { s with transport := t } =
      ({ s.deliver.1 with transport := t },
        s.deliver.2) := by
  unfold deliver
  dsimp only
  rw [hPeer]

/- An overflow does the same, however the close is answered. -/
theorem alike_overflow :
    Reply.Alike (s.overflow host)
      (overflow { s with transport := t } host') := by
  have hMeasures :
      Report.measures
          (overflow { s with transport := t }
            host').reports =
        Report.measures (s.overflow host).reports := by
    rw [measures_overflow, measures_overflow]
  unfold overflow announceClose at hMeasures ⊢
  dsimp only [setError] at hMeasures ⊢
  cases hPolicy : s.framing.overflowPolicy with
  | reset => exact ⟨rfl, rfl, rfl⟩
  | close =>
      rw [hPolicy] at hMeasures
      dsimp only at hMeasures ⊢
      by_cases hClosed : s.closed = true
      · rw [if_pos hClosed, if_pos hClosed] at hMeasures ⊢
        exact ⟨rfl, rfl, hMeasures⟩
      · rw [if_neg hClosed, if_neg hClosed] at hMeasures ⊢
        exact ⟨rfl, rfl, hMeasures⟩

/- Bytes are taken in the same from the same peer. -/
theorem alike_takeBytes
    (hPeer :
      Transport.remoteAddress t =
        Transport.remoteAddress s.transport)
    (bs : Bytes) :
    Reply.Alike (s.takeBytes bs host)
      (takeBytes { s with transport := t } bs host') := by
  have hDelivered :=
    deliver_alike
      (s := { s with input := s.input.fill bs }) hPeer
  unfold takeBytes
  dsimp only at hDelivered ⊢
  rw [hDelivered]
  dsimp only
  split
  · let delivered :=
      (deliver { s with input := s.input.fill bs }).1
    have hOverflow :
        Reply.Alike (delivered.overflow host)
          (overflow { delivered with transport := t }
            host') :=
      alike_overflow
    refine ⟨rfl, hOverflow.socket, ?_⟩
    simp only [Report.measures_append]
    exact congrArg (_ ++ ·) hOverflow.measures
  · exact ⟨rfl, rfl, rfl⟩

/- A read does the same if it is answered the same. -/
theorem alike_readInput
    (hAnswer :
      let o :=
        Transport.receive s.transport s.input.remaining
          host.world
      let o' :=
        Transport.receive t s.input.remaining host'.world
      Exchange.heard
          (.received s.input.remaining o'.result
            (Transport.remoteAddress o'.transport)) =
        Exchange.heard
          (.received s.input.remaining o.result
            (Transport.remoteAddress o.transport))) :
    Reply.Alike (s.readInput host)
      (readInput { s with transport := t } host') := by
  unfold readInput
  dsimp only at hAnswer ⊢
  cases hResult :
      (Transport.receive s.transport s.input.remaining
        host.world).result with
  | ok bs =>
      cases hResult' :
          (Transport.receive t s.input.remaining
            host'.world).result with
      | error e =>
          rw [hResult, hResult'] at hAnswer
          cases hAnswer
      | ok bs' =>
          rw [hResult, hResult'] at hAnswer
          simp only [Exchange.heard, Hearing.received.injEq,
            Except.ok.injEq] at hAnswer
          rcases hAnswer with ⟨rfl, hPeer⟩
          exact
            alike_takeBytes
              (s :=
                { s with
                  transport :=
                    (Transport.receive s.transport
                      s.input.remaining
                      host.world).transport })
              hPeer bs'
  | error e =>
      cases hResult' :
          (Transport.receive t s.input.remaining
            host'.world).result with
      | ok bs =>
          rw [hResult, hResult'] at hAnswer
          cases hAnswer
      | error e' =>
          rw [hResult, hResult'] at hAnswer
          simp only [Exchange.heard, Hearing.received.injEq,
            Except.error.injEq] at hAnswer
          rcases hAnswer with ⟨rfl, _⟩
          dsimp only
          split
          · exact ⟨rfl, rfl, rfl⟩
          · exact ⟨rfl, rfl, rfl⟩

/- A writable notification does the same as a flush. -/
theorem alike_onWritable
    (hAnswer :
      s.output.filled ≠ [] →
        (Transport.send t s.output.filled
            host'.world).result =
          (Transport.send s.transport s.output.filled
            host.world).result) :
    Reply.Alike (s.onWritable host)
      (onWritable { s with transport := t } host') := by
  have hFlush :
      Reply.Alike (s.flush host)
        (flush { s with transport := t } host') :=
    alike_flush hAnswer
  have hMeasures :
      Report.measures
          (onWritable { s with transport := t }
            host').reports =
        Report.measures (s.onWritable host).reports := by
    rw [measures_onWritable, measures_onWritable]
  unfold onWritable at hMeasures ⊢
  dsimp only at hMeasures ⊢
  by_cases hEmpty : s.output.isEmpty = true
  · rw [if_pos hEmpty, if_pos hEmpty]
    exact ⟨rfl, rfl, rfl⟩
  · rw [if_neg hEmpty, if_neg hEmpty] at hMeasures ⊢
    exact ⟨rfl, hFlush.socket, hMeasures⟩

------------------------------------------------------------
-- Operations Alike
------------------------------------------------------------

/- What is offered depends on the peer, where one is asked. -/
theorem offer_of_asked
    {operation : Operation}
    (hAsked :
      operation.asked { s with transport := t } =
        operation.asked s) :
    operation.offer { s with transport := t } =
      operation.offer s := by
  cases operation with
  | sendTo payload address =>
      simp only [Operation.asked, List.cons.injEq,
        Hearing.peer.injEq] at hAsked
      unfold Operation.offer
      dsimp only
      rw [hAsked.1]
      rfl
  | notify notification => cases notification <;> rfl
  | send | sendRaw | flush | poll | drain => rfl

/- The requests are the same before they are answered. -/
theorem requests_of_asked
    {operation : Operation}
    (hAsked :
      operation.asked { s with transport := t } =
        operation.asked s)
    (host host' : Host ω) :
    (exchanges { s with transport := t } operation
          host').map Exchange.request =
      (s.exchanges operation host).map Exchange.request := by
  unfold exchanges
  rw [offer_of_asked hAsked]
  split
  · dsimp only
    split
    · rfl
    · rfl
  · split
    · rfl
    · rfl

/- What is heard first is heard of the first operation. -/
theorem hears_append_inj
    {operation : Operation}
    {later later' : List Hearing}
    (hSame :
      hears { s with transport := t } operation host' ++
          later' =
        s.hears operation host ++ later) :
    operation.asked { s with transport := t } =
        operation.asked s ∧
      (exchanges { s with transport := t } operation
            host').map Exchange.heard =
          (s.exchanges operation host).map Exchange.heard ∧
        later' = later := by
  unfold hears at hSame
  rw [List.append_assoc, List.append_assoc] at hSame
  have hAsked :
      (operation.asked
          { s with transport := t }).length =
        (operation.asked s).length := by
    cases operation <;> rfl
  rcases List.append_inj hSame hAsked with
    ⟨hFirst, hRest⟩
  have hLength :=
    congrArg List.length
      (requests_of_asked hFirst host host')
  simp only [List.length_map] at hLength
  refine ⟨hFirst, ?_⟩
  exact List.append_inj hRest (by simpa using hLength)

/- Of the same requests the same answers were heard. -/
theorem result_send_of_heard
    {operation : Operation}
    (hOther : operation ≠ .notify .readable)
    (hAsked :
      operation.asked { s with transport := t } =
        operation.asked s)
    (hHeard :
      (exchanges { s with transport := t } operation
            host').map Exchange.heard =
        (s.exchanges operation host).map Exchange.heard)
    (hSome : operation.offer s ≠ []) :
    (Transport.send t (operation.offer s)
        host'.world).result =
      (Transport.send s.transport (operation.offer s)
        host.world).result := by
  unfold exchanges at hHeard
  rw [if_neg hOther, if_neg hOther, offer_of_asked hAsked,
    if_neg hSome, if_neg hSome] at hHeard
  simp only [List.map_cons, List.map_nil, Exchange.heard,
    List.cons.injEq, Hearing.sent.injEq, and_true] at hHeard
  exact hHeard

/-
  An operation of a connection does the same over another
  stream, in another world, if the same is heard of it.
-/
theorem alike_perform
    {limit : Nat}
    (hLimit : HasLimit limit s)
    (hListener : s.listener = false)
    {operation : Operation}
    (hAsked :
      operation.asked { s with transport := t } =
        operation.asked s)
    (hHeard :
      (exchanges { s with transport := t } operation
            host').map Exchange.heard =
        (s.exchanges operation host).map Exchange.heard) :
    Reply.Alike (s.perform operation host)
      (perform { s with transport := t } operation
        host') := by
  -- A receive answers a read, and a send all that offers.
  by_cases hReadable : operation = .notify .readable
  · subst hReadable
    unfold exchanges at hHeard
    dsimp only at hHeard
    rw [hListener, if_pos rfl, if_pos rfl,
      if_neg Bool.false_ne_true, if_neg Bool.false_ne_true]
      at hHeard
    rw [perform_readable hListener,
      perform_readable
        (s := { s with transport := t }) hListener]
    have hRead :
        Reply.Alike (s.readInput host)
          (readInput { s with transport := t } host') := by
      apply alike_readInput
      exact (List.cons.inj hHeard).1
    exact ⟨rfl, hRead.socket, hRead.measures⟩
  · have hAnswer :=
      result_send_of_heard hReadable hAsked hHeard
    cases operation with
    | send payload =>
        have hSend := alike_send hLimit hAnswer
        exact
          ⟨congrArg Result.count hSend.result, hSend.socket,
            hSend.measures⟩
    | sendTo payload address =>
        have hPeer :
            Transport.remoteAddress t =
              Transport.remoteAddress s.transport :=
          Hearing.peer.inj (List.cons.inj hAsked).1
        unfold perform sendTo
        dsimp only [resulting, Operation.offer] at hAnswer ⊢
        rw [hPeer]
        split
        · rename_i hReached
          rw [if_pos hReached] at hAnswer
          have hSend := alike_send hLimit hAnswer
          exact
            ⟨congrArg Result.count hSend.result,
              hSend.socket, hSend.measures⟩
        · exact ⟨rfl, rfl, rfl⟩
    | sendRaw data =>
        have hSend :
            Reply.Alike (s.sendRaw data host)
              (sendRaw { s with transport := t } data
                host') := by
          apply alike_sendRaw
          intro hSome hFits
          dsimp only [Operation.offer] at hAnswer
          rw [if_pos hFits] at hAnswer
          exact hAnswer hSome
        exact
          ⟨congrArg Result.count hSend.result, hSend.socket,
            hSend.measures⟩
    | flush =>
        have hFlush := alike_flush hAnswer
        exact
          ⟨congrArg Result.count hFlush.result,
            hFlush.socket, hFlush.measures⟩
    | poll =>
        unfold perform poll
        dsimp only
        split
        · exact ⟨rfl, rfl, rfl⟩
        · exact ⟨rfl, rfl, rfl⟩
    | drain => exact ⟨rfl, rfl, rfl⟩
    | notify notification =>
        cases notification with
        | readable => exact absurd rfl hReadable
        | connected => exact ⟨rfl, rfl, rfl⟩
        | writable =>
            have hWrite := alike_onWritable hAnswer
            exact ⟨rfl, hWrite.socket, hWrite.measures⟩
        | closed code =>
            unfold perform handle announceClose
            dsimp only [resulting]
            split
            · exact ⟨rfl, rfl, rfl⟩
            · exact ⟨rfl, rfl, rfl⟩

end Socket

end FrameLink
