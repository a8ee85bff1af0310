import FrameLink.Proofs.Socket.Sending

/-
  The calls that move bytes.

  An operation makes at most one call that moves bytes.  What
  it offers to its stream can be told from the socket
  beforehand, and where that is nothing the stream is not
  called at all (`Socket.offers_perform`).  Only a readable
  connection receives, into all the room of its input
  (`Socket.journal_readInput`).

  Key definitions include:
    * `Exchange.InRange`
    * `Journaled.Offers`
    * `Socket.offeredFrame`, `Socket.Operation.offer`
-/

------------------------------------------------------------
-- Exchanges
------------------------------------------------------------

namespace FrameLink

/-
  The call is not in vain, and it moves no more bytes than a
  buffer of a given capacity holds.
-/
def Exchange.InRange (capacity : Nat) : Exchange → Prop
  | .sent offered _ =>
      offered ≠ [] ∧ offered.length ≤ capacity
  | .received room answer _ =>
      0 < room ∧ room ≤ capacity ∧
        ∀ bs, answer = .ok bs → bs.length ≤ room

namespace Journaled

variable {τ ω : Type} [Transport τ ω]

/-
  Bytes are offered to a stream in one call, unless there are
  none, and the stream answers as it does in that world.
-/
inductive Offers
    (before : Journaled τ)
    (w : ω)
    (after : Journaled τ) : Bytes → Prop where
  | nothing
      (hJournal : after.journal = before.journal) :
      Offers before w after []
  | something
      {offered : Bytes}
      (hSome : offered ≠ [])
      (hJournal :
        after.journal =
          before.journal ++
            [.sent offered
              (Transport.send before.stream offered
                w).result]) :
      Offers before w after offered

theorem Offers.setError
    {before after : Journaled τ}
    {w : ω}
    {offered : Bytes}
    (hOffers : Offers before w after offered)
    (code : ErrorCode) :
    Offers before w (Transport.setError after code)
      offered := by
  cases hOffers with
  | nothing hJournal => exact .nothing hJournal
  | something hSome hJournal =>
      exact .something hSome hJournal

end Journaled

------------------------------------------------------------
-- Sending
------------------------------------------------------------

namespace Socket

variable {τ ω : Type} [Transport τ ω]

/- The frame of a packet that is neither refused nor shed. -/
def offeredFrame (s : Socket τ) (payload : Bytes) : Bytes :=
  if payload.length ≤ s.maxPacketSize ∧
      s.output.filled = [] then
    Frame.bytes payload
  else
    []

/- The bytes that an operation offers to the stream. -/
def Operation.offer (s : Socket τ) : Operation → Bytes
  | .send payload => s.offeredFrame payload
  | .sendTo payload address =>
      if Transport.remoteAddress s.transport =
          some address then
        s.offeredFrame payload
      else
        []
  | .sendRaw data =>
      if data.length ≤ s.output.remaining then
        s.output.filled ++ data
      else
        []
  | .flush => s.output.filled
  | .notify .writable => s.output.filled
  | _ => []

/- A flush offers all that waits. -/
theorem offers_flush
    (s : Socket (Journaled τ))
    (host : Host ω) :
    Journaled.Offers s.transport host.world
      (s.flush host).socket.transport s.output.filled := by
  unfold flush
  by_cases hEmpty : s.output.isEmpty = true
  · rw [if_pos hEmpty, Buffer.isEmpty_iff.mp hEmpty]
    exact .nothing rfl
  · rw [if_neg hEmpty]
    have hSome : s.output.filled ≠ [] :=
      fun hNone => hEmpty (Buffer.isEmpty_iff.mpr hNone)
    dsimp only
    split
    · exact .something hSome rfl
    · split
      · exact .something hSome rfl
      · split
        · exact .something hSome rfl
        · exact .something hSome rfl

/- A frame on an idle output is offered as a whole. -/
theorem offers_sendFrame
    {s : Socket (Journaled τ)}
    {payload : Bytes}
    (hIdle : s.output.filled = [])
    (hRoom :
      (Frame.bytes payload).length ≤ s.output.capacity)
    (host : Host ω) :
    Journaled.Offers s.transport host.world
      (s.sendFrame (Frame.prefixBytes payload.length) payload
        host).socket.transport
      (Frame.bytes payload) := by
  have hFlush :=
    offers_flush
      { s with
        output :=
          (s.output.append
            (Frame.prefixBytes payload.length)).append
              payload }
      host
  dsimp only at hFlush
  rw [Buffer.filled_frame hIdle hRoom] at hFlush
  unfold sendFrame
  dsimp only
  split
  · exact hFlush.setError _
  · split
    · exact hFlush.setError _
    · exact hFlush

/- A packet offers its frame, or it offers nothing. -/
theorem offers_send
    {s : Socket (Journaled τ)}
    (hRoom :
      s.output.capacity = s.maxPacketSize + Frame.prefixSize)
    (hMost : s.maxPacketSize ≤ Frame.maxPayload)
    (payload : Bytes)
    (host : Host ω) :
    Journaled.Offers s.transport host.world
      (s.send payload host).socket.transport
      (s.offeredFrame payload) := by
  have hAnnounced := Frame.maxPayload_le_maxAnnounced
  unfold send offeredFrame
  split
  · rename_i e hRefused
    rw [if_neg]
    · exact .nothing rfl
    · rintro ⟨hFits, _⟩
      rw [Frame.encodePrefix_eq_ok_iff.mpr
        ⟨hFits, by omega, rfl⟩] at hRefused
      cases hRefused
  · rename_i front hFront
    rcases Frame.encodePrefix_eq_ok_iff.mp hFront with
      ⟨hFits, _, rfl⟩
    split
    · rename_i hEmpty
      have hIdle := Buffer.isEmpty_iff.mp hEmpty
      rw [if_pos ⟨hFits, hIdle⟩]
      apply offers_sendFrame hIdle
      rw [Frame.length_bytes]
      omega
    · rename_i hBusy
      rw [if_neg]
      · exact .nothing rfl
      · rintro ⟨_, hIdle⟩
        exact hBusy (Buffer.isEmpty_iff.mpr hIdle)

/- Raw bytes are offered behind those that wait. -/
theorem offers_sendRaw
    (s : Socket (Journaled τ))
    (data : Bytes)
    (host : Host ω) :
    Journaled.Offers s.transport host.world
      (s.sendRaw data host).socket.transport
      (if data.length ≤ s.output.remaining then
        s.output.filled ++ data
      else
        []) := by
  unfold sendRaw Buffer.append?
  by_cases hFits : data.length ≤ s.output.remaining
  · rw [if_pos hFits, if_pos hFits]
    have hFilled :
        (s.output.fill data).filled =
          s.output.filled ++ data := by
      rw [Buffer.filled_fill, List.take_of_length_le hFits]
    have hFlush :=
      offers_flush { s with output := s.output.fill data } host
    dsimp only at hFlush
    rw [hFilled] at hFlush
    exact hFlush
  · rw [if_neg hFits, if_neg hFits]
    exact .nothing rfl

/-
  What is offered can be told beforehand.  Only a readable
  notification is left out, which offers nothing either.
-/
theorem offers_perform
    {s : Socket (Journaled τ)}
    (hRoom :
      s.output.capacity = s.maxPacketSize + Frame.prefixSize)
    (hMost : s.maxPacketSize ≤ Frame.maxPayload)
    {operation : Operation}
    (hOther : operation ≠ .notify .readable)
    (host : Host ω) :
    Journaled.Offers s.transport host.world
      (s.perform operation host).socket.transport
      (operation.offer s) := by
  cases operation with
  | send payload => exact offers_send hRoom hMost payload host
  | sendTo payload address =>
      unfold perform sendTo Operation.offer
      dsimp only [resulting]
      split
      · exact offers_send hRoom hMost payload host
      · exact .nothing rfl
  | sendRaw data => exact offers_sendRaw s data host
  | flush => exact offers_flush s host
  | poll =>
      unfold perform poll
      dsimp only
      split
      · exact .nothing rfl
      · exact .nothing rfl
  | drain => exact .nothing rfl
  | notify notification =>
      cases notification with
      | connected => exact .nothing rfl
      | readable => exact absurd rfl hOther
      | writable =>
          have hFlush := offers_flush s host
          unfold perform handle onWritable Operation.offer
          dsimp only [resulting]
          split
          · rename_i hEmpty
            rw [Buffer.isEmpty_iff.mp hEmpty]
            exact .nothing rfl
          · exact hFlush
      | closed code =>
          rcases announceClose_reach s code with
            ⟨closed, events, hClose⟩
          simp only [perform, resulting, handle, hClose]
          exact .nothing rfl

omit [Transport τ ω] in
/- A frame that is offered fits the output. -/
theorem length_offeredFrame_le
    {s : Socket τ}
    (hRoom :
      s.output.capacity = s.maxPacketSize + Frame.prefixSize)
    (payload : Bytes) :
    (s.offeredFrame payload).length ≤ s.output.capacity := by
  unfold offeredFrame
  split
  · rename_i hBoth
    rw [Frame.length_bytes]
    omega
  · exact Nat.zero_le _

/- What is offered fits the output. -/
theorem length_offer_le
    {s : Socket τ}
    (hRoom :
      s.output.capacity = s.maxPacketSize + Frame.prefixSize)
    (operation : Operation) :
    (operation.offer s).length ≤ s.output.capacity := by
  have hAll := Buffer.size_add_remaining s.output
  have hWaiting := Buffer.length_filled s.output
  unfold Operation.offer
  split
  · exact length_offeredFrame_le hRoom _
  · split
    · exact length_offeredFrame_le hRoom _
    · exact Nat.zero_le _
  · split
    · rw [List.length_append]
      omega
    · exact Nat.zero_le _
  · omega
  · omega
  · exact Nat.zero_le _

------------------------------------------------------------
-- Receiving
------------------------------------------------------------

/- An overflow moves no bytes. -/
theorem journal_overflow
    (s : Socket (Journaled τ))
    (host : Host ω) :
    (s.overflow host).socket.transport.journal =
      s.transport.journal := by
  apply overflow_keeps
    (P := fun (j : Journaled τ) (_ : ω) =>
      j.journal = s.transport.journal)
  · intro j w hHolds
    exact hHolds
  · intro j code w hHolds
    exact hHolds
  · rfl

/- A read is one receive into all the room of the input. -/
theorem journal_readInput
    (s : Socket (Journaled τ))
    (host : Host ω) :
    let o :=
      Transport.receive s.transport.stream
        s.input.remaining host.world
    (s.readInput host).socket.transport.journal =
      s.transport.journal ++
        [.received s.input.remaining o.result
          (Transport.remoteAddress o.transport)] := by
  intro o
  unfold readInput
  dsimp only
  split
  · unfold takeBytes
    dsimp only
    split
    · exact journal_overflow _ _
    · rfl
  · split
    · rfl
    · rfl

theorem journal_acceptConnection
    (s : Socket (Journaled τ))
    (host : Host ω) :
    (s.acceptConnection host).socket.transport.journal =
      s.transport.journal := by
  rcases acceptConnection_reach s host with
    ⟨events, hAccept⟩
  rw [hAccept]
  rfl

end Socket

------------------------------------------------------------
-- The Offer of a Packet
------------------------------------------------------------

namespace Origin

variable {τ ω : Type} [Transport τ ω]

/- A recorded socket has room for a frame of its limit. -/
theorem fits_recorded
    (origin : Origin τ ω)
    (moments : List (Moment τ ω)) :
    let s := (origin.recorded moments).socket
    s.output.capacity = s.maxPacketSize + Frame.prefixSize ∧
      s.maxPacketSize = origin.limit := by
  intro s
  have hShape :=
    shape_live origin.journaled (moments.map .journaled)
  have hLimit : s.maxPacketSize = origin.limit :=
    maxPacketSize_live origin.journaled _
  refine ⟨?_, hLimit⟩
  rw [hLimit]
  exact congrArg Socket.Shape.outputRoom hShape

/- On an idle socket a packet offers its frame. -/
theorem journal_send_of_idle
    (origin : Origin τ ω)
    (moments : List (Moment τ ω))
    {payload : Bytes}
    (hFits :
      payload.length ≤
        (origin.live moments).socket.maxPacketSize)
    (hIdle :
      (origin.live moments).socket.pendingOutput = 0) :
    ∃ answer,
      (origin.journal
          (moments ++ [.operate (.send payload)])).journal =
        (origin.journal moments).journal ++
          [.sent (Frame.bytes payload) answer] := by
  rcases fits_recorded origin moments with ⟨hRoom, hLimit⟩
  rw [maxPacketSize_live, ← hLimit] at hFits
  rw [← Socket.filled_output_eq_nil_iff, output_live] at hIdle
  have hMost :
      (origin.recorded moments).socket.maxPacketSize ≤
        Frame.maxPayload := by
    rw [hLimit]
    exact Nat.min_le_right _ _
  have hOffers :=
    Socket.offers_send hRoom hMost payload
      (origin.recorded moments).host
  rw [Socket.offeredFrame, if_pos ⟨hFits, hIdle⟩] at hOffers
  rw [journal, recorded_concat]
  generalize hFrame : Frame.bytes payload = frame at hOffers
  cases hOffers with
  | nothing hJournal => cases hFrame
  | something hSome hJournal => exact ⟨_, hJournal⟩

end Origin

end FrameLink
