import FrameLink.Proofs.Socket.Conservation
import FrameLink.Proofs.Socket.Receiving

/-
  The packets that a socket begins to send.

  A packet is begun where nothing waits and its sending
  succeeds; one that is shed succeeds too, but behind bytes
  that wait.  Without raw bytes, the items that a socket
  accepts are the frames of the packets begun, and as many
  packets are counted as sent (`Life.Sends.pass`).

  Key definitions include:
    * `Socket.Operation.payload?`, `Socket.begins`
    * `Life.begins`, `Life.Sends`
-/

------------------------------------------------------------
-- Beginning a Packet
------------------------------------------------------------

namespace FrameLink

namespace Socket

variable {τ σ ω : Type}
variable [Transport τ ω] [Transport σ ω]

/- The payload of the packet that an operation is to send. -/
def Operation.payload? : Operation → Option Bytes
  | .send payload => some payload
  | .sendTo payload _ => some payload
  | _ => none

/-
  The payload of a packet that was to be sent, if nothing
  waited then and the sending has succeeded.
-/
def begunPayload
    (s : Socket τ)
    (payload : Bytes)
    (result : Except SocketError Nat) : List Bytes :=
  if s.pendingOutput = 0 ∧ result.isOk = true then
    [payload]
  else
    []

/- The payload of the packet that an operation begins. -/
def begins
    (s : Socket τ)
    (operation : Operation)
    (host : Host ω) : List Bytes :=
  match operation with
  | .send payload =>
      begunPayload s payload (s.send payload host).result
  | .sendTo payload address =>
      begunPayload s payload (s.sendTo payload address host).result
  | _ => []

/- What is begun does not depend on a map of the stream. -/
theorem begins_map
    {f : τ → σ}
    (hHom : Transport.Hom f)
    (s : Socket τ)
    (operation : Operation)
    (host : Host ω) :
    (s.map f).begins operation host =
      s.begins operation host := by
  have hPending :
      (s.map f).pendingOutput = s.pendingOutput := by
    simp only [pendingOutput, map_output]
  cases operation with
  | send payload =>
      simp only [begins, begunPayload, hPending, send_map hHom,
        Reply.map]
  | sendTo payload address =>
      simp only [begins, begunPayload, hPending, sendTo_map hHom,
        Reply.map]
  | _ => rfl

omit [Transport τ ω] in
theorem Sent.begunFrame_eq_map
    {s : Socket (Journaled τ)}
    {payload : Bytes}
    {r : Reply (Journaled τ) ω (Except SocketError Nat)}
    (hSent : Sent s payload r) :
    begunFrame s r.socket payload =
      (begunPayload s payload r.result).map Frame.bytes := by
  rw [hSent.begunFrame_eq, begunPayload]
  split
  · rfl
  · rfl

omit [Transport τ ω] in
/- A packet that is begun is counted as sent. -/
theorem Sent.countP_isSent
    {s : Socket (Journaled τ)}
    {payload : Bytes}
    {r : Reply (Journaled τ) ω (Except SocketError Nat)}
    (hSent : Sent s payload r) :
    (Report.measures r.reports).countP Measure.isSent =
      (begunPayload s payload r.result).length := by
  unfold begunPayload
  cases hSent with
  | begun n hSome hIdle hResult hOutput hWritten hMeasured =>
      have hSize : s.pendingOutput = 0 :=
        filled_output_eq_nil_iff.mp hIdle
      rw [hMeasured, hResult, if_pos ⟨hSize, rfl⟩]
      rfl
  | shed hBusy hResult hOutput hWritten hMeasured =>
      have hSize : s.pendingOutput ≠ 0 :=
        fun hZero => hBusy (filled_output_eq_nil_iff.mpr hZero)
      rw [hMeasured, if_neg (fun h => hSize h.1)]
      rfl
  | failed e hResult hOutput hWritten hMeasured =>
      rw [hMeasured, hResult, if_neg (fun h => by cases h.2)]
      rfl

/- A packet that is sent is no greater than the limit. -/
theorem length_le_of_send
    {s : Socket τ}
    {payload : Bytes}
    {host : Host ω}
    (hOk : (s.send payload host).result.isOk = true) :
    payload.length ≤ s.maxPacketSize := by
  unfold send at hOk
  split at hOk
  · cases hOk
  · rename_i front hFront
    exact (Frame.encodePrefix_eq_ok_iff.mp hFront).1

/- No packet greater than the limit is begun. -/
theorem length_le_of_mem_begins
    {s : Socket τ}
    {operation : Operation}
    {host : Host ω}
    {payload : Bytes}
    (hMember : payload ∈ s.begins operation host) :
    payload.length ≤ s.maxPacketSize := by
  cases operation with
  | send data =>
      unfold begins begunPayload at hMember
      dsimp only at hMember
      split at hMember
      · rename_i hBegun
        rw [List.mem_singleton.mp hMember]
        exact length_le_of_send hBegun.2
      · cases hMember
  | sendTo data address =>
      unfold begins begunPayload at hMember
      dsimp only at hMember
      split at hMember
      · rename_i hBegun
        rcases hBegun with ⟨_, hOk⟩
        rw [List.mem_singleton.mp hMember]
        unfold sendTo at hOk
        split at hOk
        · exact length_le_of_send hOk
        · cases hOk
      · cases hMember
  | _ => cases hMember

/- Reading sends nothing. -/
theorem countP_isSent_readInput
    (s : Socket τ)
    (host : Host ω) :
    (Report.measures (s.readInput host).reports).countP
      Measure.isSent = 0 := by
  have hDelivered :
      ∀ s : Socket τ,
        (Report.measures (deliver s).2).countP
          Measure.isSent = 0 := by
    intro s
    change
      (Report.measures
        ((Frame.unframe s.input.filled).1.flatMap
          packetReports)).countP Measure.isSent = 0
    rw [Segment.measures_packetReports, List.map_map,
      List.countP_map, List.countP_eq_zero]
    intro payload hMember hSent
    cases hSent
  unfold readInput
  dsimp only
  split
  · unfold takeBytes
    dsimp only
    split
    · rw [Report.measures_append, List.countP_append,
        hDelivered, measures_overflow]
      rfl
    · exact hDelivered _
  · split
    · rfl
    · rfl

/- What sends no packet counts none as sent. -/
theorem countP_isSent_of_payload?_eq_none
    {s : Socket τ}
    (hListener : s.listener = false)
    {operation : Operation}
    (hNone : operation.payload? = none)
    (host : Host ω) :
    (Report.measures
        (s.perform operation host).reports).countP
      Measure.isSent = 0 := by
  cases operation with
  | send | sendTo => cases hNone
  | sendRaw data =>
      unfold perform sendRaw
      dsimp only [resulting]
      split
      · rfl
      · rw [Report.measures_measure, measures_flush]
        rfl
  | flush =>
      change
        (Report.measures (s.flush host).reports).countP _ = _
      rw [measures_flush]
      rfl
  | poll => rfl
  | drain => rfl
  | notify notification =>
      cases notification with
      | connected => rfl
      | readable =>
          unfold perform handle onReadable
          dsimp only [resulting]
          rw [hListener]
          exact countP_isSent_readInput s host
      | writable =>
          change
            (Report.measures
              (s.onWritable host).reports).countP _ = _
          rw [measures_onWritable]
          rfl
      | closed code =>
          change
            (Report.measures (s.announceClose code).2).countP
              _ = _
          rw [measures_announceClose]
          rfl

/- A connection counts as sent the packets it begins. -/
theorem countP_isSent_perform
    (hWithin : Transport.SendsWithin τ)
    {s : Socket (Journaled τ)}
    (hRoom :
      s.output.capacity = s.maxPacketSize + Frame.prefixSize)
    (hListener : s.listener = false)
    (operation : Operation)
    (host : Host ω) :
    (Report.measures
        (s.perform operation host).reports).countP
        Measure.isSent =
      (s.begins operation host).length := by
  cases operation with
  | send payload =>
      exact (sent_send hWithin hRoom payload host).countP_isSent
  | sendTo payload address =>
      exact
        (sent_sendTo hWithin hRoom payload address
          host).countP_isSent
  | sendRaw | flush | poll | drain | notify =>
      exact
        countP_isSent_of_payload?_eq_none hListener rfl host

/- Without raw bytes, frames of begun packets are accepted. -/
theorem accepted_eq_map_begins
    (hWithin : Transport.SendsWithin τ)
    {s : Socket (Journaled τ)}
    (hRoom :
      s.output.capacity = s.maxPacketSize + Frame.prefixSize)
    {operation : Operation}
    (hFramed : ∀ data, operation ≠ .sendRaw data)
    (host : Host ω) :
    s.accepted operation host =
      (s.begins operation host).map Frame.bytes := by
  cases operation with
  | send payload =>
      exact
        (sent_send hWithin hRoom payload
          host).begunFrame_eq_map
  | sendTo payload address =>
      exact
        (sent_sendTo hWithin hRoom payload address
          host).begunFrame_eq_map
  | sendRaw data => exact absurd rfl (hFramed data)
  | _ => rfl

end Socket

------------------------------------------------------------
-- Sending Lives
------------------------------------------------------------

namespace Life

variable {τ ω : Type} [Transport τ ω]

/- The payload of the packet that a moment begins. -/
def begins
    (r : Life τ ω)
    (moment : Moment τ ω) : List Bytes :=
  match moment with
  | .operate operation => r.socket.begins operation r.host
  | .disturb _ => []

/-
  A connection has accepted the frames of some packets and
  nothing else, and has counted them.
-/
structure Sends
    (r : Life (Journaled τ) ω)
    (items payloads : List Bytes) : Prop where
  balanced : Balanced r items
  listener : r.socket.listener = false
  frames : items = payloads.map Frame.bytes
  fits :
    ∀ payload ∈ payloads,
      payload.length ≤ r.socket.maxPacketSize
  counted :
    (Report.measures r.reports).countP Measure.isSent =
      payloads.length

/- A moment without raw bytes adds the packet it begins. -/
theorem Sends.pass
    (hWithin : Transport.SendsWithin τ)
    {r : Life (Journaled τ) ω}
    {items payloads : List Bytes}
    (hSends : Sends r items payloads)
    {moment : Moment τ ω}
    (hFramed : ∀ data, moment ≠ .operate (.sendRaw data)) :
    Sends (Socket.pass r moment.journaled)
      (items ++ accepted r moment)
      (payloads ++ begins r.unjournaled moment) := by
  have hBalanced := hSends.balanced.pass hWithin moment
  cases moment with
  | disturb change =>
      rw [begins, List.append_nil]
      rw [accepted, List.append_nil] at hBalanced ⊢
      exact ⟨hBalanced, hSends.listener, hSends.frames,
        hSends.fits, hSends.counted⟩
  | operate operation =>
      have hShape :=
        Socket.perform_shape r.socket operation r.host
      have hRoom := hSends.balanced.room
      have hBegins :
          begins r.unjournaled (.operate operation) =
            r.socket.begins operation r.host :=
        Socket.begins_map Journaled.hom_stream r.socket
          operation r.host
      have hLimit :
          (r.socket.perform operation
              r.host).socket.maxPacketSize =
            r.socket.maxPacketSize :=
        congrArg
          (fun shape => shape.framing.maxPacketSize.toNat)
          hShape
      rw [hBegins]
      constructor
      · exact hBalanced
      · exact (congrArg Socket.Shape.listener hShape).trans
          hSends.listener
      · rw [List.map_append, ← hSends.frames]
        apply congrArg (items ++ ·)
        apply Socket.accepted_eq_map_begins hWithin hRoom
        intro data hRaw
        exact hFramed data (congrArg Moment.operate hRaw)
      · intro payload hMember
        change
          payload.length ≤
            (r.socket.perform operation
              r.host).socket.maxPacketSize
        rw [hLimit]
        rcases List.mem_append.mp hMember with hOld | hNew
        · exact hSends.fits payload hOld
        · exact Socket.length_le_of_mem_begins hNew
      · change
          (Report.measures (r.reports ++ _)).countP _ = _
        rw [Report.measures_append, List.countP_append,
          hSends.counted,
          Socket.countP_isSent_perform hWithin hRoom
            hSends.listener, List.length_append]

end Life

namespace Origin

variable {τ ω : Type} [Transport τ ω]

/- A connection begins with nothing sent. -/
theorem sends_nil
    (origin : Origin τ ω)
    (hListener : origin.listener = false) :
    Life.Sends (origin.recorded []) [] [] := by
  refine ⟨balanced_nil origin, ?_, rfl, ?_, rfl⟩
  · exact
      (congrArg Socket.Shape.listener
        (started_shape origin.journaled)).trans hListener
  · intro payload hMember
    cases hMember

/- A life goes on with the packet that a moment begins. -/
theorem sends_concat
    (hWithin : Transport.SendsWithin τ)
    {origin : Origin τ ω}
    {moments : List (Moment τ ω)}
    {payloads : List Bytes}
    (hSends :
      Life.Sends (origin.recorded moments)
        (origin.accepted moments) payloads)
    (moment : Moment τ ω)
    (hFramed : ∀ data, moment ≠ .operate (.sendRaw data)) :
    Life.Sends (origin.recorded (moments ++ [moment]))
      (origin.accepted (moments ++ [moment]))
      (payloads ++
        (origin.live moments).begins moment) := by
  have hPass := hSends.pass hWithin hFramed
  rw [live_journaled] at hPass
  rw [recorded_concat, accepted, Life.acceptedFrom_concat]
  exact hPass

end Origin

end FrameLink
