import FrameLink.Proofs.Transport.Pipes
import FrameLink.Transport.Scripted

/-
  What a stream keeps of a call that fails.

  A packet that is refused or taken back leaves the code of
  its error with the stream, and so do raw bytes for which
  there is no room.  Raw bytes that are queued and then not
  written are another matter: the socket hands the failure on
  and keeps nothing, so what is found afterwards is what the
  stream has kept by itself.  A stream in memory keeps all
  failures but those of a call that would block, and a
  scripted stream keeps none (`Socket.lastError_of_failure`).

  Key definitions include:
    * `Transport.KeepsSetError`
    * `Socket.Operation.IsSending`, `Socket.Operation.isRaw`
-/

------------------------------------------------------------
-- Streams
------------------------------------------------------------

namespace FrameLink

/- The code that is set is the one that is found. -/
def Transport.KeepsSetError
    (τ : Type)
    {ω : Type}
    [Transport τ ω] : Prop :=
  ∀ (t : τ) (code : ErrorCode),
    lastError (setError t code) = some code

namespace Endpoint

theorem keepsSetError : Transport.KeepsSetError Endpoint := by
  intro e code
  rfl

/- A send that fails is kept, unless it would block. -/
theorem lastError_send_of_error
    {e : Endpoint}
    {bs : Bytes}
    {net : Network}
    {failure : IoError}
    (hFailed : (e.send bs net).result = .error failure) :
    (e.send bs net).transport.lastError =
      if failure.wouldBlock = true then
        e.lastError
      else
        some (.io failure.kind) := by
  unfold send at hFailed ⊢
  split at hFailed
  · cases hFailed
    rfl
  · cases hFailed
    rfl
  · split at hFailed
    · rename_i hStalled
      rw [if_pos hStalled]
      cases hFailed
      rfl
    · cases hFailed

end Endpoint

namespace Scripted

theorem keepsSetError : Transport.KeepsSetError Scripted := by
  intro t code
  rfl

/- A send leaves the last error alone. -/
theorem lastError_send
    (t : Scripted)
    (offered : Bytes) :
    (t.send offered).transport.lastError = t.lastError := by
  unfold send
  dsimp only
  split
  · rfl
  · split
    · rfl
    · rfl
    · rfl

end Scripted

------------------------------------------------------------
-- Packets
------------------------------------------------------------

namespace Socket

variable {τ ω : Type} [Transport τ ω]
variable {s : Socket τ} {host : Host ω} {e : SocketError}

/- A frame that is taken back leaves the code of its error. -/
theorem lastError_sendFrame_of_error
    (hKeeps : Transport.KeepsSetError τ)
    {front payload : Bytes}
    (hFailed :
      (s.sendFrame front payload host).result = .error e) :
    Transport.lastError
        (s.sendFrame front payload host).socket.transport =
      some e.code := by
  unfold sendFrame at hFailed ⊢
  dsimp only at hFailed ⊢
  split at hFailed
  · rename_i cause hFlush
    cases hFailed
    exact hKeeps _ _
  · rename_i written hFlush
    split at hFailed
    · rename_i hZero
      rw [if_pos hZero]
      cases hFailed
      exact hKeeps _ _
    · cases hFailed

/- A packet that is not sent leaves the code of its error. -/
theorem lastError_send_of_error
    (hKeeps : Transport.KeepsSetError τ)
    {payload : Bytes}
    (hFailed : (s.send payload host).result = .error e) :
    Transport.lastError
        (s.send payload host).socket.transport =
      some e.code := by
  unfold send at hFailed ⊢
  split at hFailed
  · rename_i cause hRefused
    cases hFailed
    exact hKeeps _ _
  · rename_i front hFront
    split at hFailed
    · rename_i hEmpty
      rw [if_pos hEmpty]
      exact lastError_sendFrame_of_error hKeeps hFailed
    · cases hFailed

theorem lastError_sendTo_of_error
    (hKeeps : Transport.KeepsSetError τ)
    {payload : Bytes}
    {address : Address}
    (hFailed :
      (s.sendTo payload address host).result = .error e) :
    Transport.lastError
        (s.sendTo payload address host).socket.transport =
      some e.code := by
  unfold sendTo at hFailed ⊢
  by_cases hPeer :
      Transport.remoteAddress s.transport = some address
  · rw [if_pos hPeer] at hFailed ⊢
    exact lastError_send_of_error hKeeps hFailed
  · rw [if_neg hPeer] at hFailed ⊢
    cases hFailed
    exact hKeeps _ _

------------------------------------------------------------
-- Raw Bytes
------------------------------------------------------------

/-
  A flush that fails has called the stream once and hands its
  failure on, or finds that the stream claims too much.
-/
theorem flush_eq_error
    (hFailed : (s.flush host).result = .error e) :
    let o :=
      Transport.send s.transport s.output.filled host.world
    (s.flush host).socket.transport = o.transport ∧
      ((∃ cause,
          o.result = .error cause ∧
            e = .transportFailure cause) ∨
        ∃ written,
          o.result = .ok written ∧
            s.output.size < written ∧
            e = .writeOverrun written s.output.size) := by
  intro o
  unfold flush at hFailed ⊢
  split at hFailed
  · cases hFailed
  · rename_i hBusy
    rw [if_neg hBusy]
    dsimp only at hFailed ⊢
    split at hFailed
    · rename_i cause hResult
      refine ⟨rfl, .inl ⟨cause, hResult, ?_⟩⟩
      exact (Except.error.inj hFailed).symm
    · rename_i written hResult
      split at hFailed
      · cases hFailed
      · rename_i hSome
        rw [if_neg hSome]
        split at hFailed
        · rename_i hOver
          rw [if_pos hOver]
          refine ⟨rfl, .inr ⟨written, hResult, hOver, ?_⟩⟩
          exact (Except.error.inj hFailed).symm
        · cases hFailed

/-
  Raw bytes fail for want of room, which is kept, or with the
  failure of a flush, of which the socket keeps nothing.
-/
theorem sendRaw_eq_error
    {data : Bytes}
    (hFailed : (s.sendRaw data host).result = .error e) :
    (e = .messageTooLarge data.length ∧
        (s.sendRaw data host).socket =
          s.setError .messageTooLarge) ∨
      ∃ queued : Buffer,
        let o :=
          Transport.send s.transport queued.filled host.world
        (s.sendRaw data host).socket.transport =
            o.transport ∧
          ((∃ cause,
              o.result = .error cause ∧
                e = .transportFailure cause) ∨
            ∃ written,
              o.result = .ok written ∧
                queued.filled.length < written ∧
                e =
                  .writeOverrun written
                    queued.filled.length) := by
  unfold sendRaw at hFailed ⊢
  split at hFailed
  · rename_i hFull
    exact .inl ⟨(Except.error.inj hFailed).symm, rfl⟩
  · rename_i queued hRoom
    have hFlush := flush_eq_error hFailed
    refine .inr ⟨queued, ?_⟩
    rw [Buffer.length_filled]
    exact hFlush

------------------------------------------------------------
-- All Calls
------------------------------------------------------------

namespace Operation

/- The operation is a call that is to send something. -/
def IsSending : Operation → Prop
  | .send _ => True
  | .sendTo _ _ => True
  | .sendRaw _ => True
  | _ => False

/- The operation sends bytes without a prefix. -/
def isRaw : Operation → Bool
  | .sendRaw _ => true
  | _ => false

end Operation

/- A packet that fails leaves the code of its error. -/
theorem lastError_perform_of_isRaw_eq_false
    (hKeeps : Transport.KeepsSetError τ)
    {operation : Operation}
    (hSending : operation.IsSending)
    (hFramed : operation.isRaw = false)
    (hFailed :
      (s.perform operation host).result =
        .count (.error e)) :
    Transport.lastError
        (s.perform operation host).socket.transport =
      some e.code := by
  cases operation with
  | send payload =>
      exact lastError_send_of_error hKeeps
        (Result.count.inj hFailed)
  | sendTo payload address =>
      exact lastError_sendTo_of_error hKeeps
        (Result.count.inj hFailed)
  | sendRaw data => cases hFramed
  | flush | notify | poll | drain => cases hSending

/- In memory, raw bytes that would block are not kept. -/
theorem lastError_sendRaw_endpoint
    {s : Socket Endpoint}
    {host : Host Network}
    {data : Bytes}
    (hFailed : (s.sendRaw data host).result = .error e) :
    Transport.lastError
        (s.sendRaw data host).socket.transport =
      if e.wouldBlock = true then
        Transport.lastError s.transport
      else
        some e.code := by
  rcases sendRaw_eq_error hFailed with
    ⟨rfl, hSocket⟩ | ⟨queued, hTransport, hFailure⟩
  · rw [hSocket]
    exact Endpoint.keepsSetError s.transport _
  · rw [hTransport]
    rcases hFailure with
      ⟨cause, hResult, rfl⟩ | ⟨written, hResult, hOver, rfl⟩
    · exact Endpoint.lastError_send_of_error hResult
    · have hWithin :=
        Endpoint.sendsWithin _ _ _ _ hResult
      omega

/- Of a scripted stream, raw bytes keep a want of room only. -/
theorem lastError_sendRaw_scripted
    {s : Socket Scripted}
    {host : Host Unit}
    {data : Bytes}
    (hFailed : (s.sendRaw data host).result = .error e) :
    Transport.lastError
        (s.sendRaw data host).socket.transport =
      if e.code = .messageTooLarge then
        some e.code
      else
        Transport.lastError s.transport := by
  rcases sendRaw_eq_error hFailed with
    ⟨rfl, hSocket⟩ | ⟨queued, hTransport, hFailure⟩
  · rw [hSocket]
    exact Scripted.keepsSetError s.transport _
  · rw [hTransport]
    rcases hFailure with
      ⟨cause, hResult, rfl⟩ | ⟨written, hResult, hOver, rfl⟩
    · exact Scripted.lastError_send s.transport _
    · exact Scripted.lastError_send s.transport _

/-
  Whenever a call to send fails, the stream has the code of
  the error, but for raw bytes: in memory these keep nothing
  where they would block, and over a script nothing unless
  there was no room for them.
-/
theorem lastError_of_failure
    {operation : Operation}
    (hSending : operation.IsSending)
    (e : SocketError) :
    (∀ (s : Socket Endpoint) (host : Host Network),
        let r := s.perform operation host
        r.result = .count (.error e) →
          Transport.lastError r.socket.transport =
            if operation.isRaw = true ∧
                e.wouldBlock = true then
              Transport.lastError s.transport
            else
              some e.code) ∧
      ∀ (s : Socket Scripted) (host : Host Unit),
        let r := s.perform operation host
        r.result = .count (.error e) →
          Transport.lastError r.socket.transport =
            if operation.isRaw = true ∧
                e.code ≠ .messageTooLarge then
              Transport.lastError s.transport
            else
              some e.code := by
  cases hRaw : operation.isRaw with
  | false =>
      constructor
      · intro s host r hFailed
        exact lastError_perform_of_isRaw_eq_false
          Endpoint.keepsSetError hSending hRaw hFailed
      · intro s host r hFailed
        exact lastError_perform_of_isRaw_eq_false
          Scripted.keepsSetError hSending hRaw hFailed
  | true =>
      cases operation with
      | sendRaw data =>
          constructor
          · intro s host r hFailed
            simp only [true_and]
            exact lastError_sendRaw_endpoint
              (Result.count.inj hFailed)
          · intro s host r hFailed
            simp only [true_and, ite_not]
            exact lastError_sendRaw_scripted
              (Result.count.inj hFailed)
      | _ => cases hRaw

/- A sender in memory whose stream takes nothing. -/
def stalledSender : Origin Endpoint Network :=
  let ends :=
    Network.pair {} (.loopback 40001) (.loopback 40002)
  { transport := { ends.1.1 with window := some 0 }
    framing := { maxPacketSize := 4 }
    host := { world := ends.2 } }

/- Raw bytes that would block leave no error behind. -/
theorem lastError_of_failure_stalled :
    Operation.IsSending (.sendRaw [1]) ∧
      (stalledSender.started.socket.perform (.sendRaw [1])
          stalledSender.started.host).result =
        .count
          (.error
            (.transportFailure { kind := .wouldBlock })) ∧
      Transport.lastError
          (stalledSender.started.socket.perform
            (.sendRaw [1])
            stalledSender.started.host).socket.transport =
        none := by
  have hSending : Operation.IsSending (.sendRaw [1]) :=
    trivial
  have hSent :
      (stalledSender.started.socket.sendRaw [1]
          stalledSender.started.host).result =
        .error
          (.transportFailure { kind := .wouldBlock }) := by
    rfl
  have hFailed :
      (stalledSender.started.socket.perform (.sendRaw [1])
          stalledSender.started.host).result =
        .count
          (.error
            (.transportFailure { kind := .wouldBlock })) :=
    congrArg Result.count hSent
  refine ⟨hSending, hFailed, ?_⟩
  exact
    (lastError_of_failure hSending _).1
      stalledSender.started.socket
      stalledSender.started.host hFailed

/- A sender over a script whose first send is reset. -/
def brokenSender : Origin Scripted Unit where
  transport :=
    { script :=
        { sends := [.fails { kind := .connectionReset }] } }
  framing := { maxPacketSize := 4 }
  host := { world := () }

/- Raw bytes can fail and leave no error behind. -/
theorem lastError_lost :
    (brokenSender.started.socket.sendRaw [1]
          brokenSender.started.host).result =
        .error
          (.transportFailure { kind := .connectionReset }) ∧
      Transport.lastError
          (brokenSender.started.socket.sendRaw [1]
            brokenSender.started.host).socket.transport =
        none := by
  constructor
  · rfl
  · rfl

end Socket

end FrameLink
