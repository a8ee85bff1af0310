import FrameLink.Proofs.Socket.Calls
import FrameLink.Proofs.Socket.LastError

/-
  Calls that fail.

  A packet that is not sent leaves its socket as it was, and
  if it is refused for its size or its address the stream is
  not even called.  A frame that cannot be written is taken
  back by clearing the whole output, which does no harm as a
  frame enters an idle output only.  Raw bytes are taken on
  as a whole or not at all: once there is room for them they
  stay, whatever becomes of writing them.
  (`Origin.failed_calls`)

  Key definitions include:
    * `SocketError.isRefusal`
    * `Socket.Untouched`, `Socket.Fails`
    * `Origin.Uncalled`
-/

------------------------------------------------------------
-- Sockets Left as They Were
------------------------------------------------------------

namespace FrameLink

/- Answers of calls can be compared. -/
instance decidableEqExcept
    {ε α : Type}
    [DecidableEq ε]
    [DecidableEq α] : DecidableEq (Except ε α)
  | .ok a, .ok b =>
      decidable_of_iff (a = b) (Except.ok.injEq a b).to_iff.symm
  | .error d, .error e =>
      decidable_of_iff (d = e)
        (Except.error.injEq d e).to_iff.symm
  | .ok _, .error _ => isFalse nofun
  | .error _, .ok _ => isFalse nofun

/- The error is that of a call that stops at the socket. -/
def SocketError.isRefusal : SocketError → Bool
  | .messageTooLarge _ => true
  | .notConnected _ => true
  | _ => false

namespace Socket

variable {τ ω : Type} [Transport τ ω]

/-
  The socket holds and has to tell what it did before, and
  whatever was counted is what it was.
-/
structure Untouched
    {α : Type}
    (s : Socket τ)
    (r : Reply τ ω α) : Prop where
  input : r.socket.input = s.input
  output : r.socket.output.filled = s.output.filled
  events : r.socket.events = s.events
  closed : r.socket.closed = s.closed
  counters :
    ∀ counts : Metrics,
      (Report.measures r.reports).foldl Metrics.record
          counts =
        counts

theorem Result.eq_count_of_map
    {σ : Type}
    {f : τ → σ}
    {r : Result τ}
    {answer : Except SocketError Nat}
    (hCount : r.map f = .count answer) :
    r = .count answer := by
  cases r with
  | count result =>
      exact congrArg Result.count (Result.count.inj hCount)
  | done | polled event | drained events => cases hCount

/-
  What the failure of a packet comes to: if it is a refusal,
  the stream is told the code of it and nothing else.
-/
structure Fails
    (s : Socket τ)
    (host : Host ω)
    (e : SocketError)
    (r : Reply τ ω (Except SocketError Nat)) : Prop where
  untouched : Untouched s r
  refused :
    e.isRefusal = true →
      r.socket = s.setError e.code ∧ r.host = host

omit [Transport τ ω] in
/- Nothing measured is nothing counted. -/
theorem foldl_record_of_measures
    {reports : List Report}
    (hNone : Report.measures reports = [])
    (counts : Metrics) :
    (Report.measures reports).foldl Metrics.record counts =
      counts := by
  rw [hNone]
  rfl

/- A refusal touches nothing but the stream. -/
theorem Fails.of_refused
    {s : Socket τ}
    {host : Host ω}
    {e : SocketError}
    {r : Reply τ ω (Except SocketError Nat)}
    (hSocket : r.socket = s.setError e.code)
    (hHost : r.host = host)
    (hNone : Report.measures r.reports = []) :
    Fails s host e r := by
  refine ⟨?_, fun _ => ⟨hSocket, hHost⟩⟩
  constructor
  · rw [hSocket]
    rfl
  · rw [hSocket]
    rfl
  · rw [hSocket]
    rfl
  · rw [hSocket]
    rfl
  · exact foldl_record_of_measures hNone

------------------------------------------------------------
-- Flushing
------------------------------------------------------------

section Calls

variable {s : Socket τ} {host : Host ω} {e : SocketError}

omit [Transport τ ω] in
/- Nothing has moved where nothing is claimed. -/
theorem progress_eq_zero_iff
    {result : Except SocketError Nat} :
    progress result = 0 ↔
      result = .ok 0 ∨ ∃ e, result = .error e := by
  cases result with
  | error e => exact ⟨fun _ => .inr ⟨e, rfl⟩, fun _ => rfl⟩
  | ok n =>
      constructor
      · intro hZero
        exact .inl (congrArg Except.ok hZero)
      · rintro (hZero | ⟨e, hFailed⟩)
        · exact Except.ok.inj hZero
        · cases hFailed

/- A flush that writes nothing moves only the stream on. -/
theorem flush_of_progress_eq_zero
    (hNone : progress (s.flush host).result = 0) :
    (s.flush host).socket =
      { s with
        transport := (s.flush host).socket.transport } := by
  unfold flush at hNone ⊢
  split at hNone
  · rename_i hEmpty
    rw [if_pos hEmpty]
    cases s
    rfl
  · rename_i hBusy
    rw [if_neg hBusy]
    dsimp only at hNone ⊢
    split at hNone
    · rfl
    · rename_i written hResult
      split at hNone
      · rename_i hZero
        rw [if_pos hZero]
      · rename_i hSome
        rw [if_neg hSome]
        split at hNone
        · rename_i hOver
          rw [if_pos hOver]
        · exact absurd hNone hSome

theorem isRefusal_of_flush
    (hFailed : (s.flush host).result = .error e) :
    e.isRefusal = false := by
  rcases (flush_eq_error hFailed).2 with
    ⟨cause, _, rfl⟩ | ⟨written, _, _, rfl⟩
  · rfl
  · rfl

------------------------------------------------------------
-- Packets
------------------------------------------------------------

/- A frame that was put on an idle output is taken back. -/
theorem untouched_discard
    (hIdle : s.output.filled = [])
    (output : Buffer)
    (e : SocketError) :
    Untouched s
      (discard (flush { s with output } host) e) := by
  rcases flush_reach { s with output } host with
    ⟨transport, left, hFlush⟩
  constructor
  · exact (congrArg Socket.input hFlush :)
  · exact (Buffer.filled_clear _).trans hIdle.symm
  · exact (congrArg Socket.events hFlush :)
  · exact (congrArg Socket.closed hFlush :)
  · exact foldl_record_of_measures (measures_flush _ _)

/- A frame that cannot be written has got to the stream. -/
theorem fails_sendFrame
    (hIdle : s.output.filled = [])
    {front payload : Bytes}
    (hFailed :
      (s.sendFrame front payload host).result = .error e) :
    Fails s host e (s.sendFrame front payload host) := by
  unfold sendFrame at hFailed ⊢
  dsimp only at hFailed ⊢
  split at hFailed
  · rename_i cause hFlush
    cases hFailed
    refine ⟨untouched_discard hIdle _ _, ?_⟩
    rw [isRefusal_of_flush hFlush]
    exact fun hRefused => nomatch hRefused
  · rename_i written hFlush
    split at hFailed
    · rename_i hZero
      cases hFailed
      rw [if_pos hZero]
      exact ⟨untouched_discard hIdle _ _,
        fun hRefused => nomatch hRefused⟩
    · cases hFailed

/- A packet that fails leaves no trace. -/
theorem fails_send
    {payload : Bytes}
    (hFailed : (s.send payload host).result = .error e) :
    Fails s host e (s.send payload host) := by
  unfold send at hFailed ⊢
  split at hFailed
  · rename_i cause hRefused
    cases hFailed
    exact .of_refused rfl rfl rfl
  · rename_i front hFront
    split at hFailed
    · rename_i hEmpty
      rw [if_pos hEmpty]
      exact
        fails_sendFrame (Buffer.isEmpty_iff.mp hEmpty) hFailed
    · cases hFailed

theorem fails_sendTo
    {payload : Bytes}
    {address : Address}
    (hFailed :
      (s.sendTo payload address host).result = .error e) :
    Fails s host e (s.sendTo payload address host) := by
  unfold sendTo at hFailed ⊢
  by_cases hPeer :
      Transport.remoteAddress s.transport = some address
  · rw [if_pos hPeer] at hFailed ⊢
    exact fails_send hFailed
  · rw [if_neg hPeer] at hFailed ⊢
    cases hFailed
    exact .of_refused rfl rfl rfl

------------------------------------------------------------
-- Raw Bytes
------------------------------------------------------------

/-
  Raw bytes that fail for want of room leave no trace.  When
  they fail for another reason, all of them are queued.
-/
theorem fails_sendRaw
    {data : Bytes}
    (hFailed : (s.sendRaw data host).result = .error e) :
    (e = .messageTooLarge data.length ∧
        Fails s host e (s.sendRaw data host)) ∨
      e.isRefusal = false ∧
        (s.sendRaw data host).socket.output.filled =
          s.output.filled ++ data := by
  unfold sendRaw at hFailed ⊢
  split at hFailed
  · cases hFailed
    exact .inl ⟨rfl, .of_refused rfl rfl rfl⟩
  · rename_i output hRoom
    refine .inr ⟨isRefusal_of_flush hFailed, ?_⟩
    have hNone :
        progress (flush { s with output } host).result = 0 := by
      rw [hFailed]
      rfl
    have hQueued :
        (flush { s with output } host).socket.output =
          output :=
      congrArg Socket.output (flush_of_progress_eq_zero hNone)
    rw [← Buffer.filled_append? hRoom]
    exact congrArg Buffer.filled hQueued

/- A call that stops at the socket sets the last error. -/
theorem socket_of_isRefusal
    {operation : Operation}
    (hSending : operation.IsSending)
    (hFailed :
      (s.perform operation host).result =
        .count (.error e))
    (hRefused : e.isRefusal = true) :
    (s.perform operation host).socket =
      s.setError e.code := by
  cases operation with
  | send payload =>
      exact
        ((fails_send (Result.count.inj hFailed)).refused
          hRefused).1
  | sendTo payload address =>
      exact
        ((fails_sendTo (Result.count.inj hFailed)).refused
          hRefused).1
  | sendRaw data =>
      rcases fails_sendRaw (Result.count.inj hFailed) with
        ⟨_, hFails⟩ | ⟨hOther, _⟩
      · exact (hFails.refused hRefused).1
      · rw [hRefused] at hOther
        cases hOther
  | flush | notify | poll | drain => cases hSending

end Calls

end Socket

------------------------------------------------------------
-- A Whole Life
------------------------------------------------------------

namespace Origin

variable {τ ω : Type} [Transport τ ω]

/- An operation at the end of a life moves no bytes. -/
def Uncalled
    (origin : Origin τ ω)
    (moments : List (Moment τ ω))
    (operation : Socket.Operation) : Prop :=
  (origin.journal
      (moments ++ [.operate operation])).journal =
    (origin.journal moments).journal

/- The socket of a life is the recorded one, seen as such. -/
theorem socket_live
    (origin : Origin τ ω)
    (moments : List (Moment τ ω)) :
    (origin.live moments).socket =
      (origin.recorded moments).socket.map
        Journaled.stream := by
  rw [← live_journaled]
  rfl

/- A call that stops at the socket moves no bytes. -/
theorem uncalled_of_isRefusal
    {origin : Origin τ ω}
    {moments : List (Moment τ ω)}
    (operation : Socket.Operation)
    (hSending : operation.IsSending)
    {e : SocketError}
    (hFailed :
      ((origin.live moments).socket.perform operation
          (origin.live moments).host).result =
        .count (.error e))
    (hRefused : e.isRefusal = true) :
    origin.Uncalled moments operation := by
  have hRecorded :
      ((origin.recorded moments).socket.perform operation
          (origin.recorded moments).host).result =
        .count (.error e) := by
    rw [socket_live, host_live,
      Socket.perform_map Journaled.hom_stream] at hFailed
    exact Socket.Result.eq_count_of_map hFailed
  rw [Uncalled, journal, recorded_concat]
  exact
    congrArg (·.transport.journal)
      (Socket.socket_of_isRefusal hSending hRecorded hRefused)

/-
  Whatever has happened to a socket before, over any stream:
  a packet that fails leaves the socket and the counters as
  they were, and the stream is not called if the packet was
  refused.  The same is true of raw bytes that are too large.
  Raw bytes that fail otherwise are all queued.  A flush that
  fails or writes nothing leaves the output as it was.
-/
theorem failed_calls
    (origin : Origin τ ω)
    (moments : List (Moment τ ω)) :
    let life := origin.live moments
    let s := life.socket
    (∀ payload e,
        (s.send payload life.host).result = .error e →
          Socket.Fails s life.host e
              (s.send payload life.host) ∧
            (e.isRefusal = true →
              origin.Uncalled moments (.send payload))) ∧
      (∀ payload address e,
        (s.sendTo payload address life.host).result =
            .error e →
          Socket.Fails s life.host e
              (s.sendTo payload address life.host) ∧
            (e.isRefusal = true →
              origin.Uncalled moments
                (.sendTo payload address))) ∧
      (∀ data e,
        (s.sendRaw data life.host).result = .error e →
          if e = .messageTooLarge data.length then
            Socket.Fails s life.host e
                (s.sendRaw data life.host) ∧
              origin.Uncalled moments (.sendRaw data)
          else
            (s.sendRaw data life.host).socket.output.filled =
              s.output.filled ++ data) ∧
      ((s.flush life.host).result = .ok 0 ∨
          (∃ e, (s.flush life.host).result = .error e) →
        (s.flush life.host).socket.output = s.output) := by
  intro life s
  refine ⟨?_, ?_, ?_, ?_⟩
  · intro payload e hFailed
    refine ⟨Socket.fails_send hFailed, ?_⟩
    exact
      uncalled_of_isRefusal (.send payload) trivial
        (congrArg Socket.Result.count hFailed)
  · intro payload address e hFailed
    refine ⟨Socket.fails_sendTo hFailed, ?_⟩
    exact
      uncalled_of_isRefusal (.sendTo payload address) trivial
        (congrArg Socket.Result.count hFailed)
  · intro data e hFailed
    rcases Socket.fails_sendRaw hFailed with
      ⟨hLarge, hFails⟩ | ⟨hOther, hQueued⟩
    · rw [if_pos hLarge]
      refine ⟨hFails, ?_⟩
      apply
        uncalled_of_isRefusal (.sendRaw data) trivial
          (congrArg Socket.Result.count hFailed)
      rw [hLarge]
      rfl
    · rw [if_neg]
      · exact hQueued
      · rintro rfl
        cases hOther
  · intro hNothing
    exact
      congrArg (·.output)
        (Socket.flush_of_progress_eq_zero
          (Socket.progress_eq_zero_iff.mpr hNothing))

end Origin

------------------------------------------------------------
-- A Stream That Claims Too Much
------------------------------------------------------------

namespace Origin

/- A connection whose next send claims nine bytes. -/
def boasted : Origin Scripted Unit where
  transport :=
    { script :=
        { sends := [.claims 9]
          receives := [.yields [0, 3, 7]] } }
  framing := { maxPacketSize := 4 }
  host := { world := () }

/- It is open and has received the front of a frame. -/
def boastedMoments : List (Moment Scripted Unit) :=
  [.operate (.notify .connected),
    .operate (.notify .readable)]

/- A packet is taken back and raw bytes are kept. -/
theorem failed_calls_boasted :
    let life := boasted.live boastedMoments
    let s := life.socket
    let elsewhere : Address := .loopback 40009
    ((s.send [1] life.host).result =
          .error (.writeOverrun 9 3) ∧
        (s.send [1] life.host).socket.input.filled =
          [0, 3, 7] ∧
        (s.send [1] life.host).socket.output.filled = []) ∧
      ((s.sendTo [1] elsewhere life.host).result =
          .error (.notConnected elsewhere) ∧
        boasted.Uncalled boastedMoments
          (.sendTo [1] elsewhere)) ∧
      ((s.sendRaw [1, 2] life.host).result =
          .error (.writeOverrun 9 2) ∧
        (s.sendRaw [1, 2] life.host).socket.output.filled =
          [1, 2]) ∧
      (s.flush life.host).result = .ok 0 ∧
        (s.flush life.host).socket.output = s.output := by
  intro life s elsewhere
  rcases failed_calls boasted boastedMoments with
    ⟨hSend, hSendTo, hSendRaw, hFlush⟩
  have hBack :
      (s.send [1] life.host).result =
        .error (.writeOverrun 9 3) := by
    decide +kernel
  have hOther :
      (s.sendTo [1] elsewhere life.host).result =
        .error (.notConnected elsewhere) := by
    decide +kernel
  have hKept :
      (s.sendRaw [1, 2] life.host).result =
        .error (.writeOverrun 9 2) := by
    decide +kernel
  have hIdle : (s.flush life.host).result = .ok 0 := by
    decide +kernel
  have hInput : s.input.filled = [0, 3, 7] := by
    decide +kernel
  have hOutput : s.output.filled = [] := by
    decide +kernel
  have hUntouched := (hSend [1] _ hBack).1.untouched
  refine ⟨⟨hBack, ?_, ?_⟩,
    ⟨hOther, (hSendTo [1] elsewhere _ hOther).2 rfl⟩,
    ⟨hKept, ?_⟩, hIdle, hFlush (.inl hIdle)⟩
  · rw [hUntouched.input]
    exact hInput
  · rw [hUntouched.output]
    exact hOutput
  · have hQueued := hSendRaw [1, 2] _ hKept
    rw [if_neg (by simp), hOutput] at hQueued
    exact hQueued

end Origin

end FrameLink
