import FrameLink.Proofs.Reception.Service

/-
  The two halves of a connection.

  What a connection sends depends on its output, its limits
  and on what its transport answers to sends.  What it
  receives depends on its input, its limits and on what its
  transport answers to receives.  So two connections between
  which sends see no difference go on alike in whatever sends
  (`Socket.SendsAs.perform`), and two between which receives
  see none go on alike in what they read
  (`Socket.ReceivesAs.readInput`).  All else leaves either
  half as it is.

  Which differences sends or receives do not see is said by a
  relation between transports in their worlds, which they
  have to keep.

  Key definitions include:
    * `Transport.SendsAlike`, `Transport.ReceivesAlike`
    * `Socket.SendsAs`, `Socket.ReceivesAs`
-/

------------------------------------------------------------
-- Differences That Are Not Seen
------------------------------------------------------------

namespace FrameLink

/- A relation between transports, each in a world. -/
abbrev Transport.Likeness (τ ω : Type) : Type :=
  τ × ω → τ × ω → Prop

namespace Transport

variable {τ ω : Type} [Transport τ ω]

/- Sends answer the same and see no difference later. -/
structure SendsAlike (R : Likeness τ ω) : Prop where
  result :
    ∀ {t w t' w'} bs,
      R (t, w) (t', w') →
        (send t' bs w').result = (send t bs w).result
  send :
    ∀ {t w t' w'} bs,
      R (t, w) (t', w') →
        R ((send t bs w).transport, (send t bs w).world)
          ((send t' bs w').transport, (send t' bs w').world)
  setError :
    ∀ {t w t' w'} code,
      R (t, w) (t', w') →
        R (setError t code, w) (setError t' code, w')
  remoteAddress :
    ∀ {t w t' w'},
      R (t, w) (t', w') →
        remoteAddress t' = remoteAddress t

/- Receives answer the same and see no difference later. -/
structure ReceivesAlike (R : Likeness τ ω) : Prop where
  result :
    ∀ {t w t' w'} room,
      R (t, w) (t', w') →
        (receive t' room w').result = (receive t room w).result
  receive :
    ∀ {t w t' w'} room,
      R (t, w) (t', w') →
        R ((receive t room w).transport,
            (receive t room w).world)
          ((receive t' room w').transport,
            (receive t' room w').world)
  remoteAddress :
    ∀ {t w t' w'},
      R (t, w) (t', w') →
        remoteAddress t' = remoteAddress t

end Transport

namespace Socket

variable {τ ω : Type} [Transport τ ω]
variable {R : Transport.Likeness τ ω}
variable {s s' : Socket τ} {host host' : Host ω}

/- Sends see no difference between two connections. -/
structure SendsAs
    (R : Transport.Likeness τ ω)
    (s : Socket τ)
    (host : Host ω)
    (s' : Socket τ)
    (host' : Host ω) : Prop where
  output : s'.output = s.output
  framing : s'.framing = s.framing
  streams :
    R (s.transport, host.world) (s'.transport, host'.world)

/- Receives see no difference between two connections. -/
structure ReceivesAs
    (R : Transport.Likeness τ ω)
    (s : Socket τ)
    (host : Host ω)
    (s' : Socket τ)
    (host' : Host ω) : Prop where
  input : s'.input = s.input
  framing : s'.framing = s.framing
  streams :
    R (s.transport, host.world) (s'.transport, host'.world)

/- Two replies with one result between which sends see none. -/
structure RepliesAs
    {α : Type}
    (R : Transport.Likeness τ ω)
    (r r' : Reply τ ω α) : Prop where
  result : r'.result = r.result
  sends : SendsAs R r.socket r.host r'.socket r'.host

------------------------------------------------------------
-- Sending Alike
------------------------------------------------------------

variable (hAlike : Transport.SendsAlike R)
include hAlike

theorem SendsAs.setError
    (hSame : SendsAs R s host s' host')
    (code : ErrorCode) :
    SendsAs R (s.setError code) host (s'.setError code)
      host' :=
  ⟨hSame.output, hSame.framing,
    hAlike.setError code hSame.streams⟩

theorem SendsAs.flush
    (hSame : SendsAs R s host s' host') :
    RepliesAs R (s.flush host) (s'.flush host') := by
  rcases hSame with ⟨hOutput, hFraming, hStreams⟩
  have hResult := hAlike.result s.output.filled hStreams
  have hSend := hAlike.send s.output.filled hStreams
  unfold Socket.flush
  rw [hOutput]
  split
  · exact ⟨rfl, hOutput, hFraming, hStreams⟩
  · dsimp only
    rw [hResult]
    split
    · exact ⟨rfl, rfl, hFraming, hSend⟩
    · split
      · exact ⟨rfl, rfl, hFraming, hSend⟩
      · split
        · exact ⟨rfl, rfl, hFraming, hSend⟩
        · exact ⟨rfl, rfl, hFraming, hSend⟩

/- A frame that is taken back leaves no difference. -/
theorem RepliesAs.discard
    {r r' : Reply τ ω (Except SocketError Nat)}
    (hReplies : RepliesAs R r r')
    (e : SocketError) :
    RepliesAs R (discard r e) (discard r' e) := by
  have hSends := hReplies.sends
  refine ⟨rfl, ?_⟩
  apply SendsAs.setError hAlike
  refine ⟨?_, hSends.framing, hSends.streams⟩
  exact congrArg Buffer.clear hSends.output

theorem SendsAs.sendFrame
    (hSame : SendsAs R s host s' host')
    (front payload : Bytes) :
    RepliesAs R (s.sendFrame front payload host)
      (s'.sendFrame front payload host') := by
  have hQueued :
      SendsAs R
        { s with
          output := (s.output.append front).append payload }
        host
        { s' with
          output := (s'.output.append front).append payload }
        host' := by
    refine ⟨?_, hSame.framing, hSame.streams⟩
    exact
      congrArg (fun b => (b.append front).append payload)
        hSame.output
  have hFlush := SendsAs.flush hAlike hQueued
  unfold Socket.sendFrame
  dsimp only
  rw [hFlush.result]
  split
  · exact hFlush.discard hAlike _
  · split
    · exact hFlush.discard hAlike _
    · exact ⟨rfl, hFlush.sends⟩

theorem SendsAs.send
    (hSame : SendsAs R s host s' host')
    (payload : Bytes) :
    RepliesAs R (s.send payload host)
      (s'.send payload host') := by
  have hLimit : s'.maxPacketSize = s.maxPacketSize :=
    congrArg (·.maxPacketSize.toNat) hSame.framing
  unfold Socket.send
  rw [hLimit, hSame.output]
  split
  · exact ⟨rfl, hSame.setError hAlike _⟩
  · split
    · exact hSame.sendFrame hAlike _ payload
    · exact ⟨rfl, hSame⟩

theorem SendsAs.sendTo
    (hSame : SendsAs R s host s' host')
    (payload : Bytes)
    (address : Address) :
    RepliesAs R (s.sendTo payload address host)
      (s'.sendTo payload address host') := by
  unfold Socket.sendTo
  rw [hAlike.remoteAddress hSame.streams]
  split
  · exact hSame.send hAlike payload
  · exact ⟨rfl, hSame.setError hAlike _⟩

theorem SendsAs.sendRaw
    (hSame : SendsAs R s host s' host')
    (data : Bytes) :
    RepliesAs R (s.sendRaw data host)
      (s'.sendRaw data host') := by
  unfold Socket.sendRaw
  rw [hSame.output]
  split
  · exact ⟨rfl, hSame.setError hAlike _⟩
  · rename_i output hRoom
    have hQueued :
        SendsAs R { s with output } host { s' with output }
          host' :=
      ⟨rfl, hSame.framing, hSame.streams⟩
    have hFlush := hQueued.flush hAlike
    exact ⟨hFlush.result, hFlush.sends⟩

theorem SendsAs.onWritable
    (hSame : SendsAs R s host s' host') :
    SendsAs R (s.onWritable host).socket
      (s.onWritable host).host (s'.onWritable host').socket
      (s'.onWritable host').host := by
  unfold Socket.onWritable
  rw [hSame.output]
  split
  · exact hSame
  · exact (hSame.flush hAlike).sends

/- Whatever sends goes on alike, with the same result. -/
theorem SendsAs.perform
    (hSame : SendsAs R s host s' host')
    {operation : Operation}
    (hLoud : ¬operation.IsQuiet) :
    RepliesAs R (s.perform operation host)
      (s'.perform operation host') := by
  cases operation with
  | send data =>
      have hSent := hSame.send hAlike data
      exact ⟨congrArg Result.count hSent.result, hSent.sends⟩
  | sendTo data address =>
      have hSent := hSame.sendTo hAlike data address
      exact ⟨congrArg Result.count hSent.result, hSent.sends⟩
  | sendRaw data =>
      have hSent := hSame.sendRaw hAlike data
      exact ⟨congrArg Result.count hSent.result, hSent.sends⟩
  | flush =>
      have hFlush := hSame.flush hAlike
      exact
        ⟨congrArg Result.count hFlush.result, hFlush.sends⟩
  | poll => exact absurd trivial hLoud
  | drain => exact absurd trivial hLoud
  | notify notification =>
      cases notification with
      | writable => exact ⟨rfl, hSame.onWritable hAlike⟩
      | connected => exact absurd trivial hLoud
      | readable => exact absurd trivial hLoud
      | closed code => exact absurd trivial hLoud

omit hAlike

------------------------------------------------------------
-- Receiving Alike
------------------------------------------------------------

/- Two replies with the same events behind given ones. -/
structure HearsAs
    (R : Transport.Likeness τ ω)
    (events events' : List (Event τ))
    (r r' : Reply τ ω Unit) : Prop where
  receives : ReceivesAs R r.socket r.host r'.socket r'.host
  news :
    ∃ news,
      r.socket.events = events ++ news ∧
        r'.socket.events = events' ++ news

/- What is there alike is delivered alike. -/
theorem ReceivesAs.deliver
    (hAlike : Transport.ReceivesAlike R)
    (hSame : ReceivesAs R s host s' host') :
    ReceivesAs R s.deliver.1 host s'.deliver.1 host' ∧
      ∃ news,
        s.deliver.1.events = s.events ++ news ∧
          s'.deliver.1.events = s'.events ++ news := by
  unfold Socket.deliver
  dsimp only
  rw [hSame.input, hAlike.remoteAddress hSame.streams]
  exact
    ⟨⟨rfl, hSame.framing, hSame.streams⟩, _, rfl, rfl⟩

/- Bytes that come in are taken alike. -/
theorem ReceivesAs.takeBytes
    (hSame : ReceivesAs R s host s' host')
    (hAlike : Transport.ReceivesAlike R)
    (hReset : s.framing.overflowPolicy = .reset)
    (bs : Bytes) :
    HearsAs R s.events s'.events (s.takeBytes bs host)
      (s'.takeBytes bs host') := by
  have hFilled :
      ReceivesAs R { s with input := s.input.fill bs } host
        { s' with input := s'.input.fill bs } host' :=
    ⟨congrArg (·.fill bs) hSame.input, hSame.framing,
      hSame.streams⟩
  rcases hFilled.deliver hAlike with ⟨hCut, hEvents⟩
  unfold Socket.takeBytes
  dsimp only
  rw [hCut.input]
  split
  · rw [overflow_of_reset
        (s :=
          (Socket.deliver
            { s with input := s.input.fill bs }).1)
        hReset,
      overflow_of_reset
        (s :=
          (Socket.deliver
            { s' with input := s'.input.fill bs }).1)
        (hSame.framing ▸ hReset)]
    refine ⟨⟨?_, hCut.framing, hCut.streams⟩, hEvents⟩
    exact congrArg Buffer.clear hCut.input
  · exact ⟨hCut, hEvents⟩

/- What reads goes on alike, with the same new events. -/
theorem ReceivesAs.readInput
    (hAlike : Transport.ReceivesAlike R)
    (hReset : s.framing.overflowPolicy = .reset)
    (hSame : ReceivesAs R s host s' host') :
    HearsAs R s.events s'.events (s.readInput host)
      (s'.readInput host') := by
  have hRoom : s'.input.remaining = s.input.remaining :=
    congrArg Buffer.remaining hSame.input
  have hResult :=
    hAlike.result s.input.remaining hSame.streams
  have hReceive :=
    hAlike.receive s.input.remaining hSame.streams
  have hNone :
      ∀ events : List (Event τ), events = events ++ [] :=
    fun events => (List.append_nil events).symm
  unfold Socket.readInput
  dsimp only
  rw [hRoom, hResult]
  split
  · have hFed :
        ReceivesAs R
          { s with
            transport :=
              (Transport.receive s.transport
                s.input.remaining host.world).transport }
          { host with
            world :=
              (Transport.receive s.transport
                s.input.remaining host.world).world }
          { s' with
            transport :=
              (Transport.receive s'.transport
                s.input.remaining host'.world).transport }
          { host' with
            world :=
              (Transport.receive s'.transport
                s.input.remaining host'.world).world } :=
      ⟨hSame.input, hSame.framing, hReceive⟩
    exact hFed.takeBytes hAlike hReset _
  · split
    · exact
        ⟨⟨hSame.input, hSame.framing, hReceive⟩, [], hNone _,
          hNone _⟩
    · exact
        ⟨⟨hSame.input, hSame.framing, hReceive⟩, [], hNone _,
          hNone _⟩

------------------------------------------------------------
-- The Other Half
------------------------------------------------------------

/- What neither sends nor reads leaves the stream alone. -/
theorem stream_perform_of_isQuiet
    (s : Socket τ)
    {operation : Operation}
    (hQuiet : operation.IsQuiet)
    (hOther : operation ≠ .notify .readable)
    (host : Host ω) :
    (s.perform operation host).socket.transport =
        s.transport ∧
      (s.perform operation host).host = host := by
  cases operation with
  | send | sendTo | sendRaw | flush => cases hQuiet
  | poll =>
      unfold Socket.perform poll
      dsimp only
      split
      · exact ⟨rfl, rfl⟩
      · exact ⟨rfl, rfl⟩
  | drain => exact ⟨rfl, rfl⟩
  | notify notification =>
      cases notification with
      | connected => exact ⟨rfl, rfl⟩
      | readable => exact absurd rfl hOther
      | writable => cases hQuiet
      | closed code =>
          rcases announceClose_reach s code with
            ⟨closed, events, hClose⟩
          simp only [Socket.perform, resulting, handle, hClose]
          exact ⟨trivial, trivial⟩

/-
  What sends nothing makes no difference to sends, where a
  receive makes none.  Under the reset policy a connection
  that reads does nothing else to its stream.
-/
theorem sendsAs_perform_of_isQuiet
    (hListener : s.listener = false)
    (hReset : s.framing.overflowPolicy = .reset)
    (hSame :
      R (s.transport, host.world) (s.transport, host.world))
    (hReceive :
      ∀ room,
        let o := Transport.receive s.transport room host.world
        R (s.transport, host.world) (o.transport, o.world))
    {operation : Operation}
    (hQuiet : operation.IsQuiet) :
    SendsAs R s host (s.perform operation host).socket
      (s.perform operation host).host := by
  have hShape := perform_shape s operation host
  refine
    ⟨output_perform_of_isQuiet s hQuiet host,
      congrArg Shape.framing hShape, ?_⟩
  by_cases hReadable : operation = .notify .readable
  · have hRead := readInput_of_reset hReset host
    have hKept := hReceive s.input.remaining
    dsimp only at hKept
    rw [← hRead.1, ← hRead.2] at hKept
    rw [hReadable, perform_readable hListener]
    exact hKept
  · rcases stream_perform_of_isQuiet s hQuiet hReadable host
      with ⟨hTransport, hHost⟩
    rw [hTransport, hHost]
    exact hSame

/-
  What reads nothing makes no difference to receives, where
  a send and a set error make none.
-/
theorem receivesAs_perform
    (hSame :
      R (s.transport, host.world) (s.transport, host.world))
    (hSend :
      SendKeeps
        (fun t w => R (s.transport, host.world) (t, w)))
    (hSetError :
      SetErrorKeeps
        (fun t w => R (s.transport, host.world) (t, w)))
    {operation : Operation}
    (hOther : operation ≠ .notify .readable) :
    ReceivesAs R s host (s.perform operation host).socket
      (s.perform operation host).host := by
  have hShape := perform_shape s operation host
  refine
    ⟨(aside_perform s hOther host).input,
      congrArg Shape.framing hShape, ?_⟩
  apply perform_keeps
    (P := fun t w => R (s.transport, host.world) (t, w))
  · intro hThis
    exact absurd hThis hOther
  · intro _
    exact hSend
  · intro hThis
    exact absurd hThis hOther
  · intro hThis
    exact absurd hThis hOther
  · exact hSetError
  · exact hSame

end Socket

end FrameLink
