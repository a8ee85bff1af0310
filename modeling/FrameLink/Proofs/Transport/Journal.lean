import FrameLink.Proofs.Socket.Life

/-
  Transports that keep a journal.

  Any transport can be made to write down which bytes it was
  offered and how it answered, which bytes it handed over,
  and the address that it reported then.  The journal says
  what has passed over a stream, as the stream saw it and
  with no regard to what a socket makes of it.

  A socket cannot tell whether its transport keeps a journal
  (`Origin.live_journaled`), so the journal of a life is a
  fact about the life without it.

  Key definitions include:
    * `Exchange`, `Chunk`
    * `Journaled`
    * `Journaled.written`, `Journaled.chunks`,
      `Journaled.received`
    * `Origin.journaled`, `Origin.journal`
-/

------------------------------------------------------------
-- Journals
------------------------------------------------------------

namespace FrameLink

/- A call that moves bytes, and how it was answered. -/
inductive Exchange where
  | sent (offered : Bytes) (answer : Except IoError Nat)
  /- The address is the one reported after the call. -/
  | received
      (room : Nat)
      (answer : Except IoError Bytes)
      (remote : Option Address)

/- Bytes handed over, and the address reported then. -/
structure Chunk where
  bytes : Bytes
  remote : Option Address
  deriving DecidableEq

namespace Exchange

/- The front of what was offered that was reported taken. -/
def taken : Exchange → Bytes
  | .sent offered (.ok n) => offered.take n
  | _ => []

/- The bytes handed over, if the exchange is a receive. -/
def chunk? : Exchange → Option Chunk
  | .received _ (.ok bs) remote => some ⟨bs, remote⟩
  | _ => none

end Exchange

/- A transport with the journal of its exchanges. -/
structure Journaled (τ : Type) where
  stream : τ
  journal : List Exchange := []

namespace Journaled

variable {τ ω : Type}

/- The bytes that were reported as taken, in order. -/
def written (j : Journaled τ) : Bytes :=
  j.journal.flatMap Exchange.taken

/- The receives that succeeded, in order. -/
def chunks (j : Journaled τ) : List Chunk :=
  j.journal.filterMap Exchange.chunk?

/- The bytes that were handed over, in order. -/
def received (j : Journaled τ) : Bytes :=
  j.chunks.flatMap Chunk.bytes

/- The stream moves on and the journal stays. -/
def moved (j : Journaled τ) (stream : τ) : Journaled τ :=
  { j with stream }

/- The stream moves on and an exchange is written down. -/
def noted
    (j : Journaled τ)
    (stream : τ)
    (exchange : Exchange) : Journaled τ where
  stream := stream
  journal := j.journal ++ [exchange]

@[simp]
theorem written_noted
    (j : Journaled τ)
    (t : τ)
    (exchange : Exchange) :
    (j.noted t exchange).written =
      j.written ++ exchange.taken := by
  simp [written, noted]

@[simp]
theorem chunks_noted
    (j : Journaled τ)
    (t : τ)
    (exchange : Exchange) :
    (j.noted t exchange).chunks =
      j.chunks ++ exchange.chunk?.toList := by
  cases hChunk : exchange.chunk? with
  | none => simp [chunks, noted, hChunk]
  | some chunk => simp [chunks, noted, hChunk]

------------------------------------------------------------
-- Journaled Transports
------------------------------------------------------------

variable [Transport τ ω]

instance : Transport (Journaled τ) ω where
  listen j backlog w :=
    (Transport.listen j.stream backlog w).map j.moved id
  accept j w :=
    (Transport.accept j.stream w).map j.moved
      (Prod.map (Journaled.mk · []) id)
  send j bs w :=
    let o := Transport.send j.stream bs w
    o.map (j.noted · (.sent bs o.result)) id
  receive j room w :=
    let o := Transport.receive j.stream room w
    o.map
      (j.noted ·
        (.received room o.result
          (Transport.remoteAddress o.transport))) id
  close j w :=
    (Transport.close j.stream w).map j.moved id
  remoteAddress j := Transport.remoteAddress j.stream
  localAddress j := Transport.localAddress j.stream
  lastError j := Transport.lastError j.stream
  setError j code :=
    j.moved (Transport.setError j.stream code)

theorem hom_stream :
    Transport.Hom (Journaled.stream (τ := τ)) where
  listen _ _ _ :=
    (Outcome.map_map_of_leftInverse
      (fun _ => rfl) (fun _ => rfl) _).symm
  accept _ _ :=
    (Outcome.map_map_of_leftInverse
      (fun _ => rfl) (fun _ => rfl) _).symm
  send _ _ _ :=
    (Outcome.map_map_of_leftInverse
      (fun _ => rfl) (fun _ => rfl) _).symm
  receive _ _ _ :=
    (Outcome.map_map_of_leftInverse
      (fun _ => rfl) (fun _ => rfl) _).symm
  close _ _ :=
    (Outcome.map_map_of_leftInverse
      (fun _ => rfl) (fun _ => rfl) _).symm
  setError _ _ := rfl
  remoteAddress _ := rfl

theorem result_send
    (j : Journaled τ)
    (bs : Bytes)
    (w : ω) :
    (Transport.send j bs w).result =
      (Transport.send j.stream bs w).result := by
  rw [hom_stream.send j bs w, Outcome.map]
  cases (Transport.send j bs w).result with
  | error e => rfl
  | ok n => rfl

theorem result_receive
    (j : Journaled τ)
    (room : Nat)
    (w : ω) :
    (Transport.receive j room w).result =
      (Transport.receive j.stream room w).result := by
  rw [hom_stream.receive j room w, Outcome.map]
  cases (Transport.receive j room w).result with
  | error e => rfl
  | ok bs => rfl

theorem written_send
    (j : Journaled τ)
    (bs : Bytes)
    (w : ω) :
    (Transport.send j bs w).transport.written =
      j.written ++
        (Exchange.sent bs
          (Transport.send j bs w).result).taken := by
  rw [result_send]
  exact written_noted _ _ _

theorem chunks_send
    (j : Journaled τ)
    (bs : Bytes)
    (w : ω) :
    (Transport.send j bs w).transport.chunks =
      j.chunks :=
  (chunks_noted _ _ _).trans (List.append_nil _)

theorem written_receive
    (j : Journaled τ)
    (room : Nat)
    (w : ω) :
    (Transport.receive j room w).transport.written =
      j.written :=
  (written_noted _ _ _).trans (List.append_nil _)

/- A receive that succeeds writes down what it hands over. -/
theorem chunks_receive_of_ok
    {j : Journaled τ}
    {room : Nat}
    {w : ω}
    {bs : Bytes}
    (hResult : (Transport.receive j room w).result = .ok bs) :
    (Transport.receive j room w).transport.chunks =
      j.chunks ++
        [⟨bs, Transport.remoteAddress
          (Transport.receive j room w).transport⟩] := by
  rw [result_receive] at hResult
  change
    (j.noted _
      (.received room
        (Transport.receive j.stream room w).result
        _)).chunks = _
  rw [hResult, chunks_noted]
  rfl

/- A receive that fails hands nothing over. -/
theorem chunks_receive_of_error
    {j : Journaled τ}
    {room : Nat}
    {w : ω}
    {e : IoError}
    (hResult :
      (Transport.receive j room w).result = .error e) :
    (Transport.receive j room w).transport.chunks =
      j.chunks := by
  rw [result_receive] at hResult
  change
    (j.noted _
      (.received room
        (Transport.receive j.stream room w).result
        _)).chunks = _
  rw [hResult, chunks_noted]
  exact List.append_nil _

/- A receive adds what it hands over. -/
theorem received_receive
    (j : Journaled τ)
    (room : Nat)
    (w : ω) :
    (Transport.receive j room w).transport.received =
      j.received ++
        (Transport.receive j room w).result.toOption.getD
          [] := by
  unfold received
  cases hResult : (Transport.receive j room w).result with
  | error e =>
      rw [chunks_receive_of_error hResult]
      exact (List.append_nil _).symm
  | ok bs =>
      rw [chunks_receive_of_ok hResult, List.flatMap_append,
        List.flatMap_cons, List.flatMap_nil, List.append_nil]
      rfl

theorem receivesWithin
    (hWithin : Transport.ReceivesWithin τ) :
    Transport.ReceivesWithin (Journaled τ) := by
  intro j room w bs hResult
  apply hWithin j.stream room w bs
  rw [hom_stream.receive j room w, Outcome.map, hResult]
  rfl

theorem sendsWithin
    (hWithin : Transport.SendsWithin τ) :
    Transport.SendsWithin (Journaled τ) := by
  intro j offered w n hResult
  apply hWithin j.stream offered w n
  rw [hom_stream.send j offered w, Outcome.map, hResult]
  rfl

end Journaled

------------------------------------------------------------
-- Journaled Lives
------------------------------------------------------------

/- The moment of a stream below its journal. -/
def Moment.journaled
    {τ ω : Type} : Moment τ ω → Moment (Journaled τ) ω
  | .operate operation => .operate operation
  | .disturb change =>
      .disturb
        (fun j host => (change j.stream host).map j.moved id)

/- The life of a socket with the journal left out. -/
def Life.unjournaled
    {τ ω : Type}
    (r : Life (Journaled τ) ω) : Life τ ω :=
  { r.map Journaled.stream with
    result :=
      r.result.map (Socket.Result.map Journaled.stream) }

namespace Origin

variable {τ ω : Type} [Transport τ ω]

/- The same origin with an empty journal to be kept. -/
def journaled (origin : Origin τ ω) :
    Origin (Journaled τ) ω :=
  { origin with transport := ⟨origin.transport, []⟩ }

/- The life of a socket whose transport keeps a journal. -/
def recorded
    (origin : Origin τ ω)
    (moments : List (Moment τ ω)) :
    Life (Journaled τ) ω :=
  origin.journaled.live (moments.map .journaled)

theorem recorded_concat
    (origin : Origin τ ω)
    (moments : List (Moment τ ω))
    (moment : Moment τ ω) :
    origin.recorded (moments ++ [moment]) =
      Socket.pass (origin.recorded moments)
        moment.journaled := by
  rw [recorded, List.map_append]
  exact live_concat _ _ _

/- What is in the journal at the end of a life. -/
def journal
    (origin : Origin τ ω)
    (moments : List (Moment τ ω)) : Journaled τ :=
  (origin.recorded moments).socket.transport

end Origin

namespace Socket

variable {τ ω : Type} [Transport τ ω]

/- Keeping a journal changes no moment. -/
theorem unjournaled_pass
    (r : Life (Journaled τ) ω)
    (moment : Moment τ ω) :
    (pass r moment.journaled).unjournaled =
      pass r.unjournaled moment := by
  cases moment with
  | operate operation =>
      have hPerform :=
        perform_map Journaled.hom_stream r.socket operation
          r.host
      simp only [Moment.journaled, pass, Life.unjournaled,
        Reply.map, hPerform, List.map_append, List.map_cons,
        List.map_nil]
  | disturb change =>
      simp only [Moment.journaled, pass, Life.unjournaled,
        Reply.map, map_eq, Prod.map, Journaled.moved, id_eq]

end Socket

/- Keeping a journal changes no life. -/
theorem Origin.live_journaled
    {τ ω : Type}
    [Transport τ ω]
    (origin : Origin τ ω)
    (moments : List (Moment τ ω)) :
    (origin.recorded moments).unjournaled =
      origin.live moments := by
  have hStarted :
      origin.started =
        origin.journaled.started.map Journaled.stream :=
    Socket.start_map Journaled.hom_stream
      ⟨origin.transport, []⟩ _ _ _ _
  have hAfter :
      ∀ r : Life (Journaled τ) ω,
        ((moments.map .journaled).foldl Socket.pass
            r).unjournaled =
          moments.foldl Socket.pass r.unjournaled := by
    induction moments with
    | nil => intro r; rfl
    | cons moment moments ih =>
        intro r
        rw [List.map_cons, List.foldl_cons, List.foldl_cons,
          ih, Socket.unjournaled_pass]
  rw [recorded, live, live, hStarted]
  exact hAfter _

------------------------------------------------------------
-- What a Journaled Life Shows
------------------------------------------------------------

section Views

variable {τ σ : Type} (f : τ → σ)

@[simp]
theorem Event.packet?_map (event : Event τ) :
    (event.map f).packet? = event.packet? := by
  cases event with
  | connected => simp only [Event.map, packet?]
  | packet payload remote => simp only [Event.map, packet?]
  | newConnection socket => simp only [Event.map, packet?]
  | closed code => simp only [Event.map, packet?]

theorem Socket.Result.events_map (result : Result τ) :
    (result.map f).events = result.events.map (Event.map f) := by
  cases result with
  | count result => rfl
  | done => rfl
  | polled event =>
      cases event with
      | none => rfl
      | some event => rfl
  | drained events => rfl

end Views

/- A life shows the packets that a journaled one shows. -/
theorem Life.packets_unjournaled
    {τ ω : Type}
    (r : Life (Journaled τ) ω) :
    r.unjournaled.packets = r.packets := by
  have hResults :
      r.unjournaled.emitted =
        r.emitted.map (Event.map Journaled.stream) := by
    simp only [emitted, unjournaled, Reply.map, Socket.map_events,
      List.flatMap_map, Socket.Result.events_map,
      List.map_append, List.map_flatMap]
  simp only [packets, hResults, List.filterMap_map,
    Function.comp_def, Event.packet?_map]

namespace Origin

variable {τ ω : Type} [Transport τ ω]
variable (origin : Origin τ ω) (moments : List (Moment τ ω))

theorem transport_live :
    (origin.live moments).socket.transport =
      (origin.journal moments).stream := by
  rw [← live_journaled]
  exact Socket.map_transport _ _

theorem host_live :
    (origin.live moments).host =
      (origin.recorded moments).host := by
  rw [← live_journaled]
  rfl

theorem output_live :
    (origin.live moments).socket.output =
      (origin.recorded moments).socket.output := by
  rw [← live_journaled]
  exact Socket.map_output _ _

theorem input_live :
    (origin.live moments).socket.input =
      (origin.recorded moments).socket.input := by
  rw [← live_journaled]
  exact Socket.map_input _ _

theorem reports_live :
    (origin.live moments).reports =
      (origin.recorded moments).reports := by
  rw [← live_journaled]
  rfl

theorem packets_live :
    (origin.live moments).packets =
      (origin.recorded moments).packets := by
  rw [← live_journaled]
  exact Life.packets_unjournaled _

end Origin

end FrameLink
