import FrameLink.Proofs.Socket.Accepting
import FrameLink.Proofs.Socket.Atomic

/-
  Failures that a consumer does not hear of.

  A notification can turn out to be for nothing: what was to
  be read or accepted would block, or fails, and what was to
  be written is not.  Then a socket is what it was, but for
  its stream.  One counter tells of a read or an accept that
  failed, and so does one line in the log that is an error
  (`Socket.withstands`).  A socket that cannot listen is made
  like one that can (`Origin.started_elsewhere`).

  Key definitions include:
    * `LogLine.isError`
    * `Socket.FlushesNothing`
    * `Socket.Unmoved`, `Socket.Withstands`
-/

------------------------------------------------------------
-- Readable and Writable for Nothing
------------------------------------------------------------

namespace FrameLink

/- The line is written at the level of errors. -/
def LogLine.isError (line : LogLine) : Bool :=
  line.level = .error

namespace Socket

variable {τ ω : Type} [Transport τ ω]

/- What a failed read or accept reports, unless it waits. -/
def complaint
    (e : IoError)
    (waiting : List Report)
    (measure : Measure)
    (line : LogLine) : List Report :=
  if e.wouldBlock then
    waiting
  else
    [.measure measure, .line line]

/-
  A readable connection whose receive fails moves its stream
  on and complains.
-/
theorem perform_readable_of_error
    {s : Socket τ}
    (hListener : s.listener = false)
    {host : Host ω}
    {e : IoError}
    (hFailed :
      (Transport.receive s.transport s.input.remaining
        host.world).result = .error e) :
    let o :=
      Transport.receive s.transport s.input.remaining
        host.world
    s.perform (.notify .readable) host =
      { result := .done
        socket := { s with transport := o.transport }
        host := { host with world := o.world }
        reports :=
          complaint e [] .readError .receiveFailed } := by
  rw [perform_readable hListener]
  unfold readInput complaint
  dsimp only
  rw [hFailed]
  dsimp only
  split
  · rfl
  · rfl

theorem perform_readable_of_listener_of_error
    {s : Socket τ}
    (hListener : s.listener = true)
    {host : Host ω}
    {e : IoError}
    (hFailed :
      (Transport.accept s.transport host.world).result =
        .error e) :
    let o := Transport.accept s.transport host.world
    s.perform (.notify .readable) host =
      { result := .done
        socket := { s with transport := o.transport }
        host := { host with world := o.world }
        reports :=
          complaint e [.line .nothingPending] .acceptError
            .acceptFailed } := by
  rw [perform_readable_of_listener hListener]
  unfold acceptConnection complaint
  dsimp only
  rw [hFailed]
  dsimp only
  split
  · rfl
  · rfl

/- A flush fails or writes nothing. -/
def FlushesNothing
    (s : Socket τ)
    (host : Host ω) : Prop :=
  (s.flush host).result = .ok 0 ∨
    ∃ e, (s.flush host).result = .error e

/- A flush never has an error to log. -/
theorem lines_flush
    (s : Socket τ)
    (host : Host ω) :
    (Report.lines (s.flush host).reports).filter
        LogLine.isError =
      [] := by
  unfold flush
  split
  · rfl
  · dsimp only
    split
    · rfl
    · split
      · rfl
      · split
        · rfl
        · rfl

/- A writable socket that writes nothing has none either. -/
theorem perform_writable_of_progress
    {s : Socket τ}
    {host : Host ω}
    (hNone : progress (s.flush host).result = 0) :
    let r := s.perform (.notify .writable) host
    r.socket = { s with transport := r.socket.transport } ∧
      r.host.nextId = host.nextId ∧
      r.result = .done ∧
      Report.measures r.reports = [] ∧
      (Report.lines r.reports).filter LogLine.isError =
        [] := by
  have hMeasures :
      Report.measures (s.onWritable host).reports = [] :=
    measures_onWritable s host
  unfold perform handle
  dsimp only [resulting]
  unfold onWritable at hMeasures ⊢
  split
  · cases s
    exact ⟨rfl, rfl, rfl, rfl, rfl⟩
  · rename_i hBusy
    rw [if_neg hBusy] at hMeasures
    dsimp only
    refine ⟨flush_of_progress_eq_zero hNone,
      flush_nextId s host, rfl, hMeasures, ?_⟩
    rw [Report.lines_append, List.filter_append, lines_flush]
    split
    · rfl
    · split
      · rfl
      · rfl

------------------------------------------------------------
-- What Is Left of a Failure
------------------------------------------------------------

/- Nothing but the stream of a socket has changed. -/
structure Unmoved
    (s : Socket τ)
    (host : Host ω)
    (r : Reply τ ω (Result τ)) : Prop where
  socket :
    r.socket = { s with transport := r.socket.transport }
  nextId : r.host.nextId = host.nextId
  result : r.result = .done

/- What the counters become, and the errors in the log. -/
structure Tells
    (reports : List Report)
    (count : Metrics → Metrics)
    (errors : List LogLine) : Prop where
  counters :
    ∀ counts : Metrics,
      (Report.measures reports).foldl Metrics.record counts =
        count counts
  lines :
    (Report.lines reports).filter LogLine.isError = errors

/-
  A notification leaves a socket as it is if there is nothing
  to read, to accept or to write after all.
-/
structure Withstands
    (s : Socket τ)
    (host : Host ω) : Prop where
  reading :
    s.listener = false →
      ∀ e,
        (Transport.receive s.transport s.input.remaining
            host.world).result = .error e →
          let r := s.perform (.notify .readable) host
          Unmoved s host r ∧
            if e.wouldBlock then
              r.reports = []
            else
              Tells r.reports
                (fun counts =>
                  { counts with
                    readErrors := counts.readErrors + 1 })
                [.receiveFailed]
  accepting :
    s.listener = true →
      ∀ e,
        (Transport.accept s.transport host.world).result =
            .error e →
          let r := s.perform (.notify .readable) host
          Unmoved s host r ∧
            if e.wouldBlock then
              r.reports = [.line .nothingPending]
            else
              Tells r.reports
                (fun counts =>
                  { counts with
                    acceptErrors := counts.acceptErrors + 1 })
                [.acceptFailed]
  writing :
    FlushesNothing s host →
      let r := s.perform (.notify .writable) host
      Unmoved s host r ∧
        Tells r.reports (fun counts => counts) []

/- Every socket does, in any state and over any stream. -/
theorem withstands
    (s : Socket τ)
    (host : Host ω) :
    Withstands s host where
  reading := by
    intro hListener e hFailed r
    have hReply : r = _ :=
      perform_readable_of_error hListener hFailed
    rw [hReply, complaint]
    refine ⟨⟨rfl, rfl, rfl⟩, ?_⟩
    cases e.wouldBlock with
    | true => exact rfl
    | false => exact ⟨fun _ => rfl, rfl⟩
  accepting := by
    intro hListener e hFailed r
    have hReply : r = _ :=
      perform_readable_of_listener_of_error hListener hFailed
    rw [hReply, complaint]
    refine ⟨⟨rfl, rfl, rfl⟩, ?_⟩
    cases e.wouldBlock with
    | true => exact rfl
    | false => exact ⟨fun _ => rfl, rfl⟩
  writing := by
    intro hNothing r
    have hNone : progress (s.flush host).result = 0 :=
      progress_eq_zero_iff.mpr hNothing
    rcases perform_writable_of_progress hNone with
      ⟨hSocket, hNextId, hResult, hMeasures, hLines⟩
    refine ⟨⟨hSocket, hNextId, hResult⟩, ?_, hLines⟩
    exact foldl_record_of_measures hMeasures

end Socket

------------------------------------------------------------
-- Listening
------------------------------------------------------------

/-
  Over another stream, in another world, a socket is made the
  same: it makes no difference whether it can listen.
-/
theorem Origin.started_elsewhere
    {τ ω : Type}
    [Transport τ ω]
    (origin : Origin τ ω)
    (transport : τ)
    (world : ω) :
    let other : Origin τ ω :=
      { origin with
        transport
        host := { origin.host with world } }
    other.started.socket =
        { origin.started.socket with
          transport := other.started.socket.transport } ∧
      other.started.host.nextId =
        origin.started.host.nextId ∧
      Report.measures other.started.reports =
        Report.measures origin.started.reports := by
  intro other
  have hMeasures :
      ∀ origin : Origin τ ω,
        Report.measures origin.started.reports = [] := by
    intro origin
    unfold started Socket.start
    dsimp only
    cases origin.framing.oversized with
    | false =>
        split
        · rfl
        · rfl
    | true =>
        split
        · rfl
        · rfl
  refine ⟨?_, ?_, (hMeasures other).trans (hMeasures _).symm⟩
  · unfold started Socket.start Socket.make
    dsimp only [other]
    split
    · rfl
    · rfl
  · unfold started Socket.start
    dsimp only [other]
    split
    · rfl
    · rfl

end FrameLink
