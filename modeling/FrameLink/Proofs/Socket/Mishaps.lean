import FrameLink.Proofs.Socket.Failures
import FrameLink.Proofs.Socket.Hearing
import FrameLink.Proofs.Socket.Queue
import FrameLink.Transport.Scripted

/-
  Mishaps in the life of a connection.

  Two connections start alike over streams of their own, and
  the same is done with them.  The second meets with mishaps
  besides: it is told to read or to write where that fails or
  would block.  If both hear the same of their streams but
  for the mishaps, both ask the same of them and come to the
  same, whatever is in their buffers when a mishap comes
  (`Life.Twins.run`).

  Key definitions include:
    * `Twofold`, `Twofold.first`, `Twofold.second`
    * `Socket.stumbles`, `Life.stumbling`
    * `Life.noted`, `Life.heard`, `Life.asked`
    * `Life.Twins`
-/

------------------------------------------------------------
-- Two Lives
------------------------------------------------------------

namespace FrameLink

/- What happens in two lives side by side. -/
inductive Twofold (τ ω : Type) where
  /- The same is done with both sockets. -/
  | both (operation : Socket.Operation)
  /- Streams and hosts change by other hands. -/
  | stir (change change' : τ → Host ω → τ × Host ω)
  /- The second socket is told of what comes to nothing. -/
  | mishap (notification : Notification)

namespace Twofold

variable {τ ω : Type}

/- The moment of the first life. -/
def first : Twofold τ ω → List (Moment τ ω)
  | .both operation => [.operate operation]
  | .stir change _ => [.disturb change]
  | .mishap _ => []

/- The moment of the second life. -/
def second : Twofold τ ω → List (Moment τ ω)
  | .both operation => [.operate operation]
  | .stir _ change => [.disturb change]
  | .mishap notification =>
      [.operate (.notify notification)]

end Twofold

/-
  A connection is told to read and cannot, or to write and
  does not.
-/
def Socket.stumbles
    {τ ω : Type}
    [Transport τ ω]
    (s : Socket τ)
    (host : Host ω) : Notification → Bool
  | .readable =>
      match
        (Transport.receive s.transport s.input.remaining
          host.world).result
      with
      | .ok _ => false
      | .error _ => true
  | .writable => progress (s.flush host).result = 0
  | _ => false

namespace Life

variable {τ ω : Type} [Transport τ ω]

/- What is noted of the operations done with both sockets. -/
def noted
    {α : Type}
    (note : Socket τ → Socket.Operation → Host ω → List α)
    (side : Twofold τ ω → List (Moment τ ω))
    (r : Life τ ω) : List (Twofold τ ω) → List α
  | [] => []
  | step :: steps =>
      (match step with
        | .both operation => note r.socket operation r.host
        | _ => []) ++
        noted note side ((side step).foldl Socket.pass r)
          steps

/- What a socket hears of its stream, but for the mishaps. -/
def heard :
    (Twofold τ ω → List (Moment τ ω)) →
      Life τ ω → List (Twofold τ ω) → List Hearing :=
  noted Socket.hears

/- What it asks of its stream, but for the mishaps. -/
def asked :
    (Twofold τ ω → List (Moment τ ω)) →
      Life τ ω → List (Twofold τ ω) → List Request :=
  noted
    (fun s operation host =>
      (s.exchanges operation host).map Exchange.request)

/- Every mishap of the second life is one. -/
def stumbling (r : Life τ ω) : List (Twofold τ ω) → Bool
  | [] => true
  | step :: steps =>
      (match step with
        | .mishap notification =>
            r.socket.stumbles r.host notification
        | _ => true) &&
        stumbling (step.second.foldl Socket.pass r) steps

------------------------------------------------------------
-- Lives That Come to the Same
------------------------------------------------------------

end Life

theorem Socket.eq_with_trans
    {τ : Type}
    {a b c : Socket τ}
    (hFirst : b = { a with transport := b.transport })
    (hSecond : c = { b with transport := c.transport }) :
    c = { a with transport := c.transport } :=
  hSecond.trans
    (congrArg
      (fun s : Socket τ =>
        { s with transport := c.transport })
      hFirst)

/- The result tells the consumer something. -/
def Socket.Result.isTold
    {τ : Type} : Socket.Result τ → Bool
  | .done => false
  | _ => true

namespace Life

variable {τ ω : Type} [Transport τ ω]

/-
  Two lives have come to the same, but for the streams and
  for reads that have failed.
-/
structure Twins (r r' : Life τ ω) : Prop where
  socket :
    r'.socket =
      { r.socket with transport := r'.socket.transport }
  results :
    r'.result.filter Socket.Result.isTold =
      r.result.filter Socket.Result.isTold
  measures :
    (Report.measures r'.reports).filter (· ≠ .readError) =
      (Report.measures r.reports).filter (· ≠ .readError)

/- Other hands change neither what is there nor what was. -/
theorem Twins.stir
    {r r' : Life τ ω}
    (hTwins : Twins r r')
    (change change' : τ → Host ω → τ × Host ω) :
    Twins (Socket.pass r (.disturb change))
      (Socket.pass r' (.disturb change')) := by
  refine ⟨?_, hTwins.results, hTwins.measures⟩
  dsimp only [Socket.pass]
  rw [hTwins.socket]

/- What is done with both does the same, if it is heard so. -/
theorem Twins.both
    {r r' : Life τ ω}
    (hTwins : Twins r r')
    {operation : Socket.Operation}
    (hAlike :
      Reply.Alike (r.socket.perform operation r.host)
        (r'.socket.perform operation r'.host)) :
    Twins (Socket.pass r (.operate operation))
      (Socket.pass r' (.operate operation)) := by
  refine ⟨hAlike.socket, ?_, ?_⟩
  · dsimp only [Socket.pass]
    rw [List.filter_append, List.filter_append,
      hTwins.results, hAlike.result]
  · dsimp only [Socket.pass]
    rw [Report.measures_append, Report.measures_append,
      List.filter_append, List.filter_append,
      hTwins.measures, hAlike.measures]

/- Nothing is different for what moves only the stream on. -/
theorem Twins.alone
    {r r' : Life τ ω}
    (hTwins : Twins r r')
    {operation : Socket.Operation}
    {next : Reply τ ω (Socket.Result τ)}
    (hNext : r'.socket.perform operation r'.host = next)
    (hSocket :
      next.socket =
        { r'.socket with transport := next.socket.transport })
    (hResult : next.result = .done)
    (hMeasures :
      (Report.measures next.reports).filter (· ≠ .readError) =
        []) :
    Twins r (Socket.pass r' (.operate operation)) := by
  subst hNext
  constructor
  · exact Socket.eq_with_trans hTwins.socket hSocket
  · dsimp only [Socket.pass]
    rw [hResult, List.filter_append, hTwins.results]
    exact List.append_nil _
  · dsimp only [Socket.pass]
    rw [Report.measures_append, List.filter_append,
      hMeasures, List.append_nil]
    exact hTwins.measures

/- A mishap of the second is such an operation. -/
theorem Twins.mishap
    {r r' : Life τ ω}
    (hTwins : Twins r r')
    (hListener : r'.socket.listener = false)
    {notification : Notification}
    (hStumbles :
      r'.socket.stumbles r'.host notification = true) :
    Twins r
      (Socket.pass r' (.operate (.notify notification))) := by
  cases notification with
  | connected => cases hStumbles
  | closed code => cases hStumbles
  | readable =>
      dsimp only [Socket.stumbles] at hStumbles
      split at hStumbles
      · cases hStumbles
      · rename_i e hFailed
        apply hTwins.alone
          (Socket.perform_readable_of_error hListener hFailed)
        · rfl
        · rfl
        · unfold Socket.complaint
          dsimp only
          split
          · rfl
          · rfl
  | writable =>
      have hNone := of_decide_eq_true hStumbles
      rcases Socket.perform_writable_of_progress hNone with
        ⟨hSocket, _, hResult, hMeasures, _⟩
      apply hTwins.alone rfl hSocket hResult
      rw [hMeasures]
      rfl

------------------------------------------------------------
-- Whole Lives
------------------------------------------------------------

/-
  By induction on what happens: two lives that have come to
  the same come to the same later, as long as the same is
  heard in both.
-/
theorem Twins.run
    {limit : Nat}
    (steps : List (Twofold τ ω))
    {r r' : Life τ ω}
    (hTwins : Twins r r')
    (hLimit : Socket.HasLimit limit r.socket)
    (hListener : r.socket.listener = false)
    (hStumbling : stumbling r' steps = true)
    (hHeard :
      heard Twofold.second r' steps =
        heard Twofold.first r steps) :
    Twins
        ((steps.flatMap Twofold.first).foldl Socket.pass r)
        ((steps.flatMap Twofold.second).foldl Socket.pass
          r') ∧
      asked Twofold.second r' steps =
        asked Twofold.first r steps := by
  induction steps generalizing r r' with
  | nil => exact ⟨hTwins, rfl⟩
  | cons step steps ih =>
      rw [List.flatMap_cons, List.flatMap_cons,
        List.foldl_append, List.foldl_append]
      cases step with
      | stir change change' =>
          exact
            ih (hTwins.stir change change')
              (hLimit.of_shape rfl) hListener hStumbling
              hHeard
      | mishap notification =>
          have hReads : r'.socket.listener = false := by
            rw [hTwins.socket]
            exact hListener
          rcases Bool.and_eq_true_iff.mp hStumbling with
            ⟨hHere, hLater⟩
          exact
            ih (hTwins.mishap hReads hHere) hLimit hListener
              hLater hHeard
      | both operation =>
          have hShape :=
            Socket.perform_shape r.socket operation r.host
          have hSplit :
              r'.socket.hears operation r'.host ++
                  heard Twofold.second
                    (Socket.pass r' (.operate operation))
                    steps =
                r.socket.hears operation r.host ++
                  heard Twofold.first
                    (Socket.pass r (.operate operation))
                    steps :=
            hHeard
          rw [hTwins.socket] at hSplit
          -- Both lists begin with what this operation hears.
          -- It asks alike in both lives, so these beginnings
          -- are equally long and can be split off.
          rcases Socket.hears_append_inj hSplit with
            ⟨hAsked, hHere, hRest⟩
          have hAlike :=
            Socket.alike_perform hLimit hListener hAsked hHere
          have hRequests :=
            Socket.requests_of_asked hAsked r.host r'.host
          rw [← hTwins.socket] at hAlike hRequests
          rcases ih (hTwins.both hAlike)
              (hLimit.of_shape hShape)
              ((congrArg Socket.Shape.listener hShape).trans
                hListener)
              hStumbling hRest with
            ⟨hLater, hAskedLater⟩
          refine ⟨hLater, ?_⟩
          rw [asked, noted, noted]
          rw [hRequests]
          exact congrArg (_ ++ ·) hAskedLater

/- What tells nothing hands nothing out. -/
theorem flatMap_events_filter_isTold
    (results : List (Socket.Result τ)) :
    (results.filter Socket.Result.isTold).flatMap
        Socket.Result.events =
      results.flatMap Socket.Result.events := by
  induction results with
  | nil => rfl
  | cons result results ih =>
      cases result with
      | done => exact ih
      | count | polled | drained =>
          exact congrArg (_ ++ ·) ih

omit [Transport τ ω] in
/- Lives that have come to the same have the same events. -/
theorem Twins.emitted_eq
    {r r' : Life τ ω}
    (hTwins : Twins r r') :
    r'.emitted = r.emitted := by
  have hResults :=
    congrArg (List.flatMap Socket.Result.events)
      hTwins.results
  rw [flatMap_events_filter_isTold,
    flatMap_events_filter_isTold] at hResults
  rw [emitted, emitted, hResults, hTwins.socket]

end Life

/- Reads that have failed count for one counter only. -/
theorem Metrics.foldl_record_filter
    (measures : List Measure)
    (counts : Metrics) :
    { measures.foldl record counts with readErrors := 0 } =
      (measures.filter (· ≠ .readError)).foldl record
        { counts with readErrors := 0 } := by
  induction measures generalizing counts with
  | nil => rfl
  | cons measure measures ih =>
      rw [List.foldl_cons, ih]
      cases measure <;> rfl

namespace Origin

variable {τ ω : Type} [Transport τ ω]

/-
  A socket withstands every notification that comes to
  nothing, in any state, and it is made the same whether it
  can listen or not.  What it exchanges with its stream can
  be told beforehand.  So a connection that meets with such
  mishaps, whenever they come, delivers the same packets,
  asks the same of its stream and is left with the same
  buffers and events as one that does not, if it hears the
  same otherwise.
-/
theorem mishaps_leave_no_trace
    (origin : Origin τ ω)
    (transport : τ)
    (world : ω) :
    let other : Origin τ ω :=
      { origin with
        transport
        host := { origin.host with world } }
    (∀ (s : Socket τ) (host : Host ω), s.Withstands host) ∧
      (other.started.socket =
          { origin.started.socket with
            transport := other.started.socket.transport } ∧
        other.started.host.nextId =
          origin.started.host.nextId ∧
        Report.measures other.started.reports =
          Report.measures origin.started.reports) ∧
      (∀ moments operation,
        let life := origin.live moments
        (origin.journal
            (moments ++ [.operate operation])).journal =
          (origin.journal moments).journal ++
            life.socket.exchanges operation life.host) ∧
      (origin.listener = false →
        ∀ steps : List (Twofold τ ω),
          Life.stumbling (other.live []) steps = true →
            Life.heard Twofold.second (other.live []) steps =
                Life.heard Twofold.first (origin.live [])
                  steps →
              let first :=
                origin.live (steps.flatMap Twofold.first)
              let second :=
                other.live (steps.flatMap Twofold.second)
              second.packets = first.packets ∧
                Life.asked Twofold.second (other.live [])
                    steps =
                  Life.asked Twofold.first (origin.live [])
                    steps ∧
                second.socket =
                  { first.socket with
                    transport := second.socket.transport } ∧
                second.emitted = first.emitted ∧
                second.result.filter Socket.Result.isTold =
                  first.result.filter
                    Socket.Result.isTold ∧
                { Metrics.ofMeasures
                      (Report.measures second.reports) with
                  readErrors := 0 } =
                  { Metrics.ofMeasures
                      (Report.measures first.reports) with
                    readErrors := 0 }) := by
  intro other
  have hStarted := started_elsewhere origin transport world
  refine
    ⟨Socket.withstands, hStarted, journal_operate origin, ?_⟩
  intro hListener steps hStumbling hHeard first second
  have hTwins :
      Life.Twins (origin.live []) (other.live []) :=
    ⟨hStarted.1, rfl, rfl⟩
  have hReads :
      (origin.live []).socket.listener = false :=
    (listener_live origin []).trans hListener
  rcases Life.Twins.run steps hTwins (hasLimit_live origin [])
      hReads hStumbling hHeard with
    ⟨hLast, hAsked⟩
  refine ⟨?_, hAsked, hLast.socket, hLast.emitted_eq,
    hLast.results, ?_⟩
  · exact
      congrArg (List.filterMap Event.packet?) hLast.emitted_eq
  · rw [Metrics.ofMeasures, Metrics.ofMeasures,
      Metrics.foldl_record_filter,
      Metrics.foldl_record_filter]
    exact
      congrArg (List.foldl Metrics.record _) hLast.measures

/- A connection that is sent a packet in two pieces. -/
def torn : Origin Scripted Unit where
  transport :=
    { script :=
        { sends := [.claims 2, .all]
          receives := [.yields [0, 3, 1], .yields [2, 3]] } }
  framing := { maxPacketSize := 4 }
  host := { world := () }

/- A stream that answers the same and fails in between. -/
def ragged : Scripted where
  script :=
    { sends :=
        [.claims 2, .fails { kind := .wouldBlock }, .all]
      receives :=
        [.fails { kind := .wouldBlock }, .yields [0, 3, 1],
          .fails { kind := .connectionReset },
          .yields [2, 3]] }

/- A packet comes in and one goes out, through mishaps. -/
def tornSteps : List (Twofold Scripted Unit) :=
  [.mishap .readable, .both (.send [7, 8]),
    .both (.notify .readable), .mishap .writable,
    .mishap .readable, .both (.notify .readable),
    .both (.notify .writable), .both .drain]

/-
  The mishaps come when parts of both packets are in the
  buffers, and make no difference to either.
-/
theorem mishaps_leave_no_trace_torn :
    let other := { torn with transport := ragged }
    let moments := tornSteps.flatMap Twofold.second
    (torn.live [.operate (.send [7, 8])]).socket.Withstands
        torn.host ∧
      (other.live moments).packets.map Prod.fst =
        [[1, 2, 3]] ∧
      Life.asked Twofold.second (other.live []) tornSteps =
        [.send [0, 2, 7, 8], .receive 6, .receive 3,
          .send [7, 8]] := by
  intro other moments
  have hStumbling :
      Life.stumbling (other.live []) tornSteps = true := by
    decide +kernel
  have hHeard :
      Life.heard Twofold.second (other.live []) tornSteps =
        Life.heard Twofold.first (torn.live [])
          tornSteps := by
    decide +kernel
  have hPackets :
      (torn.live (tornSteps.flatMap Twofold.first)).packets.map
          Prod.fst =
        [[1, 2, 3]] := by
    decide +kernel
  have hAsked :
      Life.asked Twofold.first (torn.live []) tornSteps =
        [.send [0, 2, 7, 8], .receive 6, .receive 3,
          .send [7, 8]] := by
    decide +kernel
  rcases mishaps_leave_no_trace torn ragged () with
    ⟨hWithstands, _, _, hTwins⟩
  have hSame := hTwins rfl tornSteps hStumbling hHeard
  refine ⟨hWithstands _ _, ?_, hSame.2.1.trans hAsked⟩
  rw [← hPackets]
  exact congrArg (List.map Prod.fst) hSame.1

end Origin

end FrameLink
