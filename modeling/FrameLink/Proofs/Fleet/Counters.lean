import FrameLink.Proofs.Fleet.Basic
import FrameLink.Transport.Memory
import Mathlib.Algebra.GroupWithZero.Nat

/-
  Counters that sockets share.

  All that is counted under one meter is what stands in the
  log, what was told in events, and what calls have answered:
  each of the counters can be had from any of them that knows
  of it (`Fleet.consistent_record`).

  Key definitions include:
    * `LogLine.reads`, `LogLine.times`
    * `Call.accepted?`, `Call.sent?`, `Call.queued?`
    * `Call.Kind`
    * `Fleet.Logged`, `Fleet.Announced`, `Fleet.Answered`
-/

------------------------------------------------------------
-- Counters and the Log
------------------------------------------------------------

namespace FrameLink

/- The log line has a level and a message. -/
def LogLine.reads
    (level : LogLevel)
    (message : String)
    (line : LogLine) : Bool :=
  line.level == level && line.message == message

/- How often something is logged. -/
def LogLine.times
    (level : LogLevel)
    (message : String)
    (lines : List LogLine) : Nat :=
  lines.countP (reads level message)

/- No two log lines have one level and one message. -/
theorem LogLine.reads_self (line other : LogLine) :
    other.reads line.level line.message = (other == line) := by
  cases line with
  | _ =>
      cases other with
      | _ => decide

namespace Report

/- A measured line is logged as often as it is measured. -/
theorem Paired.times_lines
    {reports : List Report}
    (hPaired : Paired reports)
    {line : LogLine}
    (hMeasured : line.isMeasured = true) :
    LogLine.times line.level line.message (lines reports) =
      (measures reports).countP
        (fun measure => measure.line? == some line) := by
  have hLines :
      LogLine.times line.level line.message (lines reports) =
        LogLine.times line.level line.message
          ((lines reports).filter LogLine.isMeasured) := by
    unfold LogLine.times
    rw [List.countP_filter]
    apply List.countP_congr
    intro other _
    rw [LogLine.reads_self, Bool.and_eq_true]
    refine ⟨fun hThis => ⟨hThis, ?_⟩, And.left⟩
    rw [eq_of_beq hThis]
    exact hMeasured
  rw [hLines, hPaired, LogLine.times, List.countP_filterMap]
  apply List.countP_congr
  intro measure _
  cases measure.line? with
  | none => exact ⟨nofun, nofun⟩
  | some other =>
      rw [Option.map_some, Option.getD_some,
        LogLine.reads_self]
      exact Iff.rfl

end Report

------------------------------------------------------------
-- Sizes
------------------------------------------------------------

/-
  Where each measure adds the size of a part, all measures
  add the sizes of all parts, up to wrapping.
-/
theorem Metrics.total_filterMap
    {α β : Type}
    {measure? : α → Option Measure}
    {part? : α → Option β}
    {weight : Measure → UInt64}
    {size : β → Nat}
    (hEach :
      ∀ item,
        ((measure? item).map weight).getD 0 =
          UInt64.ofNat (((part? item).map size).getD 0))
    (items : List α) :
    total weight (items.filterMap measure?) =
      UInt64.ofNat ((items.filterMap part?).map size).sum := by
  have hTotal (item : α) (items : List α) :
      total weight ((item :: items).filterMap measure?) =
        ((measure? item).map weight).getD 0 +
          total weight (items.filterMap measure?) := by
    rw [List.filterMap_cons]
    cases measure? item with
    | none => exact (UInt64.zero_add _).symm
    | some measure => rfl
  have hSum (item : α) (items : List α) :
      (((item :: items).filterMap part?).map size).sum =
        ((part? item).map size).getD 0 +
          ((items.filterMap part?).map size).sum := by
    rw [List.filterMap_cons]
    cases part? item with
    | none => exact (Nat.zero_add _).symm
    | some part => rw [List.map_cons, List.sum_cons]; rfl
  induction items with
  | nil => rfl
  | cons item items ih =>
      rw [hTotal, hSum, UInt64.ofNat_add, hEach, ih]

/- A sum of ones is a number. -/
theorem sum_map_one
    {β : Type}
    (parts : List β) :
    (parts.map (fun _ => 1)).sum = parts.length := by
  induction parts with
  | nil => rfl
  | cons part parts ih =>
      rw [List.map_cons, List.sum_cons, ih, List.length_cons,
        Nat.add_comm]

------------------------------------------------------------
-- Consistent Counters
------------------------------------------------------------

/- The payload of a call that has sent a packet, or shed it. -/
def Call.accepted? {τ : Type} (call : Call τ) : Option Bytes :=
  match call.operation, call.result with
  | .send payload, .count (.ok _) => some payload
  | .sendTo payload _, .count (.ok _) => some payload
  | _, _ => none

/- The same if nothing waited before, so that it was sent. -/
def Call.sent? {τ : Type} (call : Call τ) : Option Bytes :=
  if call.busy then none else call.accepted?

/- The raw bytes of a call for which there was room. -/
def Call.queued? {τ : Type} (call : Call τ) : Option Bytes :=
  match call.operation, call.result with
  | .sendRaw _, .count (.error (.messageTooLarge _)) => none
  | .sendRaw data, .count _ => some data
  | _, _ => none

/- What a call has moved, and how it is measured. -/
inductive Call.Kind {τ : Type} (call : Call τ) : Prop where
  | sent
      (payload : Bytes)
      (hAccepted : call.accepted? = some payload)
      (hSent : call.sent? = some payload)
      (hQueued : call.queued? = none)
      (hMeasure :
        call.measure? =
          some (.packetSent (UInt64.ofNat payload.length)))
  | shed
      (payload : Bytes)
      (hAccepted : call.accepted? = some payload)
      (hSent : call.sent? = none)
      (hQueued : call.queued? = none)
      (hMeasure : call.measure? = some .packetDropped)
  | raw
      (data : Bytes)
      (hAccepted : call.accepted? = none)
      (hSent : call.sent? = none)
      (hQueued : call.queued? = some data)
      (hMeasure :
        call.measure? =
          some (.rawQueued (UInt64.ofNat data.length)))
  | nothing
      (hAccepted : call.accepted? = none)
      (hSent : call.sent? = none)
      (hQueued : call.queued? = none)
      (hMeasure : call.measure? = none)

/- A packet that is accepted is sent or shed. -/
theorem Call.kind_of_accepted
    {τ : Type}
    {call : Call τ}
    {payload : Bytes}
    (hAccepted : call.accepted? = some payload)
    (hQueued : call.queued? = none)
    (hMeasure :
      call.measure? = some (.ofPacket payload call.busy)) :
    call.Kind := by
  cases hBusy : call.busy with
  | true =>
      rw [hBusy] at hMeasure
      refine .shed payload hAccepted ?_ hQueued hMeasure
      rw [sent?, hBusy]
      rfl
  | false =>
      rw [hBusy] at hMeasure
      refine .sent payload hAccepted ?_ hQueued hMeasure
      rw [sent?, hBusy]
      exact hAccepted

theorem Call.sent?_of_none
    {τ : Type}
    {call : Call τ}
    (hNone : call.accepted? = none) :
    call.sent? = none := by
  rw [sent?, hNone, ite_self]

/- Every call is of one such kind. -/
theorem Call.kind {τ : Type} (call : Call τ) : call.Kind := by
  rcases call with ⟨operation, busy, result⟩
  cases result with
  | count answer =>
      cases answer with
      | ok n =>
          cases operation with
          | send payload => exact kind_of_accepted rfl rfl rfl
          | sendTo payload address =>
              exact kind_of_accepted rfl rfl rfl
          | sendRaw data =>
              exact .raw data rfl (sent?_of_none rfl) rfl rfl
          | _ => exact .nothing rfl (sent?_of_none rfl) rfl rfl
      | error e =>
          cases operation with
          | sendRaw data =>
              cases e with
              | messageTooLarge size =>
                  exact .nothing rfl (sent?_of_none rfl) rfl rfl
              | _ =>
                  exact
                    .raw data rfl (sent?_of_none rfl) rfl rfl
          | _ => exact .nothing rfl (sent?_of_none rfl) rfl rfl
  | _ =>
      cases operation with
      | _ => exact .nothing rfl (sent?_of_none rfl) rfl rfl

namespace Fleet

variable {τ : Type}

/- A counter of measured lines holds how often they stand. -/
theorem counter_eq_times
    {reports : List Report}
    (hPaired : Report.Paired reports)
    (counter : Metrics → UInt64)
    (line : LogLine)
    (hMeasured : line.isMeasured = true)
    (hZero : counter {} = 0)
    (hAdd :
      ∀ a b : Metrics,
        counter (a.add b) = counter a + counter b)
    (hWeight :
      ∀ measure,
        counter (Metrics.record {} measure) =
          if measure.line? == some line then 1 else 0) :
    counter (Metrics.ofMeasures (Report.measures reports)) =
      UInt64.ofNat
        (LogLine.times line.level line.message
          (Report.lines reports)) := by
  rw [(Metrics.adds_of_add hZero hAdd).eq_total,
    hPaired.times_lines hMeasured, ← Metrics.total_ite,
    funext hWeight]

/- A counter of some kind holds the sizes of what it counts. -/
theorem counter_eq_sizes
    {α β : Type}
    {measures : List Measure}
    {kept : Measure → Bool}
    {items : List α}
    {measure? : α → Option Measure}
    (hKept : measures.filter kept = items.filterMap measure?)
    (counter : Metrics → UInt64)
    (part? : α → Option β)
    (size : β → Nat)
    (hZero : counter {} = 0)
    (hAdd :
      ∀ a b : Metrics,
        counter (a.add b) = counter a + counter b)
    (hOnly :
      ∀ measure,
        counter (Metrics.record {} measure) =
          if kept measure then
            counter (Metrics.record {} measure)
          else
            0)
    (hEach :
      ∀ item,
        ((measure? item).map
            (fun measure =>
              counter (Metrics.record {} measure))).getD 0 =
          UInt64.ofNat (((part? item).map size).getD 0)) :
    counter (Metrics.ofMeasures measures) =
      UInt64.ofNat ((items.filterMap part?).map size).sum := by
  rw [(Metrics.adds_of_add hZero hAdd).eq_total,
    ← Metrics.total_filter hOnly, hKept,
    Metrics.total_filterMap hEach]

/- The counters hold what is in the log, up to wrapping. -/
structure Logged (m : Metrics) (lines : List LogLine) :
    Prop where
  packetsReceived :
    m.packetsReceived =
      UInt64.ofNat
        (LogLine.times .trace "Packet received" lines)
  connectionsAccepted :
    m.connectionsAccepted =
      UInt64.ofNat
        (LogLine.times .info "Accepted connection" lines)
  packetsDropped :
    m.packetsDropped =
      UInt64.ofNat
        (LogLine.times .trace
          "Previous frame still draining, packet dropped"
          lines)
  readErrors :
    m.readErrors =
      UInt64.ofNat
        (LogLine.times .error "Receive failed" lines)
  acceptErrors :
    m.acceptErrors =
      UInt64.ofNat
        (LogLine.times .error "Accept failed" lines)
  bufferOverflows :
    m.bufferOverflows =
      UInt64.ofNat
        (LogLine.times .error "input buffer overflow" lines)

/- The counters hold what events tell, up to wrapping. -/
structure Announced
    (m : Metrics)
    (events : List (Event τ)) : Prop where
  packetsReceived :
    m.packetsReceived =
      UInt64.ofNat (events.filterMap Event.packet?).length
  bytesReceived :
    m.bytesReceived =
      UInt64.ofNat
        ((events.filterMap Event.packet?).map
          (fun packet => packet.1.length)).sum
  connectionsAccepted :
    m.connectionsAccepted =
      UInt64.ofNat (events.filterMap Event.connection?).length

/- The counters hold what calls have answered. -/
structure Answered
    (m : Metrics)
    (calls : List (Call τ)) : Prop where
  packetsAccepted :
    m.packetsSent + m.packetsDropped =
      UInt64.ofNat (calls.filterMap Call.accepted?).length
  packetsSent :
    m.packetsSent =
      UInt64.ofNat (calls.filterMap Call.sent?).length
  bytesSent :
    m.bytesSent =
      UInt64.ofNat
        ((calls.filterMap Call.sent?).map List.length).sum
  rawBytesQueued :
    m.rawBytesQueued =
      UInt64.ofNat
        ((calls.filterMap Call.queued?).map List.length).sum

/- Paired reports make counters of what is logged. -/
theorem logged_of_paired
    {reports : List Report}
    (hPaired : Report.Paired reports) :
    Logged (Metrics.ofMeasures (Report.measures reports))
      (Report.lines reports) := by
  constructor
  case packetsReceived =>
    apply counter_eq_times hPaired Metrics.packetsReceived
      .packetReceived rfl rfl (fun _ _ => rfl)
    intro measure
    cases measure with
    | _ => rfl
  case connectionsAccepted =>
    apply counter_eq_times hPaired Metrics.connectionsAccepted
      .accepted rfl rfl (fun _ _ => rfl)
    intro measure
    cases measure with
    | _ => rfl
  case packetsDropped =>
    apply counter_eq_times hPaired Metrics.packetsDropped
      .packetShed rfl rfl (fun _ _ => rfl)
    intro measure
    cases measure with
    | _ => rfl
  case readErrors =>
    apply counter_eq_times hPaired Metrics.readErrors
      .receiveFailed rfl rfl (fun _ _ => rfl)
    intro measure
    cases measure with
    | _ => rfl
  case acceptErrors =>
    apply counter_eq_times hPaired Metrics.acceptErrors
      .acceptFailed rfl rfl (fun _ _ => rfl)
    intro measure
    cases measure with
    | _ => rfl
  case bufferOverflows =>
    apply counter_eq_times hPaired Metrics.bufferOverflows
      .inputOverflow rfl rfl (fun _ _ => rfl)
    intro measure
    cases measure with
    | _ => rfl

/- What goes with events makes counters of what they tell. -/
theorem announced_of_news
    {measures : List Measure}
    {events : List (Event τ)}
    (hNews :
      measures.filter Measure.isNews =
        events.filterMap Event.measure?) :
    Announced (Metrics.ofMeasures measures) events := by
  constructor
  case packetsReceived =>
    rw [← sum_map_one]
    apply counter_eq_sizes hNews Metrics.packetsReceived
      Event.packet? _ rfl (fun _ _ => rfl)
    · intro measure
      cases measure with
      | _ => rfl
    · intro event
      cases event with
      | _ => rfl
  case bytesReceived =>
    apply counter_eq_sizes hNews Metrics.bytesReceived
      Event.packet? _ rfl (fun _ _ => rfl)
    · intro measure
      cases measure with
      | _ => rfl
    · intro event
      cases event with
      | packet payload remote => exact UInt64.zero_add _
      | _ => rfl
  case connectionsAccepted =>
    rw [← sum_map_one]
    apply counter_eq_sizes hNews Metrics.connectionsAccepted
      Event.connection? _ rfl (fun _ _ => rfl)
    · intro measure
      cases measure with
      | _ => rfl
    · intro event
      cases event with
      | _ => rfl

/- What goes with calls makes counters of their answers. -/
theorem answered_of_outbound
    {measures : List Measure}
    {calls : List (Call τ)}
    (hOutbound :
      measures.filter Measure.isOutbound =
        calls.filterMap Call.measure?) :
    Answered (Metrics.ofMeasures measures) calls := by
  constructor
  case packetsAccepted =>
    rw [← sum_map_one]
    apply counter_eq_sizes hOutbound
      (fun m => m.packetsSent + m.packetsDropped)
      Call.accepted? _ rfl
    · intro a b
      simp only [Metrics.add]
      ac_rfl
    · intro measure
      cases measure with
      | _ => rfl
    · intro call
      cases call.kind with
      | sent _ hPart _ _ hMeasure => rw [hPart, hMeasure]; rfl
      | shed _ hPart _ _ hMeasure => rw [hPart, hMeasure]; rfl
      | raw _ hPart _ _ hMeasure => rw [hPart, hMeasure]; rfl
      | nothing hPart _ _ hMeasure => rw [hPart, hMeasure]; rfl
  case packetsSent =>
    rw [← sum_map_one]
    apply counter_eq_sizes hOutbound Metrics.packetsSent
      Call.sent? _ rfl (fun _ _ => rfl)
    · intro measure
      cases measure with
      | _ => rfl
    · intro call
      cases call.kind with
      | sent _ _ hPart _ hMeasure => rw [hPart, hMeasure]; rfl
      | shed _ _ hPart _ hMeasure => rw [hPart, hMeasure]; rfl
      | raw _ _ hPart _ hMeasure => rw [hPart, hMeasure]; rfl
      | nothing _ hPart _ hMeasure => rw [hPart, hMeasure]; rfl
  case bytesSent =>
    apply counter_eq_sizes hOutbound Metrics.bytesSent
      Call.sent? _ rfl (fun _ _ => rfl)
    · intro measure
      cases measure with
      | _ => rfl
    · intro call
      cases call.kind with
      | sent payload _ hPart _ hMeasure =>
          rw [hPart, hMeasure]
          exact UInt64.zero_add _
      | shed _ _ hPart _ hMeasure => rw [hPart, hMeasure]; rfl
      | raw _ _ hPart _ hMeasure => rw [hPart, hMeasure]; rfl
      | nothing _ hPart _ hMeasure => rw [hPart, hMeasure]; rfl
  case rawBytesQueued =>
    apply counter_eq_sizes hOutbound Metrics.rawBytesQueued
      Call.queued? _ rfl (fun _ _ => rfl)
    · intro measure
      cases measure with
      | _ => rfl
    · intro call
      cases call.kind with
      | sent _ _ _ hPart hMeasure => rw [hPart, hMeasure]; rfl
      | shed _ _ _ hPart hMeasure => rw [hPart, hMeasure]; rfl
      | raw data _ _ hPart hMeasure =>
          rw [hPart, hMeasure]
          exact UInt64.zero_add _
      | nothing _ _ hPart hMeasure => rw [hPart, hMeasure]; rfl

/-
  Whatever is done with a fleet, what is counted under one
  meter from zero on is what stands in the log, what was told
  in events, and what calls have answered.
-/
theorem consistent_record
    {ω : Type}
    [Transport τ ω]
    (fleet : Fleet τ ω)
    (actions : List (Action τ ω))
    (meter : Nat) :
    let deeds :=
      (fleet.record actions).filter (·.meter == meter)
    let m :=
      Metrics.ofMeasures (Report.measures (reports deeds))
    Logged m (Report.lines (reports deeds)) ∧
      Announced m (emitted deeds) ∧
      Answered m (calls deeds) := by
  intro deeds m
  have hEach : ∀ deed ∈ deeds, deed.Told := by
    intro deed hMember
    exact
      told_record fleet actions (List.mem_filter.mp hMember).1
  rcases told_all hEach with ⟨hPaired, hOutbound, hNews⟩
  exact
    ⟨logged_of_paired hPaired, announced_of_news hNews,
      answered_of_outbound hOutbound⟩

/- A client has sent a packet before it is accepted. -/
example :
    let port : Address := .loopback 5222
    let made := Network.listener {} port
    let fleet : Fleet Endpoint Network :=
      { host := { world := made.2 } }
    let knock (e : Endpoint) (host : Host Network) :=
      let client :=
        made.1.2.connect (.loopback 50001) host.world
      let sent := client.1.send [0, 2, 7, 8] client.2
      (e, { host with world := sent.world })
    let deeds :=
      fleet.record
        [.start made.1.1 true { maxPacketSize := 4 } 3,
          .disturb 0 knock,
          .operate 0 (.notify .readable), .operate 0 .poll,
          .operate 1 (.send [9])]
    Metrics.ofMeasures (Report.measures (reports deeds)) =
        { packetsSent := 1
          bytesSent := 1
          packetsReceived := 1
          bytesReceived := 2
          connectionsAccepted := 1 } ∧
      (emitted deeds).filterMap Event.packet? =
        [([7, 8], some (.loopback 50001))] := by
  decide +kernel

end Fleet

end FrameLink
