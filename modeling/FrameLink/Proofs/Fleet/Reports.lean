import FrameLink.Proofs.Socket.Sending

/-
  What an operation reports, and what it comes to.

  Some log lines go with a measure, and neither is ever made
  without the other.  A packet that is delivered, or a
  connection that is handed over, is measured when its event
  is queued.  A call that sends is measured by its result and
  by whether something waited in the output before it.

  This holds of any operation on any socket over any
  transport, whatever its state (`Socket.told_perform`).

  Key definitions include:
    * `Measure.line?`, `Report.Paired`
    * `Event.unfold`, `Event.measure?`
    * `Call`, `Call.measure?`
    * `Socket.Told`
-/

------------------------------------------------------------
-- Lines and Measures
------------------------------------------------------------

namespace FrameLink

/- The log line that goes with a measure, if one does. -/
def Measure.line? : Measure → Option LogLine
  | .packetSent _ => none
  | .packetDropped => some .packetShed
  | .rawQueued _ => none
  | .packetReceived _ => some .packetReceived
  | .bufferOverflow => some .inputOverflow
  | .readError => some .receiveFailed
  | .connectionAccepted => some .accepted
  | .acceptError => some .acceptFailed

/- The log line goes with a measure. -/
def LogLine.isMeasured : LogLine → Bool
  | .packetShed => true
  | .packetReceived => true
  | .inputOverflow => true
  | .receiveFailed => true
  | .accepted => true
  | .acceptFailed => true
  | _ => false

namespace Report

/- Lines that go with a measure are where the measures are. -/
def Paired (reports : List Report) : Prop :=
  (lines reports).filter LogLine.isMeasured =
    (measures reports).filterMap Measure.line?

theorem Paired.append
    {front back : List Report}
    (hFront : Paired front)
    (hBack : Paired back) :
    Paired (front ++ back) := by
  unfold Paired
  rw [lines_append, measures_append, List.filter_append,
    List.filterMap_append, hFront, hBack]

end Report

------------------------------------------------------------
-- Events and Calls
------------------------------------------------------------

/- An event with those that a new connection has queued. -/
def Event.unfold {τ : Type} : Event τ → List (Event τ)
  | .newConnection s => .newConnection s :: s.events
  | event => [event]

/- The measure that goes with an event, if one does. -/
def Event.measure? {τ : Type} : Event τ → Option Measure
  | .packet payload _ =>
      some (.packetReceived (UInt64.ofNat payload.length))
  | .newConnection _ => some .connectionAccepted
  | _ => none

/- The measure goes with an event. -/
def Measure.isNews : Measure → Bool
  | .packetReceived _ => true
  | .connectionAccepted => true
  | _ => false

/- The measure goes with a call that sends. -/
def Measure.isOutbound : Measure → Bool
  | .packetSent _ => true
  | .packetDropped => true
  | .rawQueued _ => true
  | _ => false

/- An operation with what it has found and come to. -/
structure Call (τ : Type) where
  operation : Socket.Operation
  /- Something waited in the output before. -/
  busy : Bool
  result : Socket.Result τ

/- The measure of a packet that is accepted. -/
def Measure.ofPacket
    (payload : Bytes)
    (busy : Bool) : Measure :=
  if busy then
    .packetDropped
  else
    .packetSent (UInt64.ofNat payload.length)

/- The measure of raw bytes, by the answer. -/
def Measure.ofRaw?
    (data : Bytes) :
    Except SocketError Nat → Option Measure
  | .error (.messageTooLarge _) => none
  | _ => some (.rawQueued (UInt64.ofNat data.length))

/- The measure that goes with a call, if one does. -/
def Call.measure? {τ : Type} (call : Call τ) : Option Measure :=
  match call.operation, call.result with
  | .send payload, .count (.ok _) =>
      some (.ofPacket payload call.busy)
  | .sendTo payload _, .count (.ok _) =>
      some (.ofPacket payload call.busy)
  | .sendRaw data, .count answer =>
      Measure.ofRaw? data answer
  | _, _ => none

/- What goes with a call goes with no event. -/
theorem Call.filter_measure?
    {τ : Type}
    (call : Call τ) :
    call.measure?.toList.filter Measure.isOutbound =
        call.measure?.toList ∧
      call.measure?.toList.filter Measure.isNews = [] := by
  unfold measure?
  split
  · cases call.busy with
    | true => exact ⟨rfl, rfl⟩
    | false => exact ⟨rfl, rfl⟩
  · cases call.busy with
    | true => exact ⟨rfl, rfl⟩
    | false => exact ⟨rfl, rfl⟩
  · unfold Measure.ofRaw?
    split
    · exact ⟨rfl, rfl⟩
    · exact ⟨rfl, rfl⟩
  · exact ⟨rfl, rfl⟩

namespace Socket

variable {τ ω : Type} [Transport τ ω]

/- What an operation has reported is what it has come to. -/
structure Told
    (s : Socket τ)
    (operation : Operation)
    (r : Reply τ ω (Result τ)) : Prop where
  paired : Report.Paired r.reports
  outbound :
    (Report.measures r.reports).filter Measure.isOutbound =
      (Call.mk operation (!s.output.isEmpty)
        r.result).measure?.toList
  news :
    ∃ news,
      r.result.events ++ r.socket.events = s.events ++ news ∧
        (Report.measures r.reports).filter Measure.isNews =
          (news.flatMap Event.unfold).filterMap Event.measure?

------------------------------------------------------------
-- Sending
------------------------------------------------------------

/- A flush logs nothing that is measured. -/
theorem paired_flush
    (s : Socket τ)
    (host : Host ω) :
    Report.Paired (s.flush host).reports := by
  unfold flush
  split
  · rfl
  · dsimp only
    split
    · rfl
    · split
      · rfl
      · split
        · rfl
        · rfl

theorem paired_onWritable
    (s : Socket τ)
    (host : Host ω) :
    Report.Paired (s.onWritable host).reports := by
  unfold onWritable
  split
  · rfl
  · apply Report.Paired.append
    · exact paired_flush s host
    · split
      · rfl
      · split
        · rfl
        · rfl

/- What sending a packet reports, by its result. -/
structure SendTold
    (busy : Bool)
    (payload : Bytes)
    (r : Reply τ ω (Except SocketError Nat)) : Prop where
  paired : Report.Paired r.reports
  measures :
    Report.measures r.reports =
      match r.result with
      | .ok _ => [Measure.ofPacket payload busy]
      | .error _ => []

/- A frame is reported as a packet that is sent, if it is. -/
theorem sendTold_sendFrame
    (s : Socket τ)
    (front payload : Bytes)
    (host : Host ω) :
    SendTold false payload
      (s.sendFrame front payload host) := by
  have hPaired :=
    paired_flush
      { s with
        output := (s.output.append front).append payload }
      host
  have hMeasures :=
    measures_flush
      { s with
        output := (s.output.append front).append payload }
      host
  unfold sendFrame
  dsimp only
  split
  · exact ⟨hPaired, hMeasures⟩
  · split
    · exact ⟨hPaired, hMeasures⟩
    · constructor
      · refine (hPaired.append ?_).append rfl
        split
        · rfl
        · rfl
      · rw [Report.measures_append, Report.measures_append,
          hMeasures]
        split
        · rfl
        · rfl

theorem sendTold_send
    (s : Socket τ)
    (payload : Bytes)
    (host : Host ω) :
    SendTold (!s.output.isEmpty) payload
      (s.send payload host) := by
  unfold send
  split
  · exact ⟨rfl, rfl⟩
  · cases hEmpty : s.output.isEmpty with
    | true => exact sendTold_sendFrame s _ payload host
    | false => exact ⟨rfl, rfl⟩

theorem sendTold_sendTo
    (s : Socket τ)
    (payload : Bytes)
    (address : Address)
    (host : Host ω) :
    SendTold (!s.output.isEmpty) payload
      (s.sendTo payload address host) := by
  unfold sendTo
  split
  · exact sendTold_send s payload host
  · exact ⟨rfl, rfl⟩

omit [Transport τ ω] in
/- What changes the sending half only queues no events. -/
theorem Told.of_reach
    {s : Socket τ}
    {operation : Operation}
    {r : Reply τ ω (Result τ)}
    (hReach :
      ∃ transport output,
        r.socket = { s with transport, output })
    (hResult : r.result.events = [])
    (hPaired : Report.Paired r.reports)
    (hMeasures :
      Report.measures r.reports =
        (Call.mk operation (!s.output.isEmpty)
          r.result).measure?.toList) :
    Told s operation r := by
  rcases hReach with ⟨transport, output, hSocket⟩
  refine ⟨hPaired, ?_, [], ?_, ?_⟩
  · rw [hMeasures, (Call.filter_measure? _).1]
  · rw [hSocket, hResult, List.nil_append, List.append_nil]
  · rw [hMeasures, (Call.filter_measure? _).2]
    rfl

theorem told_sendRaw
    (s : Socket τ)
    (data : Bytes)
    (host : Host ω) :
    Told s (.sendRaw data)
      (s.perform (.sendRaw data) host) := by
  apply Told.of_reach (sendRaw_reach s data host)
  · rfl
  · unfold perform resulting sendRaw
    dsimp only
    split
    · rfl
    · have hQueued (size : UInt64) :
          Report.Paired [.measure (.rawQueued size)] :=
        rfl
      exact (hQueued _).append (paired_flush _ host)
  · change
      Report.measures (s.sendRaw data host).reports =
        (Measure.ofRaw? data
          (s.sendRaw data host).result).toList
    unfold sendRaw
    split
    · rfl
    · rename_i queued hRoom
      have hNever :=
        flush_result_ne { s with output := queued } host
      rw [Report.measures_measure, measures_flush]
      unfold Measure.ofRaw?
      split
      · rename_i size hResult
        exact absurd hResult (hNever size)
      · rfl

------------------------------------------------------------
-- Receiving
------------------------------------------------------------

/-
  Events that hold no connections, and reports that measure
  just what goes with them.
-/
structure Plainly
    (news : List (Event τ))
    (reports : List Report) : Prop where
  paired : Report.Paired reports
  outbound :
    (Report.measures reports).filter Measure.isOutbound = []
  unfold : news.flatMap Event.unfold = news
  news :
    (Report.measures reports).filter Measure.isNews =
      news.filterMap Event.measure?

/- Receiving has queued events and has reported them. -/
def Heard
    (events : List (Event τ))
    (r : Reply τ ω Unit) : Prop :=
  ∃ news,
    r.socket.events = events ++ news ∧ Plainly news r.reports

omit [Transport τ ω] in
theorem Plainly.append
    {news later : List (Event τ)}
    {reports others : List Report}
    (hFirst : Plainly news reports)
    (hThen : Plainly later others) :
    Plainly (news ++ later) (reports ++ others) := by
  constructor
  · exact hFirst.paired.append hThen.paired
  · rw [Report.measures_append, List.filter_append,
      hFirst.outbound, hThen.outbound, List.append_nil]
  · rw [List.flatMap_append, hFirst.unfold, hThen.unfold]
  · rw [Report.measures_append, List.filter_append,
      hFirst.news, hThen.news, List.filterMap_append]

omit [Transport τ ω] in
theorem Plainly.before
    {news : List (Event τ)}
    {reports others : List Report}
    (hFirst : Plainly (τ := τ) [] reports)
    (hThen : Plainly news others) :
    Plainly news (reports ++ others) :=
  hFirst.append hThen

omit [Transport τ ω] in
/- Every packet is reported when it is queued. -/
theorem plainly_packets
    (payloads : List Bytes)
    (remote : Option Address) :
    Plainly (τ := τ) (payloads.map (Event.packet · remote))
      (payloads.flatMap packetReports) := by
  induction payloads with
  | nil => exact ⟨rfl, rfl, rfl, rfl⟩
  | cons payload payloads ih =>
      rw [List.flatMap_cons, List.map_cons]
      have hFirst :
          Plainly (τ := τ) [.packet payload remote]
            (packetReports payload) :=
        ⟨rfl, rfl, rfl, rfl⟩
      exact hFirst.append ih

/- The end of a stream is announced without a measure. -/
theorem plainly_announceClose
    (s : Socket τ)
    (code : Option ErrorCode) :
    ∃ news,
      (s.announceClose code).1.events = s.events ++ news ∧
        Plainly news (s.announceClose code).2 := by
  unfold announceClose
  split
  · exact
      ⟨[], (List.append_nil _).symm, rfl, rfl, rfl, rfl⟩
  · exact ⟨[.closed code], rfl, rfl, rfl, rfl, rfl⟩

/- An overflow is reported whatever the policy. -/
theorem heard_overflow
    (s : Socket τ)
    (host : Host ω) :
    Heard s.events (s.overflow host) := by
  have hFirst :
      Plainly (τ := τ) []
        [.measure .bufferOverflow, .line .inputOverflow] :=
    ⟨rfl, rfl, rfl, rfl⟩
  unfold overflow
  dsimp only
  split
  · exact ⟨[], (List.append_nil _).symm, hFirst⟩
  · rcases plainly_announceClose _ _ with
      ⟨news, hEvents, hPlainly⟩
    refine ⟨news, hEvents, ?_⟩
    refine (hFirst.before ?_).before hPlainly
    split
    · exact ⟨rfl, rfl, rfl, rfl⟩
    · exact ⟨rfl, rfl, rfl, rfl⟩

theorem heard_takeBytes
    (s : Socket τ)
    (bs : Bytes)
    (host : Host ω) :
    Heard s.events (s.takeBytes bs host) := by
  have hPackets :=
    plainly_packets (τ := τ)
      (Frame.unframe (s.input.fill bs).filled).1
      (Transport.remoteAddress s.transport)
  unfold takeBytes
  dsimp only
  split
  · rcases heard_overflow
        (deliver { s with input := s.input.fill bs }).1 host
      with ⟨news, hEvents, hPlainly⟩
    refine ⟨_, ?_, hPackets.append hPlainly⟩
    exact hEvents.trans (List.append_assoc _ _ _)
  · exact ⟨_, rfl, hPackets⟩

theorem heard_readInput
    (s : Socket τ)
    (host : Host ω) :
    Heard s.events (s.readInput host) := by
  unfold readInput
  dsimp only
  split
  · rename_i bs hResult
    exact
      heard_takeBytes
        { s with
          transport :=
            (Transport.receive s.transport s.input.remaining
              host.world).transport }
        bs _
  · split
    · exact ⟨[], (List.append_nil _).symm, rfl, rfl, rfl, rfl⟩
    · exact ⟨[], (List.append_nil _).symm, rfl, rfl, rfl, rfl⟩

omit [Transport τ ω] in
/- What is heard of a notification is told of it. -/
theorem Heard.told
    {s : Socket τ}
    {r : Reply τ ω Unit}
    (hHeard : Heard s.events r)
    (notification : Notification) :
    Told s (.notify notification)
      (resulting (fun _ => .done) r) := by
  rcases hHeard with ⟨news, hEvents, hPlainly⟩
  refine
    ⟨hPlainly.paired, hPlainly.outbound, news, hEvents, ?_⟩
  rw [hPlainly.unfold]
  exact hPlainly.news

------------------------------------------------------------
-- Accepting
------------------------------------------------------------

/- The making of a socket logs nothing that is measured. -/
theorem plainly_start
    (transport : τ)
    (listener : Bool)
    (framing : FramingConfig)
    (meter : Nat)
    (host : Host ω) :
    Plainly (τ := τ) []
        (start transport listener framing meter
          host).reports ∧
      (start transport listener framing meter
        host).socket.events = [] := by
  unfold start
  dsimp only
  split
  · refine ⟨?_, rfl⟩
    apply Plainly.before
    · split
      · exact ⟨rfl, rfl, rfl, rfl⟩
      · exact ⟨rfl, rfl, rfl, rfl⟩
    · split
      · exact ⟨rfl, rfl, rfl, rfl⟩
      · exact ⟨rfl, rfl, rfl, rfl⟩
  · refine ⟨?_, rfl⟩
    split
    · exact ⟨rfl, rfl, rfl, rfl⟩
    · exact ⟨rfl, rfl, rfl, rfl⟩

/- A connection is reported, and what it has read as well. -/
theorem told_acceptConnection
    (s : Socket τ)
    (host : Host ω) :
    Told s (.notify .readable)
      (resulting (fun _ => .done)
        (s.acceptConnection host)) := by
  unfold acceptConnection
  dsimp only
  split
  · rename_i stream peer hResult
    let made :=
      start stream false s.framing s.meter
        { host with
          world :=
            (Transport.accept s.transport host.world).world }
    have hMade :=
      plainly_start stream false s.framing s.meter
        { host with
          world :=
            (Transport.accept s.transport host.world).world }
    rcases heard_readInput made.socket made.host with
      ⟨news, hEvents, hPrimed⟩
    rw [hMade.2, List.nil_append] at hEvents
    have hTaken :
        Report.Paired
          [.measure .connectionAccepted, .line .accepted] :=
      rfl
    refine ⟨?_, ?_, [.newConnection _], rfl, ?_⟩
    · exact
        (hMade.1.paired.append hTaken).append hPrimed.paired
    · change (Report.measures (_ ++ _ ++ _)).filter _ = []
      rw [Report.measures_append, Report.measures_append,
        List.filter_append, List.filter_append,
        hMade.1.outbound, hPrimed.outbound]
      rfl
    · change
        (Report.measures (_ ++ _ ++ _)).filter _ =
          (Event.unfold (.newConnection _) ++ []).filterMap _
      rw [Report.measures_append, Report.measures_append,
        List.filter_append, List.filter_append,
        hMade.1.news, hPrimed.news, List.append_nil,
        Event.unfold, hEvents]
      rfl
  · apply Heard.told
    split
    · exact ⟨[], (List.append_nil _).symm, rfl, rfl, rfl, rfl⟩
    · exact ⟨[], (List.append_nil _).symm, rfl, rfl, rfl, rfl⟩

------------------------------------------------------------
-- Operations
------------------------------------------------------------

omit [Transport τ ω] in
/- A packet is told of by the answer to its sender. -/
theorem SendTold.told
    {s : Socket τ}
    {payload : Bytes}
    {r : Reply τ ω (Except SocketError Nat)}
    (hTold : SendTold (!s.output.isEmpty) payload r)
    (hReach :
      ∃ transport output,
        r.socket = { s with transport, output })
    {operation : Operation}
    (hOperation :
      operation = .send payload ∨
        ∃ address, operation = .sendTo payload address) :
    Told s operation (resulting .count r) := by
  apply Told.of_reach hReach rfl hTold.paired
  refine hTold.measures.trans ?_
  rcases hOperation with rfl | ⟨address, rfl⟩
  · unfold Call.measure? resulting
    cases r.result with
    | ok n => rfl
    | error e => rfl
  · unfold Call.measure? resulting
    cases r.result with
    | ok n => rfl
    | error e => rfl

/- Whatever is done, its reports tell what it has come to. -/
theorem told_perform
    (s : Socket τ)
    (operation : Operation)
    (host : Host ω) :
    Told s operation (s.perform operation host) := by
  cases operation with
  | send payload =>
      exact
        (sendTold_send s payload host).told
          (send_reach s payload host) (.inl rfl)
  | sendTo payload address =>
      exact
        (sendTold_sendTo s payload address host).told
          (sendTo_reach s payload address host)
          (.inr ⟨address, rfl⟩)
  | sendRaw data => exact told_sendRaw s data host
  | flush =>
      apply Told.of_reach (flush_reach s host) rfl
      · exact paired_flush s host
      · exact measures_flush s host
  | poll =>
      unfold perform poll
      dsimp only
      split
      · rename_i hNone
        refine ⟨rfl, rfl, [], ?_, rfl⟩
        rw [hNone]
        rfl
      · rename_i event events hEvents
        refine ⟨rfl, rfl, [], ?_, rfl⟩
        rw [hEvents, List.append_nil]
        rfl
  | drain => exact ⟨rfl, rfl, [], rfl, rfl⟩
  | notify notification =>
      cases notification with
      | connected =>
          exact ⟨rfl, rfl, [.connected], rfl, rfl⟩
      | readable =>
          unfold perform handle onReadable
          dsimp only
          split
          · exact told_acceptConnection s host
          · exact (heard_readInput s host).told .readable
      | writable =>
          apply Told.of_reach (onWritable_reach s host) rfl
          · exact paired_onWritable s host
          · exact measures_onWritable s host
      | closed code =>
          rcases plainly_announceClose s code with
            ⟨news, hEvents, hPlainly⟩
          exact
            Heard.told ⟨news, hEvents, hPlainly⟩
              (.closed code)

end Socket

end FrameLink
