import FrameLink.Proofs.Socket.News
import FrameLink.Proofs.Socket.Queue
import FrameLink.Transport.Scripted

/-
  The end of a connection, as its consumer hears of it.

  There are two causes for a close: the stream announces it,
  or the input of a connection under the closing policy
  overflows.  Whichever comes first is told to the consumer
  and no other is, and from then on the socket counts as
  closed.  The consumer has what it is told by asking, each
  event once (`Origin.closes_once`).  That holds over every
  stream, of listeners and of connections, and of the first
  read of a connection that a listener hands over, since that
  is a moment of a life of its own.

  Key definitions include:
    * `Event.closeCode?`
    * `Socket.closeCauses`, `Socket.Heeds`
    * `Life.closeCauses`, `Origin.closeCauses`
    * `Origin.sinceAdmission`
-/

------------------------------------------------------------
-- Causes
------------------------------------------------------------

namespace FrameLink

/- The code that an event gives for a close. -/
def Event.closeCode?
    {τ : Type} : Event τ → Option (Option ErrorCode)
  | .closed code => some code
  | _ => none

theorem Event.filterMap_closeCode?_map_packet
    {τ : Type}
    (payloads : List Bytes)
    (remote : Option Address) :
    (payloads.map (Event.packet (τ := τ) · remote)).filterMap
        Event.closeCode? =
      [] := by
  rw [List.filterMap_eq_nil_iff]
  intro event hMember
  rcases List.mem_map.mp hMember with ⟨payload, _, rfl⟩
  rfl

/- Some event tells of a close if one of them gives a code. -/
theorem Event.any_isClosed_eq
    {τ : Type}
    (events : List (Event τ)) :
    events.any Event.isClosed =
      !(events.filterMap Event.closeCode?).isEmpty := by
  induction events with
  | nil => rfl
  | cons event events ih =>
      rw [List.any_cons, ih]
      cases event with
      | closed code => rfl
      | connected | packet | newConnection => rfl

namespace Socket

variable {τ ω : Type} [Transport τ ω]

/- The codes of what would close a socket in an operation. -/
def closeCauses
    (s : Socket τ)
    (operation : Operation)
    (host : Host ω) : List (Option ErrorCode) :=
  match operation with
  | .notify (.closed code) => [code]
  | .notify .readable =>
      if s.listener = false ∧
          s.framing.overflowPolicy = .close ∧
          s.overflows host = true then
        [some .bufferOverflow]
      else
        []
  | _ => []

theorem length_closeCauses_le
    (s : Socket τ)
    (operation : Operation)
    (host : Host ω) :
    (s.closeCauses operation host).length ≤ 1 := by
  unfold closeCauses
  split
  · exact Nat.le_refl 1
  · split
    · exact Nat.le_refl 1
    · exact Nat.zero_le 1
  · exact Nat.zero_le 1

------------------------------------------------------------
-- One Operation
------------------------------------------------------------

/-
  A cause is told to the consumer if no close has been, and
  the socket takes note of it.
-/
structure Heeds
    (s : Socket τ)
    (causes : List (Option ErrorCode))
    (r : Reply τ ω (Result τ)) : Prop where
  codes :
    (r.result.events ++ r.socket.events).filterMap
        Event.closeCode? =
      s.events.filterMap Event.closeCode? ++
        if s.closed then [] else causes
  closed : r.socket.closed = (s.closed || !causes.isEmpty)

omit [Transport τ ω] in
/- What new events say of a close has to be the causes. -/
theorem Emits.heeds
    {s : Socket τ}
    {news : List (Event τ)}
    {r : Reply τ ω (Result τ)}
    {causes : List (Option ErrorCode)}
    (hEmits : Emits s news r)
    (hCodes :
      news.filterMap Event.closeCode? =
        if s.closed then [] else causes) :
    Heeds s causes r := by
  constructor
  · rw [hEmits.events, List.filterMap_append, hCodes]
  · rw [hEmits.closed, Event.any_isClosed_eq, hCodes]
    cases s.closed with
    | true => rfl
    | false => rfl

/- A read has an overflow to tell of, if anything. -/
theorem filterMap_closeCode?_readingNews
    (s : Socket τ)
    (host : Host ω) :
    (s.readingNews host).filterMap Event.closeCode? =
      if s.closed then
        []
      else if s.framing.overflowPolicy = .close ∧
          s.overflows host = true then
        [some .bufferOverflow]
      else
        [] := by
  unfold readingNews
  dsimp only
  split
  · rw [List.filterMap_append,
      Event.filterMap_closeCode?_map_packet, List.nil_append]
    by_cases hOver :
        s.framing.overflowPolicy = .close ∧
          s.overflows host = true
    · rw [if_pos hOver, if_pos hOver]
      unfold farewell
      split
      · rfl
      · rfl
    · rw [if_neg hOver, if_neg hOver, ite_self]
      rfl
  · rename_i e hResult
    have hFits : s.overflows host = false := by
      unfold overflows
      rw [hResult]
    rw [if_neg (c := _ ∧ _) (by simp [hFits]), ite_self]
    rfl

/- The codes among the news are the causes, told once. -/
theorem filterMap_closeCode?_news
    (s : Socket τ)
    (operation : Operation)
    (host : Host ω) :
    (s.news operation host).filterMap Event.closeCode? =
      if s.closed then
        []
      else
        s.closeCauses operation host := by
  unfold news closeCauses
  by_cases hReadable : operation = .notify .readable
  · subst hReadable
    rw [if_pos rfl]
    dsimp only
    cases hListener : s.listener with
    | true =>
        rw [if_pos rfl]
        simp only [Bool.true_eq_false, false_and, if_false,
          ite_self]
        unfold acceptingNews
        dsimp only
        split
        · rfl
        · rfl
    | false =>
        simp only [Bool.false_eq_true, if_false, true_and]
        exact filterMap_closeCode?_readingNews s host
  · rw [if_neg hReadable]
    cases operation with
    | notify notification =>
        cases notification with
        | readable => exact absurd rfl hReadable
        | connected => exact (ite_self _).symm
        | writable => exact (ite_self _).symm
        | closed code =>
            unfold Operation.news
            dsimp only
            split
            · rfl
            · rfl
    | send | sendTo | sendRaw | flush | poll | drain =>
        exact (ite_self _).symm

/- Every operation heeds its cause. -/
theorem heeds_perform
    (s : Socket τ)
    (operation : Operation)
    (host : Host ω) :
    Heeds s (s.closeCauses operation host)
      (s.perform operation host) :=
  (emits_news s operation host).heeds
    (filterMap_closeCode?_news s operation host)

end Socket

------------------------------------------------------------
-- A Whole Life
------------------------------------------------------------

namespace Life

variable {τ ω : Type} [Transport τ ω]

/- What would close a socket in one more moment. -/
def closeCauses
    (r : Life τ ω)
    (moment : Moment τ ω) : List (Option ErrorCode) :=
  match moment with
  | .operate operation =>
      r.socket.closeCauses operation r.host
  | .disturb _ => []

/- What would close it in the moments to come, in order. -/
def closeCausesFrom
    (r : Life τ ω) :
    List (Moment τ ω) → List (Option ErrorCode)
  | [] => []
  | moment :: moments =>
      closeCauses r moment ++
        closeCausesFrom (Socket.pass r moment) moments

/- The first of the causes so far, and no other, was told. -/
structure ToldFirst
    (r : Life τ ω)
    (causes : List (Option ErrorCode)) : Prop where
  codes :
    r.emitted.filterMap Event.closeCode? = causes.take 1
  closed : r.socket.closed = !causes.isEmpty

omit [Transport τ ω] in
/- A socket counts as closed if it has told of a close. -/
theorem ToldFirst.closed_eq
    {r : Life τ ω}
    {causes : List (Option ErrorCode)}
    (hTold : ToldFirst r causes) :
    r.socket.closed = r.emitted.any Event.isClosed := by
  rw [Event.any_isClosed_eq, hTold.codes, hTold.closed]
  cases causes with
  | nil => rfl
  | cons cause causes => rfl

/- A further moment comes with at most one further cause. -/
theorem ToldFirst.pass
    {r : Life τ ω}
    {causes : List (Option ErrorCode)}
    (hTold : ToldFirst r causes)
    (moment : Moment τ ω) :
    ToldFirst (Socket.pass r moment)
      (causes ++ closeCauses r moment) := by
  cases moment with
  | disturb change =>
      rw [closeCauses, List.append_nil]
      exact ⟨hTold.codes, hTold.closed⟩
  | operate operation =>
      have hHeeds :=
        Socket.heeds_perform r.socket operation r.host
      have hOne :=
        Socket.length_closeCauses_le r.socket operation r.host
      have hCodes :
          (emitted
              (Socket.pass r (.operate operation))).filterMap
              Event.closeCode? =
            (emitted r).filterMap Event.closeCode? ++
              if r.socket.closed then
                []
              else
                r.socket.closeCauses operation r.host := by
        change
          (handedOut (Socket.pass r (.operate operation)) ++
              (r.socket.perform operation
                r.host).socket.events).filterMap _ =
            (handedOut r ++ r.socket.events).filterMap _ ++ _
        rw [handedOut_operate, List.append_assoc,
          List.filterMap_append, hHeeds.codes,
          List.filterMap_append, List.append_assoc]
      constructor
      · rw [hCodes, hTold.codes, hTold.closed, closeCauses]
        cases causes with
        | nil => exact (List.take_of_length_le hOne).symm
        | cons cause causes => exact List.append_nil _
      · change
          (r.socket.perform operation r.host).socket.closed =
            _
        rw [hHeeds.closed, hTold.closed, closeCauses]
        cases causes with
        | nil => rfl
        | cons cause causes => rfl

/- What is true of causes so far stays true of all. -/
theorem ToldFirst.passAll
    {r : Life τ ω}
    {causes : List (Option ErrorCode)}
    (hTold : ToldFirst r causes)
    (moments : List (Moment τ ω)) :
    ToldFirst (moments.foldl Socket.pass r)
      (causes ++ closeCausesFrom r moments) := by
  induction moments generalizing r causes with
  | nil =>
      rw [closeCausesFrom, List.append_nil]
      exact hTold
  | cons moment moments ih =>
      rw [closeCausesFrom, ← List.append_assoc]
      exact ih (hTold.pass moment)

end Life

namespace Origin

variable {τ ω : Type} [Transport τ ω]

/- What would close a socket in its life, in order. -/
def closeCauses
    (origin : Origin τ ω)
    (moments : List (Moment τ ω)) :
    List (Option ErrorCode) :=
  (origin.live []).closeCausesFrom moments

/- Of all that would close a socket the first is told. -/
theorem toldFirst_live
    (origin : Origin τ ω)
    (moments : List (Moment τ ω)) :
    Life.ToldFirst (origin.live moments)
      (origin.closeCauses moments) := by
  have hStart : Life.ToldFirst (origin.live []) [] := by
    unfold live started Socket.start
    dsimp only
    split
    · exact ⟨rfl, rfl⟩
    · exact ⟨rfl, rfl⟩
  exact hStart.passAll moments

end Origin

------------------------------------------------------------
-- Lives Handed Over
------------------------------------------------------------

/-
  Lives that have come to the same socket and have handed the
  same events out go on alike.
-/
theorem Life.emitted_foldl_congr
    {τ ω : Type}
    [Transport τ ω]
    {r r' : Life τ ω}
    (hSocket : r.socket = r'.socket)
    (hHost : r.host = r'.host)
    (hOut : handedOut r = handedOut r')
    (moments : List (Moment τ ω)) :
    (moments.foldl Socket.pass r).socket =
        (moments.foldl Socket.pass r').socket ∧
      emitted (moments.foldl Socket.pass r) =
        emitted (moments.foldl Socket.pass r') := by
  induction moments generalizing r r' with
  | nil =>
      refine ⟨hSocket, ?_⟩
      change handedOut r ++ _ = handedOut r' ++ _
      rw [hOut, List.foldl_nil, List.foldl_nil, hSocket]
  | cons moment moments ih =>
      apply ih
      · cases moment with
        | operate operation =>
            dsimp only [Socket.pass]
            rw [hSocket, hHost]
        | disturb change =>
            dsimp only [Socket.pass]
            rw [hSocket, hHost]
      · cases moment with
        | operate operation =>
            dsimp only [Socket.pass]
            rw [hSocket, hHost]
        | disturb change =>
            dsimp only [Socket.pass]
            rw [hSocket, hHost]
      · cases moment with
        | operate operation =>
            rw [handedOut_operate, handedOut_operate, hOut,
              hSocket, hHost]
        | disturb change => exact hOut

namespace Origin

variable {τ ω : Type} [Transport τ ω]

/-
  The moments of a connection that a listener hands over, in
  a host as it is then: a first read, and what comes later.
-/
def sinceAdmission
    (host : Host ω)
    (later : List (Moment τ ω)) : List (Moment τ ω) :=
  .operate (.notify .readable) :: .elsewhere host :: later

/- What it comes to later is what its whole life comes to. -/
theorem live_sinceAdmission
    (admission : Origin τ ω)
    (host : Host ω)
    (later : List (Moment τ ω)) :
    let s := (Socket.admitted admission).socket
    (s.live host later).socket =
        (admission.live (sinceAdmission host later)).socket ∧
      (s.live host later).emitted =
        (admission.live
          (sinceAdmission host later)).emitted := by
  intro s
  have hLife :
      admission.live (sinceAdmission host later) =
        later.foldl Socket.pass
          { Socket.admitted admission with host } := by
    rw [← Socket.pass_elsewhere]
    rfl
  rw [hLife]
  apply Life.emitted_foldl_congr
  · rfl
  · rfl
  · rfl

/-
  Whatever happens to a socket, the first of all that would
  close it is told to its consumer, once, with its code, and
  from then on the socket counts as closed.  Events are
  handed out in the order in which they were added, each of
  them once and none before it was added, whenever the
  consumer polls: what is not handed out yet waits, and is
  there for the asking.  A connection that a listener hands
  over is no exception, its first read included, which comes
  before the consumer has it.
-/
theorem closes_once
    (origin : Origin τ ω)
    (moments : List (Moment τ ω)) :
    let life := origin.live moments
    life.emitted.filterMap Event.closeCode? =
        (origin.closeCauses moments).take 1 ∧
      life.socket.closed = life.emitted.any Event.isClosed ∧
      life.emitted = life.handedOut ++ life.socket.events ∧
      life.emitted =
        (origin.live
          (moments.filter (!·.isPolling))).socket.events ∧
      (∀ later,
        life.emitted <+:
          (origin.live (moments ++ later)).emitted) ∧
      life.HandsOut ∧
      ∀ s, .newConnection s ∈ life.emitted →
        ∃ admission : Origin τ ω,
          s = (Socket.admitted admission).socket ∧
            ∀ host later,
              let since := s.live host later
              let causes :=
                admission.closeCauses
                  (sinceAdmission host later)
              since.emitted.filterMap Event.closeCode? =
                  causes.take 1 ∧
                since.socket.closed =
                  since.emitted.any Event.isClosed ∧
                since.emitted =
                  since.handedOut ++ since.socket.events ∧
                since.emitted =
                  (s.live host
                    (later.filter
                      (!·.isPolling))).socket.events ∧
                since.HandsOut := by
  intro life
  have hFirst := toldFirst_live origin moments
  refine ⟨hFirst.codes, hFirst.closed_eq, rfl,
    emitted_live origin moments,
    emitted_prefix origin moments, life.handsOut, ?_⟩
  intro s hMember
  rcases inherits_live origin moments _ hMember with
    ⟨admission, _, _, _, rfl⟩
  refine ⟨admission, rfl, ?_⟩
  intro host later since causes
  have hTold :=
    toldFirst_live admission (sinceAdmission host later)
  rcases live_sinceAdmission admission host later with
    ⟨hSocket, hEmitted⟩
  rcases live_sinceAdmission admission host
      (later.filter (!·.isPolling)) with
    ⟨hUnpolled, _⟩
  refine ⟨?_, ?_, rfl, ?_, since.handsOut⟩
  · rw [hEmitted]
    exact hTold.codes
  · rw [hSocket, hEmitted]
    exact hTold.closed_eq
  · rw [hEmitted, hUnpolled]
    exact
      emitted_live admission (sinceAdmission host later)

end Origin

------------------------------------------------------------
-- A First Read That Overflows
------------------------------------------------------------

/-
  A connection for single bytes, under the closing policy,
  that is sent too long a frame and whose stream fails to
  close.
-/
def Origin.besieged : Origin Scripted Unit where
  transport :=
    { script :=
        { receives := [.yields [0, 9, 1]]
          closes := [some { kind := .other }] } }
  framing := { maxPacketSize := 1, overflowPolicy := .close }
  host := { world := (), nextId := ⟨2⟩ }

/- A listener of the same limits, for which it waits. -/
def Origin.beleaguered : Origin Scripted Unit where
  transport :=
    { script :=
        { accepts :=
            [.connects (.loopback 40009)
              besieged.transport.script] } }
  listener := true
  framing := besieged.framing
  host := { world := () }

/- It takes the connection and is closed twice. -/
def Origin.beleagueredMoments :
    List (Moment Scripted Unit) :=
  [.operate (.notify .readable),
    .operate (.notify (.closed (some .notConnected))),
    .operate .poll, .operate (.notify (.closed none))]

/- Its consumer hears of an end and then takes all events. -/
def Origin.besiegedMoments : List (Moment Scripted Unit) :=
  [.operate (.notify (.closed none)), .operate .drain]

/-
  The listener tells of its first close, and the connection
  of the overflow, though its end is announced later on.  One
  poll of the listener has handed the connection over, the
  next hands out the close, and the connection's consumer is
  told of the overflow as it takes all events.
-/
theorem Origin.closes_once_besieged :
    let life := beleaguered.live beleagueredMoments
    let s := (Socket.admitted besieged).socket
    let later := s.live life.host besiegedMoments
    .newConnection s ∈ life.emitted ∧
      life.emitted.filterMap Event.closeCode? =
        [some .notConnected] ∧
      life.handedOut = [.newConnection s] ∧
      (Socket.pass life (.operate .poll)).result =
        life.result ++
          [.polled (some (.closed (some .notConnected)))] ∧
      later.emitted.filterMap Event.closeCode? =
        [some .bufferOverflow] ∧
      later.result = [.done, .drained later.emitted] ∧
      ∃ admission : Origin Scripted Unit,
        s = (Socket.admitted admission).socket ∧
          (admission.closeCauses
              (sinceAdmission life.host
                besiegedMoments)).take 1 =
            [some .bufferOverflow] := by
  intro life s later
  have hOut : life.handedOut = [.newConnection s] := by
    rfl
  have hWaiting :
      life.socket.events = [.closed (some .notConnected)] := by
    rfl
  have hCauses :
      beleaguered.closeCauses beleagueredMoments =
        [some .notConnected, none] := by
    decide +kernel
  have hLater :
      later.emitted.filterMap Event.closeCode? =
        [some .bufferOverflow] := by
    decide +kernel
  rcases closes_once beleaguered beleagueredMoments with
    ⟨hCodes, _, hEmitted, _, _, hHands, hConnections⟩
  have hMember : .newConnection s ∈ life.emitted := by
    rw [hEmitted, hOut]
    exact List.mem_cons_self
  have hPoll := congrArg Reply.result (hHands.poll 1)
  dsimp only at hPoll
  rw [hWaiting] at hPoll
  rw [hCauses] at hCodes
  rcases hConnections s hMember with
    ⟨admission, hAdmitted, hLaw⟩
  have hDrain :
      later.result = [.done, .drained later.emitted] := by
    let since :=
      s.live life.host [.operate (.notify (.closed none))]
    rcases hLaw life.host
        [.operate (.notify (.closed none))] with
      ⟨_, _, _, _, hDrains⟩
    have hAfter :
        later =
          { since with
            result :=
              since.result ++ [.drained since.socket.events]
            socket := { since.socket with events := [] } } :=
      hDrains.drain
    have hDone : since.result = [.done] := by
      rfl
    rw [hAfter, hDone]
    simp only [Life.emitted, List.cons_append,
      List.nil_append, List.flatMap_cons, List.flatMap_nil,
      List.append_nil, Socket.Result.events]
  refine
    ⟨hMember, hCodes, hOut, hPoll, hLater, hDrain, admission,
      hAdmitted, ?_⟩
  rw [← hLater]
  exact (hLaw life.host besiegedMoments).1.symm

end FrameLink
