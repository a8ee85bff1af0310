import FrameLink.Proofs.Fleet.Reports

/-
  Many sockets in one host.

  A fleet is a list of sockets.  Sockets are made for it, or
  come as connections in events that it takes, and each adds
  to the counters that its meter names, which may be changed.
  Transports may be disturbed past their sockets.

  Whatever is done with a socket is recorded as a deed: the
  call with its answer, the events that it has queued, and
  its reports.  What was reported of a deed is what it has
  come to (`Fleet.told_record`).

  Key definitions include:
    * `Fleet`, `Fleet.Action`, `Fleet.Deed`
    * `Fleet.effect`, `Fleet.record`
    * `Fleet.reports`, `Fleet.emitted`, `Fleet.calls`
-/

------------------------------------------------------------
-- Fleets
------------------------------------------------------------

namespace FrameLink

/- Sockets in one host. -/
structure Fleet (τ ω : Type) where
  sockets : List (Socket τ) := []
  host : Host ω

namespace Fleet

/- Something that is done with a fleet. -/
inductive Action (τ ω : Type) where
  /- A socket is made for a transport. -/
  | start
      (transport : τ)
      (listener : Bool)
      (framing : FramingConfig)
      (meter : Nat)
  /- A socket is told to add to other counters. -/
  | remeter (i : Nat) (meter : Nat)
  | operate (i : Nat) (operation : Socket.Operation)
  /- Something is done with a transport, past its socket. -/
  | disturb (i : Nat) (change : τ → Host ω → τ × Host ω)

/- What was done under some meter, and what has come of it. -/
structure Deed (τ : Type) where
  meter : Nat
  call : Option (Call τ) := none
  /- The events that were queued. -/
  news : List (Event τ) := []
  reports : List Report := []

variable {τ ω : Type} [Transport τ ω]

/- The deed of an operation on a socket. -/
def deed
    (s : Socket τ)
    (operation : Socket.Operation)
    (r : Reply τ ω (Socket.Result τ)) : Deed τ where
  meter := s.meter
  call := some ⟨operation, !s.output.isEmpty, r.result⟩
  news :=
    (r.result.events ++ r.socket.events).drop s.events.length
  reports := r.reports

/- What an action comes to, and the deeds that it is. -/
def effect
    (fleet : Fleet τ ω) :
    Action τ ω → Fleet τ ω × List (Deed τ)
  | .start transport listener framing meter =>
      let r :=
        Socket.start transport listener framing meter
          fleet.host
      ({ sockets := fleet.sockets ++ [r.socket]
         host := r.host },
        [{ meter, reports := r.reports }])
  | .remeter i meter =>
      ({ fleet with
          sockets :=
            fleet.sockets.modify i
              (fun s => { s with meter }) },
        [])
  | .operate i operation =>
      match fleet.sockets[i]? with
      | none => (fleet, [])
      | some s =>
          let r := s.perform operation fleet.host
          let taken :=
            r.result.events.filterMap Event.connection?
          ({ sockets := fleet.sockets.set i r.socket ++ taken
             host := r.host },
            [deed s operation r])
  | .disturb i change =>
      match fleet.sockets[i]? with
      | none => (fleet, [])
      | some s =>
          let after := change s.transport fleet.host
          ({ sockets :=
              fleet.sockets.set i
                { s with transport := after.1 }
             host := after.2 },
            [])

/- The deeds of some actions, in order. -/
def record
    (fleet : Fleet τ ω) :
    List (Action τ ω) → List (Deed τ)
  | [] => []
  | action :: actions =>
      (fleet.effect action).2 ++
        (fleet.effect action).1.record actions

------------------------------------------------------------
-- What Deeds Tell
------------------------------------------------------------

/- What was reported of a deed is what it has come to. -/
structure Deed.Told (deed : Deed τ) : Prop where
  paired : Report.Paired deed.reports
  outbound :
    (Report.measures deed.reports).filter
        Measure.isOutbound =
      deed.call.toList.filterMap Call.measure?
  news :
    (Report.measures deed.reports).filter Measure.isNews =
      (deed.news.flatMap Event.unfold).filterMap
        Event.measure?

theorem told_deed
    (s : Socket τ)
    (operation : Socket.Operation)
    (host : Host ω) :
    (deed s operation (s.perform operation host)).Told := by
  have hTold := Socket.told_perform s operation host
  rcases hTold.news with ⟨news, hEvents, hNews⟩
  refine ⟨hTold.paired, hTold.outbound.trans ?_, ?_⟩
  · unfold deed
    dsimp only
    rw [Option.toList_some, List.filterMap_cons]
    cases Call.measure? _ with
    | none => rfl
    | some measure => rfl
  · have hDrop :
        (deed s operation
          (s.perform operation host)).news = news := by
      unfold deed
      dsimp only
      rw [hEvents, List.drop_left]
    rw [hDrop]
    exact hNews

/- All that is ever done with a fleet is told. -/
theorem told_record
    (fleet : Fleet τ ω)
    (actions : List (Action τ ω))
    {deed : Deed τ}
    (hMember : deed ∈ fleet.record actions) :
    deed.Told := by
  induction actions generalizing fleet with
  | nil => cases hMember
  | cons action actions ih =>
      rcases List.mem_append.mp hMember with hNow | hLater
      · cases action with
        | start transport listener framing meter =>
            have hStart :=
              (Socket.plainly_start transport listener framing
                meter fleet.host).1
            cases List.mem_singleton.mp hNow
            exact ⟨hStart.paired, hStart.outbound, hStart.news⟩
        | remeter i meter => cases hNow
        | operate i operation =>
            unfold effect at hNow
            dsimp only at hNow
            split at hNow
            · cases hNow
            · cases List.mem_singleton.mp hNow
              exact told_deed _ operation fleet.host
        | disturb i change =>
            unfold effect at hNow
            dsimp only at hNow
            split at hNow
            · cases hNow
            · cases hNow
      · exact ih _ hLater

/- The reports of some deeds, in order. -/
def reports (deeds : List (Deed τ)) : List Report :=
  deeds.flatMap Deed.reports

/- The calls of some deeds, in order. -/
def calls (deeds : List (Deed τ)) : List (Call τ) :=
  deeds.flatMap (fun deed => deed.call.toList)

/-
  The events that were queued, with those that were on a new
  connection when it was handed over.
-/
def emitted (deeds : List (Deed τ)) : List (Event τ) :=
  deeds.flatMap (fun deed => deed.news.flatMap Event.unfold)

omit [Transport τ ω] in
/- What is told of each deed is told of all. -/
theorem told_all
    {deeds : List (Deed τ)}
    (hEach : ∀ deed ∈ deeds, deed.Told) :
    Report.Paired (reports deeds) ∧
      (Report.measures (reports deeds)).filter
          Measure.isOutbound =
        (calls deeds).filterMap Call.measure? ∧
      (Report.measures (reports deeds)).filter Measure.isNews =
        (emitted deeds).filterMap Event.measure? := by
  induction deeds with
  | nil => exact ⟨rfl, rfl, rfl⟩
  | cons deed deeds ih =>
      have hFirst := hEach deed List.mem_cons_self
      rcases
          ih (fun later hMember =>
            hEach later (List.mem_cons_of_mem deed hMember))
        with ⟨hPaired, hOutbound, hNews⟩
      unfold reports calls emitted at *
      rw [List.flatMap_cons, List.flatMap_cons,
        List.flatMap_cons, Report.measures_append,
        List.filter_append, List.filter_append,
        List.filterMap_append, List.filterMap_append,
        hOutbound, hNews, hFirst.outbound, hFirst.news]
      exact ⟨hFirst.paired.append hPaired, rfl, rfl⟩

end Fleet

end FrameLink
