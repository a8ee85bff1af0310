import FrameLink.Report

/-
  What the counters say.

  A counter holds the total of what the measures add to it,
  and one that some measures raise by one holds how many of
  them there were, up to wrapping.  The counters of packets sent
  and of overflows are of this kind.

  Key definitions include:
    * `Measure.isSent`
    * `Metrics.Adds`, `Metrics.total`, `Metrics.add`
-/

------------------------------------------------------------
-- Measures among Reports
------------------------------------------------------------

namespace FrameLink

namespace Report

@[simp]
theorem measures_nil : measures [] = [] := rfl

@[simp]
theorem measures_line
    (l : LogLine)
    (reports : List Report) :
    measures (.line l :: reports) = measures reports := rfl

@[simp]
theorem measures_measure
    (m : Measure)
    (reports : List Report) :
    measures (.measure m :: reports) =
      m :: measures reports := rfl

@[simp]
theorem measures_append (front back : List Report) :
    measures (front ++ back) =
      measures front ++ measures back := by
  simp only [measures, List.filterMap_append]

theorem lines_append (front back : List Report) :
    lines (front ++ back) = lines front ++ lines back := by
  simp only [lines, List.filterMap_append]

end Report

------------------------------------------------------------
-- Counters
------------------------------------------------------------

/- The measure is of a packet that is sent. -/
def Measure.isSent : Measure → Bool
  | .packetSent _ => true
  | _ => false

namespace Metrics

/- What each measure adds to a counter. -/
structure Adds
    (counter : Metrics → UInt64)
    (weight : Measure → UInt64) : Prop where
  zero : counter {} = 0
  record :
    ∀ (m : Metrics) (measure : Measure),
      counter (m.record measure) = counter m + weight measure

/- What measures of given weights come to, with wrapping. -/
def total
    (weight : Measure → UInt64)
    (measures : List Measure) : UInt64 :=
  measures.foldr (fun measure n => weight measure + n) 0

/- A counter holds the total of what the measures add to it. -/
theorem Adds.eq_total
    {counter : Metrics → UInt64}
    {weight : Measure → UInt64}
    (hAdds : Adds counter weight)
    (measures : List Measure) :
    counter (ofMeasures measures) = total weight measures := by
  have hAfter :
      ∀ m : Metrics,
        counter (measures.foldl Metrics.record m) =
          counter m + total weight measures := by
    induction measures with
    | nil =>
        intro m
        exact (UInt64.add_zero _).symm
    | cons measure measures ih =>
        intro m
        rw [List.foldl_cons, ih, hAdds.record,
          UInt64.add_assoc]
        rfl
  rw [ofMeasures, hAfter, hAdds.zero, UInt64.zero_add]

/- Counters added up, each to its own. -/
def add (a b : Metrics) : Metrics where
  packetsSent := a.packetsSent + b.packetsSent
  bytesSent := a.bytesSent + b.bytesSent
  packetsDropped := a.packetsDropped + b.packetsDropped
  rawBytesQueued := a.rawBytesQueued + b.rawBytesQueued
  packetsReceived := a.packetsReceived + b.packetsReceived
  bytesReceived := a.bytesReceived + b.bytesReceived
  bufferOverflows := a.bufferOverflows + b.bufferOverflows
  readErrors := a.readErrors + b.readErrors
  connectionsAccepted :=
    a.connectionsAccepted + b.connectionsAccepted
  acceptErrors := a.acceptErrors + b.acceptErrors

/- A measure adds what it makes of counters at zero. -/
theorem record_eq_add (m : Metrics) (measure : Measure) :
    m.record measure = m.add (record {} measure) := by
  cases measure with
  | _ =>
      simp only [record, add, UInt64.add_zero,
        UInt64.zero_add]

theorem adds_of_add
    {counter : Metrics → UInt64}
    (hZero : counter {} = 0)
    (hAdd : ∀ a b, counter (a.add b) = counter a + counter b) :
    Adds counter
      (fun measure => counter (record {} measure)) where
  zero := hZero
  record m measure := by rw [record_eq_add, hAdd]

/- As many ones as measures are counted make their number. -/
theorem total_ite
    (counted : Measure → Bool)
    (measures : List Measure) :
    total (fun measure => if counted measure then 1 else 0)
        measures =
      UInt64.ofNat (measures.countP counted) := by
  induction measures with
  | nil => rfl
  | cons measure measures ih =>
      rw [total, List.foldr_cons, List.countP_cons,
        UInt64.ofNat_add, UInt64.add_comm]
      apply congr (congrArg HAdd.hAdd ih)
      by_cases hCounted : counted measure = true
      · rw [if_pos hCounted, if_pos hCounted]
        rfl
      · rw [if_neg hCounted, if_neg hCounted]
        rfl

/- Measures that add nothing may be left out of a total. -/
theorem total_filter
    {weight : Measure → UInt64}
    {kept : Measure → Bool}
    (hOnly :
      ∀ measure,
        weight measure =
          if kept measure then weight measure else 0)
    (measures : List Measure) :
    total weight (measures.filter kept) =
      total weight measures := by
  induction measures with
  | nil => rfl
  | cons measure measures ih =>
      cases hKept : kept measure with
      | true =>
          rw [List.filter_cons_of_pos hKept]
          exact congrArg (weight measure + ·) ih
      | false =>
          have hNothing := hOnly measure
          rw [hKept, if_neg Bool.false_ne_true] at hNothing
          rw [List.filter_cons_of_neg
              (ne_true_of_eq_false hKept),
            ih]
          change _ = weight measure + total weight measures
          rw [hNothing, UInt64.zero_add]

/-
  A counter holds how many measures it has counted, up to
  wrapping.
-/
theorem counter_ofMeasures
    (counter : Metrics → UInt64)
    (counted : Measure → Bool)
    (hZero : counter {} = 0)
    (hRecord :
      ∀ (m : Metrics) (measure : Measure),
        counter (m.record measure) =
          counter m + if counted measure then 1 else 0)
    (measures : List Measure) :
    counter (ofMeasures measures) =
      UInt64.ofNat (measures.countP counted) := by
  have hAdds : Adds counter _ := ⟨hZero, hRecord⟩
  rw [hAdds.eq_total, total_ite]

/- One counter counts the overflows. -/
theorem bufferOverflows_ofMeasures (measures : List Measure) :
    (ofMeasures measures).bufferOverflows =
      UInt64.ofNat (measures.count .bufferOverflow) := by
  apply counter_ofMeasures Metrics.bufferOverflows
    (· == .bufferOverflow)
  · rfl
  · intro m measure
    cases measure with
    | bufferOverflow => rfl
    | _ => exact (UInt64.add_zero _).symm

/- One counter counts the packets that are sent. -/
theorem packetsSent_ofMeasures (measures : List Measure) :
    (ofMeasures measures).packetsSent =
      UInt64.ofNat (measures.countP Measure.isSent) := by
  apply counter_ofMeasures Metrics.packetsSent
    Measure.isSent
  · rfl
  · intro m measure
    cases measure with
    | packetSent size => rfl
    | _ => exact (UInt64.add_zero _).symm

end Metrics

end FrameLink
