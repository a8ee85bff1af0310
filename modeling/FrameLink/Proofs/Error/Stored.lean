import FrameLink.Error.Stored

/-
  Error codes that are stored and read again.

  A code is written under the name of its kind, whatever the
  kind, but only the names of some kinds are read.  So
  writing and reading are not inverse, and what is said here
  is what survives.

  A datum, whatever its numbers, holds a code in one of four
  forms (`Datum.Holds`), and reading finds exactly the code it
  holds (`ErrorCode.ofDatum_eq_ok_iff`).  A code that has been
  read is kept: it has no kind that reading does not know
  (`ErrorCode.isKept_of_holds`).  What is written of a code
  that is kept holds that code (`ErrorCode.holds_toDatum`),
  and what is written of any other code holds that of an
  unspecified failure (`ErrorCode.holds_toDatum_of_notMem`).

  Key definitions include:
    * `Datum.Holds`
    * `ErrorCode.IsKept`
    * `SocketError.IsForeign`
-/

------------------------------------------------------------
-- Names of Kinds
------------------------------------------------------------

namespace FrameLink

namespace IoKind

/- A name tells the kind. -/
theorem name_inj {j k : IoKind} : j.name = k.name ↔ j = k := by
  constructor
  · intro hName
    have hFound : ofName? k.name = some j :=
      hName ▸ ofName?_name j
    rw [ofName?_name] at hFound
    exact (Option.some.inj hFound).symm
  · intro hSame
    rw [hSame]

end IoKind

namespace ErrorCode

theorem other_mem_storedKinds : .other ∈ storedKinds := by
  decide

/-
  A name is read as the kind that bears it, if reading knows
  that kind, and as an unspecified failure otherwise.
-/
theorem kindOfName_cases (s : String) :
    (kindOfName s ∈ storedKinds ∧ (kindOfName s).name = s) ∨
      (kindOfName s = .other ∧
        ∀ kind ∈ storedKinds, kind.name ≠ s) := by
  unfold kindOfName
  cases hFound :
      storedKinds.find? (fun kind => kind.name = s) with
  | none =>
      refine .inr ⟨rfl, ?_⟩
      intro kind hKnown hName
      have hNot := List.find?_eq_none.mp hFound kind hKnown
      exact hNot (decide_eq_true hName)
  | some kind =>
      have hName := List.find?_some hFound
      exact .inl
        ⟨List.mem_of_find?_eq_some hFound,
          of_decide_eq_true hName⟩

theorem kindOfName_name
    {kind : IoKind}
    (hKnown : kind ∈ storedKinds) :
    kindOfName kind.name = kind := by
  rcases kindOfName_cases kind.name with hFound | hNone
  · exact IoKind.name_inj.mp hFound.2
  · exact absurd rfl (hNone.2 kind hKnown)

theorem kindOfName_eq_other
    {s : String}
    (hUnknown : ∀ kind ∈ storedKinds, kind.name ≠ s) :
    kindOfName s = .other := by
  rcases kindOfName_cases s with hFound | hNone
  · exact absurd hFound.2 (hUnknown _ hFound.1)
  · exact hNone.1

theorem name_ne_of_notMem
    {kind : IoKind}
    (hUnknown : kind ∉ storedKinds) :
    ∀ known ∈ storedKinds, known.name ≠ kind.name := by
  intro known hKnown hName
  exact hUnknown (IoKind.name_inj.mp hName ▸ hKnown)

end ErrorCode

------------------------------------------------------------
-- Forms
------------------------------------------------------------

/- A datum is of a form that stands for a code. -/
inductive Datum.Holds
    {δ : Type} : Datum δ → ErrorCode → Prop where
  /- A code without a kind may stand alone. -/
  | alone {name : String} {code : ErrorCode}
      (hWritten : code.toDatum = .text name) :
      Holds (.text name) code
  /- It may also stand with nothing beside it. -/
  | unit {name : String} {code : ErrorCode}
      (hWritten : code.toDatum = .text name) :
      Holds (.table [(name, .null)]) code
  /- A kind is known by its name. -/
  | known {kind : IoKind}
      (hKnown : kind ∈ ErrorCode.storedKinds) :
      Holds (.table [("Io", .text kind.name)]) (.io kind)
  /- Any other text stands for an unspecified failure. -/
  | unknown {s : String}
      (hUnknown :
        ∀ kind ∈ ErrorCode.storedKinds, kind.name ≠ s) :
      Holds (.table [("Io", .text s)]) (.io .other)

namespace ErrorCode

/- A code is read alone by the name it is written under. -/
theorem bare?_eq_some_iff
    {name : String}
    {code : ErrorCode} :
    bare? name = some code ↔ code.toDatum = .text name := by
  constructor
  · intro hBare
    unfold bare? at hBare
    split at hBare
    all_goals cases hBare
    all_goals rfl
  · intro hWritten
    cases code with
    | io kind => cases hWritten
    | _ =>
        cases hWritten
        rfl

theorem ofName_of_written
    {name : String}
    {code : ErrorCode}
    (hWritten : code.toDatum = .text name) :
    ofName name = .ok code := by
  unfold ofName
  rw [bare?_eq_some_iff.mpr hWritten]

section

variable {δ : Type} [Decimals δ]

theorem ofEntry_of_written
    {name : String}
    {code : ErrorCode}
    (hWritten : code.toDatum = .text name) :
    ofEntry name (.null : Datum δ) = .ok code := by
  unfold ofEntry
  rw [bare?_eq_some_iff.mpr hWritten]

theorem ofEntry_io (s : String) :
    ofEntry "Io" (.text s : Datum δ) =
      .ok (.io (kindOfName s)) := rfl

/- Reading finds the code that a datum holds. -/
theorem ofDatum_of_holds
    {d : Datum δ}
    {code : ErrorCode}
    (hHolds : d.Holds code) :
    ofDatum d = .ok code := by
  cases hHolds with
  | alone hWritten => exact ofName_of_written hWritten
  | unit hWritten => exact ofEntry_of_written hWritten
  | known hKnown =>
      change ofEntry "Io" (.text _ : Datum δ) = _
      rw [ofEntry_io, kindOfName_name hKnown]
  | unknown hUnknown =>
      change ofEntry "Io" (.text _ : Datum δ) = _
      rw [ofEntry_io, kindOfName_eq_other hUnknown]

omit [Decimals δ] in
/- A name that is read alone holds the code. -/
theorem holds_of_ofName
    {name : String}
    {code : ErrorCode}
    (hRead : ofName name = .ok code) :
    (Datum.text name : Datum δ).Holds code := by
  unfold ofName at hRead
  cases hBare : bare? name with
  | none =>
      rw [hBare] at hRead
      dsimp only at hRead
      split at hRead
      · cases hRead
      · cases hRead
  | some found =>
      rw [hBare] at hRead
      cases hRead
      exact .alone (bare?_eq_some_iff.mp hBare)

/- A name that is read with a value holds the code. -/
theorem holds_of_ofEntry
    {name : String}
    {value : Datum δ}
    {code : ErrorCode}
    (hRead : ofEntry name value = .ok code) :
    (Datum.table [(name, value)]).Holds code := by
  unfold ofEntry at hRead
  cases hBare : bare? name with
  | some found =>
      rw [hBare] at hRead
      cases value with
      | null =>
          cases hRead
          exact .unit (bare?_eq_some_iff.mp hBare)
      | _ => cases hRead
  | none =>
      rw [hBare] at hRead
      dsimp only at hRead
      by_cases hIo : name = "Io"
      · subst hIo
        rw [if_pos rfl] at hRead
        cases value with
        | text s =>
            cases hRead
            rcases kindOfName_cases s with hFound | hNone
            · have hKnown :
                  (Datum.table
                    [("Io",
                      (.text (kindOfName s).name :
                        Datum δ))]).Holds
                    (io (kindOfName s)) :=
                .known hFound.1
              rwa [hFound.2] at hKnown
            · rw [hNone.1]
              exact .unknown hNone.2
        | _ => cases hRead
      · rw [if_neg hIo] at hRead
        cases hRead

/- Reading succeeds on the data that hold a code. -/
theorem ofDatum_eq_ok_iff
    {d : Datum δ}
    {code : ErrorCode} :
    ofDatum d = .ok code ↔ d.Holds code := by
  refine ⟨?_, ofDatum_of_holds⟩
  intro hRead
  match d, hRead with
  | .text _, hRead => exact holds_of_ofName hRead
  | .table [_], hRead => exact holds_of_ofEntry hRead

end

------------------------------------------------------------
-- Codes That Are Kept
------------------------------------------------------------

/- A kind that the code may have is known to reading. -/
def IsKept : ErrorCode → Prop
  | .io kind => kind ∈ storedKinds
  | _ => True

/- What a datum holds is kept. -/
theorem isKept_of_holds
    {δ : Type}
    {d : Datum δ}
    {code : ErrorCode}
    (hHolds : d.Holds code) :
    code.IsKept := by
  cases hHolds with
  | known hKnown => exact hKnown
  | unknown hUnknown => exact other_mem_storedKinds
  | alone hWritten =>
      cases code with
      | io kind => cases hWritten
      | _ => trivial
  | unit hWritten =>
      cases code with
      | io kind => cases hWritten
      | _ => trivial

/- A code that is kept is held by what is written of it. -/
theorem holds_toDatum
    {code : ErrorCode}
    (hKept : code.IsKept) :
    code.toDatum.Holds code := by
  cases code with
  | io kind => exact .known hKept
  | _ => exact .alone rfl

/- A kind that reading does not know comes back as none. -/
theorem holds_toDatum_of_notMem
    {kind : IoKind}
    (hUnknown : kind ∉ storedKinds) :
    (io kind).toDatum.Holds (.io .other) :=
  .unknown (name_ne_of_notMem hUnknown)

end ErrorCode

------------------------------------------------------------
-- Codes of Errors
------------------------------------------------------------

namespace SocketError

/-
  The stream below has failed in a way that reading a stored
  code knows nothing of.
-/
def IsForeign (e : SocketError) : Prop :=
  ∃ cause : IoError,
    e = .transportFailure cause ∧
      cause.kind ∉ ErrorCode.storedKinds

/- Only the code of a foreign error is not kept. -/
theorem isKept_code
    {e : SocketError}
    (hHome : ¬ e.IsForeign) :
    e.code.IsKept := by
  cases e with
  | transportFailure cause =>
      change cause.kind ∈ ErrorCode.storedKinds
      apply Decidable.byContradiction
      intro hUnknown
      exact hHome ⟨cause, rfl, hUnknown⟩
  | messageTooLarge _ => trivial
  | notConnected _ => trivial
  | writeOverrun _ _ =>
      change IoKind.invalidData ∈ ErrorCode.storedKinds
      decide
  | configError _ =>
      change IoKind.invalidInput ∈ ErrorCode.storedKinds
      decide

end SocketError

namespace ErrorCode

/-
  What has been read is written and read again without a
  change.  A text beside the name of kinds is always read, as
  the kind that bears it or as an unspecified failure.  The
  code of an error survives unless the stream below failed in
  a way that reading does not know; then it becomes the code
  of an unspecified failure, which it was not.
-/
theorem reads_back :
    (∀ (δ : Type) [Decimals δ] (d : Datum δ)
      (code : ErrorCode),
      ofDatum d = .ok code →
        ofDatum code.toDatum = .ok code) ∧
    (∀ (δ : Type) [Decimals δ] (s : String),
      let d : Datum δ := .table [("Io", .text s)]
      (∀ kind ∈ storedKinds,
        kind.name = s → ofDatum d = .ok (.io kind)) ∧
      ((∀ kind ∈ storedKinds, kind.name ≠ s) →
        ofDatum d = .ok (.io .other))) ∧
    ∀ e : SocketError,
      (¬ e.IsForeign →
        ofDatum e.code.toDatum = .ok e.code) ∧
      (e.IsForeign →
        ofDatum e.code.toDatum = .ok (.io .other) ∧
          e.code ≠ .io .other) := by
  refine ⟨?_, ?_, ?_⟩
  · intro δ _ d code hRead
    have hKept :=
      isKept_of_holds (ofDatum_eq_ok_iff.mp hRead)
    exact ofDatum_of_holds (holds_toDatum hKept)
  · intro δ _ s d
    constructor
    · rintro kind hKnown rfl
      exact ofDatum_of_holds (.known hKnown)
    · intro hUnknown
      exact ofDatum_of_holds (.unknown hUnknown)
  · intro e
    constructor
    · intro hHome
      exact ofDatum_of_holds
        (holds_toDatum (SocketError.isKept_code hHome))
    · rintro ⟨cause, rfl, hUnknown⟩
      refine
        ⟨ofDatum_of_holds (holds_toDatum_of_notMem hUnknown),
          ?_⟩
      intro hOther
      have hKind : cause.kind = .other :=
        ErrorCode.io.inj hOther
      exact hUnknown (hKind ▸ other_mem_storedKinds)

/-
  A full disk is written under its name and read as an
  unspecified failure, which is read again as itself.  A
  reset connection survives, and so does a name written by
  someone else once it has been read.  A half is no code.
-/
theorem reads_back_storageFull :
    let full : SocketError :=
      .transportFailure ⟨.storageFull, some "disk full"⟩
    let reset : SocketError :=
      .transportFailure ⟨.connectionReset, none⟩
    let written : Datum := .table [("Io", .text "StorageFull")]
    let survivor : Datum :=
      .table [("Io", .text "ConnectionReset")]
    let foreign : Datum Binary64 :=
      .table [("Io", .text "connectionreset")]
    let half : Datum Binary64 := .decimal (.finite false 1 (-1))
    full.code.toDatum = written ∧
      full.IsForeign ∧
      ofDatum written = .ok (.io .other) ∧
      ofDatum (ErrorCode.io .other).toDatum =
        .ok (.io .other) ∧
      ¬ reset.IsForeign ∧
      ofDatum survivor = .ok (.io .connectionReset) ∧
      ofDatum foreign = .ok (.io .other) ∧
      ofDatum half =
        .error
          (.wrongType (.decimal "0.5") "string or map") := by
  intro full reset written survivor foreign half
  have hFull : full.IsForeign :=
    ⟨⟨.storageFull, some "disk full"⟩, rfl, by decide⟩
  have hReset : ¬ reset.IsForeign := by
    rintro ⟨cause, hCause, hUnknown⟩
    cases SocketError.transportFailure.inj hCause
    exact hUnknown (by decide)
  have hRead : ofDatum written = .ok (.io .other) :=
    ((reads_back.2.2 full).2 hFull).1
  exact
    ⟨rfl, hFull, hRead, reads_back.1 Empty _ _ hRead, hReset,
      (reads_back.2.2 reset).1 hReset,
      (reads_back.2.1 Binary64 "connectionreset").2
        (by decide),
      rfl⟩

end ErrorCode

end FrameLink
