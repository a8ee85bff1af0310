import FrameLink.Config.Environment
import FrameLink.Proofs.Config.Words
import FrameLink.Proofs.Folder

/-
  The environment is read by its grammar.

  A word stands for the field of a variable
  (`Environment.Variable.IsWord`): a numeral for a size or a
  backlog, a name for a policy, a name or a numeral for a
  level.  One variable that is read sets its field to what its
  word stands for and leaves every other field
  (`SocketConfig.override_eq_ok_iff`), and so several that are
  read in turn set all of theirs
  (`SocketConfig.foldlM_override_iff`).

  The environment gives a configuration exactly if every
  variable that is set holds a word; otherwise the first that
  holds none is named (`SocketConfig.ofEnvironment_grammar`).

  Key definitions include:
    * `Environment.Variable.IsWord`
    * `Environment.Variable.Accepts`
    * `Environment.Gives`
    * `Environment.FirstOffender`
-/

------------------------------------------------------------
-- Words of a Variable
------------------------------------------------------------

namespace FrameLink

open Text (Encloses IsNumeral SpelledAs)

namespace Environment

namespace Variable

/- A word stands for what a configuration has in the field. -/
def IsWord
    (v : Variable)
    (word : List Char)
    (c : SocketConfig) : Prop :=
  match v with
  | .maxPacketSize =>
      IsNumeral word c.framing.maxPacketSize.toNat
  | .listenBacklog =>
      IsNumeral word c.framing.listenBacklog.toNat
  | .overflowPolicy =>
      SpelledAs word c.framing.overflowPolicy.name
  | .logLevel => LogLevel.IsWord word c.logging.logLevel

/- A text holds a word for what a configuration has. -/
def Holds
    (v : Variable)
    (held : String)
    (c : SocketConfig) : Prop :=
  ∃ word, Encloses held.toList word ∧ v.IsWord word c

/- A text holds a word for some value of the field. -/
def Accepts (v : Variable) (held : String) : Prop :=
  ∃ c, v.Holds held c

/- Two configurations have the same in a field. -/
def Agree (v : Variable) (c d : SocketConfig) : Prop :=
  match v with
  | .maxPacketSize =>
      c.framing.maxPacketSize = d.framing.maxPacketSize
  | .listenBacklog =>
      c.framing.listenBacklog = d.framing.listenBacklog
  | .overflowPolicy =>
      c.framing.overflowPolicy = d.framing.overflowPolicy
  | .logLevel => c.logging.logLevel = d.logging.logLevel

/- A configuration with one field of another. -/
def copy (v : Variable) (d c : SocketConfig) : SocketConfig :=
  match v with
  | .maxPacketSize =>
      { c with
        framing.maxPacketSize := d.framing.maxPacketSize }
  | .listenBacklog =>
      { c with
        framing.listenBacklog := d.framing.listenBacklog }
  | .overflowPolicy =>
      { c with
        framing.overflowPolicy := d.framing.overflowPolicy }
  | .logLevel =>
      { c with logging.logLevel := d.logging.logLevel }

/- Words hold no white space. -/
theorem IsWord.not_isBlank
    {v : Variable}
    {c : SocketConfig}
    (word : List Char)
    (hWord : v.IsWord word c) :
    ∀ c ∈ word, Text.isBlank c = false := by
  cases v with
  | maxPacketSize => exact IsNumeral.not_isBlank word hWord
  | listenBacklog => exact IsNumeral.not_isBlank word hWord
  | overflowPolicy =>
      exact
        SpelledAs.not_isBlank
          c.framing.overflowPolicy.isSmall_name word hWord
  | logLevel => exact LogLevel.IsWord.not_isBlank word hWord

/- Trimming finds the word that a text holds. -/
theorem holds_iff
    {v : Variable}
    {held : String}
    {c : SocketConfig} :
    v.Holds held c ↔ v.IsWord (Text.trim held.toList) c :=
  Text.exists_encloses_iff IsWord.not_isBlank

/- What a word stands for is all in the field. -/
theorem Holds.of_agree
    {v : Variable}
    {held : String}
    {c d : SocketConfig}
    (hHolds : v.Holds held c)
    (hAgree : v.Agree c d) :
    v.Holds held d := by
  rcases hHolds with ⟨word, hEncloses, hWord⟩
  refine ⟨word, hEncloses, ?_⟩
  cases v with
  | _ =>
      unfold IsWord at hWord ⊢
      rw [← hAgree]
      exact hWord

theorem Agree.refl (v : Variable) (c : SocketConfig) :
    v.Agree c c := by
  cases v with
  | _ => exact rfl

theorem Agree.symm
    {v : Variable}
    {c d : SocketConfig}
    (hAgree : v.Agree c d) :
    v.Agree d c := by
  cases v with
  | _ => exact Eq.symm hAgree

theorem Agree.trans
    {v : Variable}
    {c d e : SocketConfig}
    (hFirst : v.Agree c d)
    (hSecond : v.Agree d e) :
    v.Agree c e := by
  cases v with
  | _ => exact Eq.trans hFirst hSecond

theorem agree_copy (v : Variable) (c d : SocketConfig) :
    v.Agree (v.copy d c) d := by
  cases v with
  | _ => exact rfl

end Variable

end Environment

------------------------------------------------------------
-- One Variable
------------------------------------------------------------

namespace SocketConfig

open Environment (Variable)

/- Nothing but the fields of some variables differs. -/
structure SameBut
    (vs : List Variable)
    (c d : SocketConfig) : Prop where
  fields : ∀ v, v ∉ vs → v.Agree c d
  appName : c.logging.appName = d.logging.appName
  jsonFormat : c.logging.jsonFormat = d.logging.jsonFormat

theorem SameBut.refl (vs : List Variable) (c : SocketConfig) :
    SameBut vs c c :=
  ⟨fun v _ => .refl v c, rfl, rfl⟩

theorem SameBut.symm
    {vs : List Variable}
    {c d : SocketConfig}
    (hSame : SameBut vs c d) :
    SameBut vs d c :=
  ⟨fun v hOther => (hSame.fields v hOther).symm,
    hSame.appName.symm, hSame.jsonFormat.symm⟩

theorem SameBut.trans
    {vs : List Variable}
    {c d e : SocketConfig}
    (hFirst : SameBut vs c d)
    (hSecond : SameBut vs d e) :
    SameBut vs c e :=
  ⟨fun v hOther =>
      (hFirst.fields v hOther).trans (hSecond.fields v hOther),
    hFirst.appName.trans hSecond.appName,
    hFirst.jsonFormat.trans hSecond.jsonFormat⟩

theorem SameBut.mono
    {us vs : List Variable}
    {c d : SocketConfig}
    (hSame : SameBut us c d)
    (hAll : us ⊆ vs) :
    SameBut vs c d :=
  ⟨fun v hOther => hSame.fields v (hOther ∘ @hAll v),
    hSame.appName, hSame.jsonFormat⟩

/- Where nothing differs, there is one configuration. -/
theorem eq_of_sameBut
    {v : Variable}
    {c d : SocketConfig}
    (hSame : SameBut [v] c d)
    (hAgree : v.Agree c d) :
    c = d := by
  have hAll (u : Variable) : u.Agree c d := by
    by_cases hOne : u = v
    · rw [hOne]
      exact hAgree
    · exact
        hSame.fields u
          (fun hMember => hOne (List.mem_singleton.mp hMember))
  have hSize := hAll .maxPacketSize
  have hBacklog := hAll .listenBacklog
  have hPolicy := hAll .overflowPolicy
  have hLevel := hAll .logLevel
  have hName := hSame.appName
  have hFormat := hSame.jsonFormat
  rcases c with ⟨⟨_, _, _⟩, ⟨_, _, _⟩⟩
  rcases d with ⟨⟨_, _, _⟩, ⟨_, _, _⟩⟩
  cases hSize
  cases hBacklog
  cases hPolicy
  cases hLevel
  cases hName
  cases hFormat
  rfl

/- Copying a field changes no other. -/
theorem sameBut_copy (v : Variable) (c d : SocketConfig) :
    SameBut [v] c (v.copy d c) := by
  have hFields (u : Variable) (hOther : u ∉ [v]) :
      u.Agree c (v.copy d c) := by
    cases v with
    | _ =>
      cases u with
      | _ =>
        first
        | exact rfl
        | exact absurd (List.mem_singleton.mpr rfl) hOther
  cases v with
  | _ => exact ⟨hFields, rfl, rfl⟩

end SocketConfig

namespace Environment

namespace Variable

open SocketConfig (SameBut)

/- A text that holds a word sets the field to its value. -/
theorem Holds.apply
    {v : Variable}
    {held : String}
    {d : SocketConfig}
    (hHolds : v.Holds held d)
    (c : SocketConfig) :
    v.apply held c = .ok (v.copy d c) := by
  have hWord := holds_iff.mp hHolds
  unfold Variable.apply
  cases v with
  | maxPacketSize =>
      have hFits :=
        Nat.le_sub_one_of_lt d.framing.maxPacketSize.toNat_lt
      have hRead := Text.readNumber_eq_ok_iff.mpr ⟨hWord, hFits⟩
      simp only [hRead, UInt64.ofNat_toNat]
      rfl
  | listenBacklog =>
      have hFits :=
        Nat.le_sub_one_of_lt d.framing.listenBacklog.toNat_lt
      have hRead := Text.readNumber_eq_ok_iff.mpr ⟨hWord, hFits⟩
      simp only [hRead, UInt32.ofNat_toNat]
      rfl
  | overflowPolicy =>
      have hRead :=
        OverflowPolicy.ofText_trim_eq_ok_iff.mpr hWord
      simp only [hRead]
      rfl
  | logLevel =>
      have hRead := LogLevel.ofText_trim_eq_ok_iff.mpr hWord
      simp only [hRead]
      rfl

/- A text that holds none is refused for a reason of its own. -/
theorem exists_reason
    {v : Variable}
    {held : String}
    (hNone : ¬v.Accepts held) :
    ∃ reason,
      ∀ c, v.apply held c = .error (v.invalid reason) := by
  have hWord (d : SocketConfig) :
      ¬v.IsWord (Text.trim held.toList) d :=
    fun hWord => hNone ⟨d, holds_iff.mpr hWord⟩
  unfold Variable.apply
  cases v with
  | maxPacketSize =>
      cases hRead :
        Text.readNumber (UInt64.size - 1)
          (Text.trim held.toList) with
      | error fault =>
          exact ⟨fault.message, fun _ => by simp only [hRead]⟩
      | ok n =>
          have hNumber := Text.readNumber_eq_ok_iff.mp hRead
          have hValue : (UInt64.ofNat n).toNat = n :=
            UInt64.toNat_ofNat_of_lt'
              (Nat.lt_of_le_pred (by decide) hNumber.2)
          rw [← hValue] at hNumber
          exact
            absurd hNumber.1
              (hWord { framing.maxPacketSize := .ofNat n })
  | listenBacklog =>
      cases hRead :
        Text.readNumber (UInt32.size - 1)
          (Text.trim held.toList) with
      | error fault =>
          exact ⟨fault.message, fun _ => by simp only [hRead]⟩
      | ok n =>
          have hNumber := Text.readNumber_eq_ok_iff.mp hRead
          have hValue : (UInt32.ofNat n).toNat = n :=
            UInt32.toNat_ofNat_of_lt'
              (Nat.lt_of_le_pred (by decide) hNumber.2)
          rw [← hValue] at hNumber
          exact
            absurd hNumber.1
              (hWord { framing.listenBacklog := .ofNat n })
  | overflowPolicy =>
      cases hRead :
        OverflowPolicy.ofText
          (.ofList (Text.trim held.toList)) with
      | error e =>
          exact ⟨e.message, fun _ => by simp only [hRead]⟩
      | ok policy =>
          exact
            absurd
              (OverflowPolicy.ofText_trim_eq_ok_iff.mp hRead)
              (hWord { framing.overflowPolicy := policy })
  | logLevel =>
      cases hRead :
        LogLevel.ofText (.ofList (Text.trim held.toList)) with
      | error e =>
          exact ⟨e.message, fun _ => by simp only [hRead]⟩
      | ok level =>
          exact
            absurd (LogLevel.ofText_trim_eq_ok_iff.mp hRead)
              (hWord { logging.logLevel := level })

/- Reading a text sets the field to what it holds a word for. -/
theorem apply_eq_ok_iff
    {v : Variable}
    {held : String}
    {c d : SocketConfig} :
    v.apply held c = .ok d ↔
      v.Holds held d ∧ SameBut [v] c d := by
  constructor
  · intro hApply
    by_cases hAccepts : v.Accepts held
    · rcases hAccepts with ⟨other, hHolds⟩
      cases (hHolds.apply c).symm.trans hApply
      exact
        ⟨hHolds.of_agree (v.agree_copy c other).symm,
          SocketConfig.sameBut_copy v c other⟩
    · rcases exists_reason hAccepts with ⟨_, hReason⟩
      rw [hReason] at hApply
      cases hApply
  · rintro ⟨hHolds, hSame⟩
    have hCopy := SocketConfig.sameBut_copy v c d
    rw [hHolds.apply c]
    congr 1
    exact
      SocketConfig.eq_of_sameBut (hCopy.symm.trans hSame)
        (v.agree_copy c d)

end Variable

------------------------------------------------------------
-- Several Variables
------------------------------------------------------------

/-
  Going from one configuration to another, the field of a
  variable comes to be what it holds a word for, or stays if
  the variable is not set.
-/
def Sets
    (env : Environment)
    (v : Variable)
    (c d : SocketConfig) : Prop :=
  match env.text? v.name with
  | none => v.Agree c d
  | some held => v.Holds held d

/- A variable holds a word if it is set. -/
def Obeys (env : Environment) (v : Variable) : Prop :=
  ∀ held, env.text? v.name = some held → v.Accepts held

/-
  The defaults, with the field of each variable that is set
  as the word in it says.
-/
structure Gives
    (env : Environment)
    (c : SocketConfig) : Prop where
  fields : ∀ v, env.Sets v {} c
  appName : c.logging.appName = LoggingConfig.appName {}
  jsonFormat :
    c.logging.jsonFormat = LoggingConfig.jsonFormat {}

/- A variable is the first that holds a text but no word. -/
structure FirstOffender
    (env : Environment)
    (v : Variable)
    (held : String) : Prop where
  isHeld : env.text? v.name = some held
  refused : ¬v.Accepts held
  first :
    ∃ before after,
      Variable.all = before ++ v :: after ∧
        ∀ u ∈ before, env.Obeys u

/- What a variable sets is all in its field. -/
theorem Sets.of_agree
    {env : Environment}
    {v : Variable}
    {c c' d d' : SocketConfig}
    (hSets : env.Sets v c d)
    (hFrom : v.Agree c' c)
    (hTo : v.Agree d d') :
    env.Sets v c' d' := by
  unfold Sets at hSets ⊢
  split at hSets
  · exact (hFrom.trans hSets).trans hTo
  · exact hSets.of_agree hTo

end Environment

namespace SocketConfig

open Environment (Variable)

variable {env : Environment}

/- Overriding by a variable sets its field and no other. -/
theorem override_eq_ok_iff
    {v : Variable}
    {c d : SocketConfig} :
    override env c v = .ok d ↔
      env.Sets v c d ∧ SameBut [v] c d := by
  unfold override Environment.Sets
  cases env.text? v.name with
  | none =>
      rw [Except.ok.injEq]
      constructor
      · rintro rfl
        exact ⟨.refl v c, .refl [v] c⟩
      · exact fun hBoth => eq_of_sameBut hBoth.2 hBoth.1
  | some held => exact Variable.apply_eq_ok_iff

/- Overriding by several sets all of their fields. -/
theorem foldlM_override_iff
    {vs : List Variable}
    (hDistinct : vs.Nodup)
    {c d : SocketConfig} :
    vs.foldlM (override env) c = .ok d ↔
      (∀ v ∈ vs, env.Sets v c d) ∧ SameBut vs c d := by
  induction vs generalizing c with
  | nil =>
      rw [List.foldlM_nil]
      constructor
      · intro hSame
        cases hSame
        exact ⟨nofun, .refl [] d⟩
      · rintro ⟨_, hSame⟩
        have hOne : SameBut [.logLevel] c d :=
          hSame.mono (List.nil_subset _)
        cases
          eq_of_sameBut hOne
            (hSame.fields .logLevel List.not_mem_nil)
        rfl
  | cons v vs ih =>
      rcases List.nodup_cons.mp hDistinct with ⟨hNew, hRest⟩
      have hSub : [v] ⊆ v :: vs :=
        List.cons_subset_cons v (List.nil_subset vs)
      rw [List.foldlM_cons]
      constructor
      · intro hFold
        cases hFirst : override env c v with
        | error _ =>
            rw [hFirst] at hFold
            cases hFold
        | ok m =>
            rw [hFirst] at hFold
            rcases override_eq_ok_iff.mp hFirst with
              ⟨hSets, hSame⟩
            rcases (ih hRest).mp hFold with ⟨hAll, hLater⟩
            refine ⟨?_, ?_⟩
            · intro u hMember
              rcases List.mem_cons.mp hMember with rfl | hThere
              · exact
                  hSets.of_agree (.refl u c)
                    (hLater.fields u hNew)
              · have hOther : u ∉ [v] := by
                  intro hOne
                  cases List.mem_singleton.mp hOne
                  exact hNew hThere
                exact
                  (hAll u hThere).of_agree
                    (hSame.fields u hOther) (.refl u d)
            · exact
                (hSame.mono hSub).trans
                  (hLater.mono (List.subset_cons_self v vs))
      · rintro ⟨hAll, hSame⟩
        have hCopy := sameBut_copy v c d
        have hField := v.agree_copy c d
        have hFirst :
            override env c v = .ok (v.copy d c) :=
          override_eq_ok_iff.mpr
            ⟨(hAll v List.mem_cons_self).of_agree
                (.refl v c) hField.symm,
              hCopy⟩
        rw [hFirst]
        change vs.foldlM (override env) (v.copy d c) = .ok d
        refine (ih hRest).mpr ⟨?_, ?_⟩
        · intro u hMember
          have hOther : u ∉ [v] := by
            intro hOne
            cases List.mem_singleton.mp hOne
            exact hNew hMember
          exact
            (hAll u (List.mem_cons_of_mem v hMember)).of_agree
              (hCopy.fields u hOther).symm (.refl u d)
        · have hBoth := (hCopy.mono hSub).symm.trans hSame
          refine ⟨?_, hBoth.appName, hBoth.jsonFormat⟩
          intro u hOther
          by_cases hOne : u = v
          · cases hOne
            exact hField
          · refine hBoth.fields u (fun hMember => ?_)
            rcases List.mem_cons.mp hMember with hSelf | hThere
            · exact hOne hSelf
            · exact hOther hThere

/- A variable that holds a word overrides whatever there is. -/
theorem override_of_obeys
    {v : Variable}
    (hObeys : env.Obeys v)
    (c : SocketConfig) :
    ∃ d, override env c v = .ok d := by
  unfold override
  split
  · exact ⟨c, rfl⟩
  · rename_i held hHeld
    rcases hObeys held hHeld with ⟨other, hHolds⟩
    exact ⟨_, hHolds.apply c⟩

theorem foldlM_override_of_obeys
    {vs : List Variable}
    (hObey : ∀ v ∈ vs, env.Obeys v)
    (c : SocketConfig) :
    ∃ d, vs.foldlM (override env) c = .ok d := by
  induction vs generalizing c with
  | nil => exact ⟨c, rfl⟩
  | cons v vs ih =>
      rcases List.forall_mem_cons.mp hObey with
        ⟨hFirst, hLater⟩
      rcases override_of_obeys hFirst c with ⟨m, hOk⟩
      rw [List.foldlM_cons, hOk]
      exact ih hLater m

/- A failure to override is that of a first offender. -/
theorem exists_offender
    {vs : List Variable}
    {c : SocketConfig}
    {e : SocketError}
    (hFold : vs.foldlM (override env) c = .error e) :
    ∃ before v after held,
      vs = before ++ v :: after ∧
        (∀ u ∈ before, env.Obeys u) ∧
          env.text? v.name = some held ∧ ¬v.Accepts held := by
  induction vs generalizing c with
  | nil => cases hFold
  | cons v vs ih =>
      by_cases hObeys : env.Obeys v
      · rcases override_of_obeys hObeys c with ⟨m, hOk⟩
        rw [List.foldlM_cons, hOk] at hFold
        rcases ih hFold with
          ⟨before, u, after, held, rfl, hBefore, hHeld, hNone⟩
        exact
          ⟨v :: before, u, after, held, rfl,
            List.forall_mem_cons.mpr ⟨hObeys, hBefore⟩, hHeld,
            hNone⟩
      · unfold Environment.Obeys at hObeys
        rw [not_forall] at hObeys
        rcases hObeys with ⟨held, hHeld⟩
        rcases Classical.not_imp.mp hHeld with ⟨hHeld, hNone⟩
        exact ⟨[], v, vs, held, rfl, nofun, hHeld, hNone⟩

/- An offender decides whatever the later variables hold. -/
theorem foldlM_override_offender
    {v : Variable}
    {held reason : String}
    (hReason :
      ∀ c, v.apply held c = .error (v.invalid reason))
    (hHeld : env.text? v.name = some held)
    {before : List Variable}
    (hBefore : ∀ u ∈ before, env.Obeys u)
    (after : List Variable)
    (c : SocketConfig) :
    (before ++ v :: after).foldlM (override env) c =
      .error (v.invalid reason) := by
  rcases foldlM_override_of_obeys hBefore c with ⟨m, hOk⟩
  have hFails :
      override env m v = .error (v.invalid reason) := by
    unfold override
    rw [hHeld]
    exact hReason m
  rw [List.foldlM_append, hOk]
  change (v :: after).foldlM (override env) m = _
  rw [List.foldlM_cons, hFails]
  rfl

end SocketConfig

------------------------------------------------------------
-- Writing the Environment
------------------------------------------------------------

namespace Environment

/- A value as a variable holds it. -/
def Variable.render
    (v : Variable)
    (c : SocketConfig) : String :=
  match v with
  | .maxPacketSize => toString c.framing.maxPacketSize
  | .listenBacklog => toString c.framing.listenBacklog
  | .overflowPolicy => c.framing.overflowPolicy.name
  | .logLevel => c.logging.logLevel.name

/- Each variable set to a text. -/
def ofTexts (texts : Variable → String) : Environment :=
  Variable.all.map
    (fun v => (v.name, (texts v).toUTF8.data.toList))

/- Every variable then holds its text. -/
theorem text?_ofTexts
    (texts : Variable → String)
    (v : Variable) :
    (ofTexts texts).text? v.name = some (texts v) := by
  have hLookup :
      (ofTexts texts).lookup v.name =
        some (texts v).toUTF8.data.toList := by
    cases v with
    | _ => rfl
  rw [text?, hLookup]
  exact Folder.fromUTF8?_toUTF8 (texts v)

/- What is rendered is a word for the value. -/
theorem Variable.isWord_render
    (v : Variable)
    (c : SocketConfig) :
    v.IsWord (v.render c).toList c := by
  have hNumeral (n : Nat) :
      IsNumeral (toString n).toList n := by
    rw [Nat.toString_eq_repr, Nat.repr_eq_ofList_toDigits,
      String.toList_ofList]
    exact Text.isNumeral_toDigits n
  cases v with
  | maxPacketSize => exact hNumeral _
  | listenBacklog => exact hNumeral _
  | overflowPolicy => exact Text.spelledAs_self _
  | logLevel => exact .inl (Text.spelledAs_self _)

end Environment

------------------------------------------------------------
-- The Grammar
------------------------------------------------------------

namespace SocketConfig

open Environment (Variable)

/- Every variable is read, and none of them twice. -/
theorem mem_variables (v : Variable) : v ∈ Variable.all := by
  cases v with
  | _ => decide

theorem nodup_variables : Variable.all.Nodup := by
  decide

/- The environment gives what its variables set. -/
theorem ofEnvironment_eq_ok_iff
    {env : Environment}
    {c : SocketConfig} :
    ofEnvironment env = .ok c ↔ env.Gives c := by
  rw [ofEnvironment, foldlM_override_iff nodup_variables]
  constructor
  · rintro ⟨hSets, hSame⟩
    exact
      ⟨fun v => hSets v (mem_variables v), hSame.appName.symm,
        hSame.jsonFormat.symm⟩
  · intro hGives
    exact
      ⟨fun v _ => hGives.fields v,
        fun v hOther => absurd (mem_variables v) hOther,
        hGives.appName.symm, hGives.jsonFormat.symm⟩

/- No text counts as none, and neither case nor blanks count. -/
example :
    ofEnvironment
        [(Variable.maxPacketSize.name, [0xFF]),
          (Variable.listenBacklog.name,
            "\u3000+007\n".toUTF8.data.toList),
          (Variable.overflowPolicy.name,
            " cLoSe ".toUTF8.data.toList)] =
      .ok
        { framing :=
            { listenBacklog := 7,
              overflowPolicy := .close } } := by
  decide +kernel

/- A configuration is given if variables hold words. -/
theorem ofEnvironment_ok_iff {env : Environment} :
    (∃ c, ofEnvironment env = .ok c) ↔
      ∀ v, Environment.Obeys env v := by
  constructor
  · rintro ⟨c, hOk⟩ v held hHeld
    have hSets := (ofEnvironment_eq_ok_iff.mp hOk).fields v
    rw [Environment.Sets, hHeld] at hSets
    exact ⟨c, hSets⟩
  · exact fun hObey =>
      foldlM_override_of_obeys (fun v _ => hObey v) {}

/- What other variables hold does not matter. -/
theorem ofEnvironment_congr
    {env other : Environment}
    (hSame :
      ∀ v : Variable, env.text? v.name = other.text? v.name) :
    ofEnvironment env = ofEnvironment other := by
  have hStep : override env = override other := by
    funext c v
    rw [override, override, hSame v]
  rw [ofEnvironment, ofEnvironment, hStep]

/- The first offender decides over the failure. -/
theorem exists_failure (v : Variable) (held : String) :
    ∃ reason, ∀ env : Environment,
      env.FirstOffender v held →
        ofEnvironment env = .error (v.invalid reason) := by
  by_cases hAccepts : v.Accepts held
  · exact ⟨"", fun _ hFirst => absurd hAccepts hFirst.refused⟩
  · rcases Variable.exists_reason hAccepts with
      ⟨reason, hReason⟩
    refine ⟨reason, fun env hFirst => ?_⟩
    rcases hFirst.first with ⟨before, after, hAll, hBefore⟩
    rw [ofEnvironment, hAll]
    exact
      foldlM_override_offender hReason hFirst.isHeld hBefore
        after {}

/- Without an offender there is no failure. -/
theorem exists_firstOffender
    {env : Environment}
    {e : SocketError}
    (hFails : ofEnvironment env = .error e) :
    ∃ v held, Environment.FirstOffender env v held := by
  rcases exists_offender hFails with
    ⟨before, v, after, held, hAll, hBefore, hHeld, hNone⟩
  exact
    ⟨v, held, hHeld, hNone, before, after, hAll, hBefore⟩

/- Every value is read from its rendering, blanks aside. -/
theorem ofEnvironment_render
    {c : SocketConfig}
    (hName : c.logging.appName = LoggingConfig.appName {})
    (hFormat :
      c.logging.jsonFormat = LoggingConfig.jsonFormat {})
    {left right : Variable → String}
    (hLeft :
      ∀ v, ∀ ch ∈ (left v).toList, Text.isBlank ch = true)
    (hRight :
      ∀ v, ∀ ch ∈ (right v).toList, Text.isBlank ch = true) :
    ofEnvironment
        (.ofTexts (fun v => left v ++ v.render c ++ right v)) =
      .ok c := by
  refine ofEnvironment_eq_ok_iff.mpr ⟨?_, hName, hFormat⟩
  intro v
  rw [Environment.Sets, Environment.text?_ofTexts]
  refine
    ⟨(v.render c).toList,
      ⟨(left v).toList, (right v).toList, hLeft v, hRight v,
        ?_⟩,
      v.isWord_render c⟩
  rw [String.toList_append, String.toList_append]

/-
  The environment is read by its grammar.  A configuration is
  given exactly if it is the defaults with the fields of the
  variables that are set, and some configuration is given
  exactly if each of these holds a word; no other variable
  matters, and every value can be given.  Otherwise there is
  a first offender, and it alone decides over the failure,
  which names it.
-/
theorem ofEnvironment_grammar :
    (∀ env c,
      ofEnvironment env = .ok c ↔
        Environment.Gives env c) ∧
    (∀ env,
      (∃ c, ofEnvironment env = .ok c) ↔
        ∀ v, Environment.Obeys env v) ∧
    (∀ env other : Environment,
      (∀ v : Variable,
        env.text? v.name = other.text? v.name) →
        ofEnvironment env = ofEnvironment other) ∧
    (∀ c : SocketConfig,
      c.logging.appName = LoggingConfig.appName {} →
      c.logging.jsonFormat = LoggingConfig.jsonFormat {} →
      ∀ left right : Variable → String,
        (∀ v, ∀ ch ∈ (left v).toList,
          Text.isBlank ch = true) →
        (∀ v, ∀ ch ∈ (right v).toList,
          Text.isBlank ch = true) →
        ofEnvironment
            (.ofTexts
              (fun v => left v ++ v.render c ++ right v)) =
          .ok c) ∧
    (∀ env e,
      ofEnvironment env = .error e →
        ∃ v held, Environment.FirstOffender env v held) ∧
    ∀ (v : Variable) (held : String),
      ∃ reason, ∀ env : Environment,
        env.FirstOffender v held →
          ofEnvironment env =
            .error
              (.configError
                ("Invalid " ++ v.name ++ ": " ++ reason)) := by
  refine ⟨?_, ?_, ?_, ?_, ?_, ?_⟩
  · exact fun _ _ => ofEnvironment_eq_ok_iff
  · exact fun _ => ofEnvironment_ok_iff
  · exact fun _ _ => ofEnvironment_congr
  · exact fun _ hName hFormat _ _ =>
      ofEnvironment_render hName hFormat
  · exact fun _ _ => exists_firstOffender
  · exact exists_failure

/-
  A configuration is read back from between white space.  The
  level is wrong too, but the policy is what is named.
-/
theorem ofEnvironment_grammar_samples :
    let close : SocketConfig :=
      { framing.overflowPolicy := .close }
    let offended : Environment :=
      [(Variable.logLevel.name, "9".toUTF8.data.toList),
        (Variable.overflowPolicy.name,
          "open".toUTF8.data.toList)]
    ofEnvironment
        (.ofTexts
          (fun v => "\u3000" ++ v.render close ++ " \n")) =
        .ok close ∧
      ∃ reason,
        ofEnvironment offended =
          .error
            (.configError
              ("Invalid " ++ Variable.overflowPolicy.name ++
                ": " ++ reason)) := by
  intro close offended
  have hFirst :
      Environment.FirstOffender offended .overflowPolicy
        "open" := by
    constructor
    case isHeld => decide +kernel
    case refused =>
      rintro ⟨c, hHolds⟩
      have hRead :=
        OverflowPolicy.ofText_trim_eq_ok_iff.mpr
          (Variable.holds_iff.mp hHolds)
      cases hPolicy : c.framing.overflowPolicy with
      | _ =>
          rw [hPolicy] at hRead
          exact absurd hRead (by decide +kernel)
    case first =>
      refine
        ⟨[.maxPacketSize, .listenBacklog], [.logLevel], rfl,
          ?_⟩
      have hUnset :
          ∀ u ∈ [Variable.maxPacketSize, .listenBacklog],
            offended.text? u.name = none := by
        decide +kernel
      intro u hMember held hHeld
      rw [hUnset u hMember] at hHeld
      cases hHeld
  constructor
  · apply ofEnvironment_grammar.2.2.2.1 close rfl rfl
    · exact fun _ => List.all_eq_true.mp (by decide +kernel)
    · exact fun _ => List.all_eq_true.mp (by decide +kernel)
  · rcases ofEnvironment_grammar.2.2.2.2.2 .overflowPolicy
      "open" with ⟨reason, hReason⟩
    exact ⟨reason, hReason offended hFirst⟩

end SocketConfig

end FrameLink
