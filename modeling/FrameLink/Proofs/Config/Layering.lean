import FrameLink.Proofs.Config.Settling

/-
  A document overrides the defaults by what it gives.

  A document is made of parts with assignments in any order.
  Three keys are known in each of two parts, and whatever else
  is assigned is passed over.  So the fields of what is read
  are those that are given, and the others their defaults.

  A whole number that its field cannot hold is not made to
  fit: nothing else in the document keeps it from being
  refused.

  Key definitions include:
    * `Settings`, `Settings.config`, `Settings.IsGiven`
    * `Strays`
    * `SocketConfig.IsSettled`, `SocketConfig.adopt`
-/

------------------------------------------------------------
-- Settings
------------------------------------------------------------

namespace FrameLink

open Toml (Assignment Entry Node Part Table)

/- A value for each field, or none. -/
structure Settings where
  maxPacketSize : Option UInt64 := none
  listenBacklog : Option UInt32 := none
  overflowPolicy : Option OverflowPolicy := none
  appName : Option String := none
  logLevel : Option LogLevel := none
  jsonFormat : Option Bool := none

namespace Settings

/- The defaults, with what is given in their places. -/
def config (s : Settings) : SocketConfig :=
  let defaults : SocketConfig := {}
  { framing :=
      { maxPacketSize :=
          s.maxPacketSize.getD defaults.framing.maxPacketSize
        listenBacklog :=
          s.listenBacklog.getD defaults.framing.listenBacklog
        overflowPolicy :=
          s.overflowPolicy.getD
            defaults.framing.overflowPolicy }
    logging :=
      { appName := s.appName.getD defaults.logging.appName
        logLevel := s.logLevel.getD defaults.logging.logLevel
        jsonFormat :=
          s.jsonFormat.getD defaults.logging.jsonFormat } }

/- A document gives just these settings to the fields. -/
structure IsGiven
    (s : Settings)
    (parts : List Part) : Prop where
  maxPacketSize :
    Part.given? parts "framing" "max_packet_size" =
      s.maxPacketSize.map (fun n => .integer n.toNat)
  listenBacklog :
    Part.given? parts "framing" "listen_backlog" =
      s.listenBacklog.map (fun n => .integer n.toNat)
  overflowPolicy :
    Part.given? parts "framing" "overflow_policy" =
      s.overflowPolicy.map (fun p => .text p.name)
  appName :
    Part.given? parts "logging" "app_name" =
      s.appName.map .text
  logLevel :
    Part.given? parts "logging" "log_level" =
      s.logLevel.map (fun l => .text l.name)
  jsonFormat :
    Part.given? parts "logging" "json_format" =
      s.jsonFormat.map .boolean

------------------------------------------------------------
-- Documents for Settings
------------------------------------------------------------

/- The settings as a document can give them. -/
def parts (s : Settings) : List Part :=
  [ { name := "framing"
      assignments :=
        (s.maxPacketSize.map
          (fun n =>
            .whole "max_packet_size" n.toNat)).toList ++
        ((s.listenBacklog.map
          (fun n =>
            .whole "listen_backlog" n.toNat)).toList ++
        (s.overflowPolicy.map
          (fun p =>
            .word "overflow_policy" p.name)).toList) },
    { name := "logging"
      assignments :=
        (s.appName.map (.word "app_name")).toList ++
        ((s.logLevel.map
          (fun l => .word "log_level" l.name)).toList ++
        (s.jsonFormat.map (.flag "json_format")).toList) } ]

theorem isGiven_parts (s : Settings) : s.IsGiven s.parts := by
  rcases s with ⟨size, backlog, policy, name, level, format⟩
  constructor
  case maxPacketSize | listenBacklog | overflowPolicy =>
    cases size <;> cases backlog <;> cases policy <;> rfl
  case appName | logLevel | jsonFormat =>
    cases name <;> cases level <;> cases format <;> rfl

/- A setting is given under its own key, if at all. -/
theorem names_sublist
    {α : Type}
    {given : α → Assignment}
    {key : String}
    (hKey : ∀ a, (given a).name = key)
    (choice : Option α) :
    ((choice.map given).toList.map Assignment.name).Sublist
      [key] := by
  cases choice with
  | none => exact List.nil_sublist [key]
  | some a =>
      change [(given a).name].Sublist [key]
      rw [hKey]

/- Three settings have different keys if their names do. -/
theorem nodup_names
    {α β γ : Type}
    {first : α → Assignment}
    {second : β → Assignment}
    {third : γ → Assignment}
    {k l m : String}
    (hFirst : ∀ a, (first a).name = k)
    (hSecond : ∀ b, (second b).name = l)
    (hThird : ∀ c, (third c).name = m)
    (hOther : [k, l, m].Nodup)
    (x : Option α)
    (y : Option β)
    (z : Option γ) :
    (((x.map first).toList ++
        ((y.map second).toList ++
          (z.map third).toList)).map
      Assignment.name).Nodup := by
  have hNames :=
    (names_sublist hFirst x).append
      ((names_sublist hSecond y).append
        (names_sublist hThird z))
  rw [List.map_append, List.map_append]
  exact hNames.nodup hOther

/- No key is given twice. -/
theorem isDistinct_parts (s : Settings) :
    Part.IsDistinct s.parts where
  names :=
    show ["framing", "logging"].Nodup by decide
  each := by
    simp only [parts, List.forall_mem_cons, List.not_mem_nil,
      false_implies, implies_true, and_true]
    constructor
    · refine
        nodup_names (k := "max_packet_size")
          (l := "listen_backlog") (m := "overflow_policy")
          ?_ ?_ ?_ (by decide) _ _ _
      · exact fun _ => rfl
      · exact fun _ => rfl
      · exact fun _ => rfl
    · refine
        nodup_names (k := "app_name") (l := "log_level")
          (m := "json_format") ?_ ?_ ?_ (by decide) _ _ _
      · exact fun _ => rfl
      · exact fun _ => rfl
      · exact fun _ => rfl

/- Each setting that fits into a document is a scalar. -/
theorem isScalar_parts
    {s : Settings}
    (hFits :
      ∀ n ∈ s.maxPacketSize, n.toNat < Nat.pow 2 63) :
    ∀ part ∈ s.parts, part.IsScalar := by
  have hBacklog (n : UInt32) : n.toNat < Nat.pow 2 63 :=
    Nat.lt_trans n.toNat_lt (by decide)
  have hFraming : Toml.IsBareName "framing" :=
    Toml.isBareName_of_all (by decide +kernel)
  have hLogging : Toml.IsBareName "logging" :=
    Toml.isBareName_of_all (by decide +kernel)
  simp only [parts, List.forall_mem_cons, List.not_mem_nil,
    false_implies, implies_true, and_true]
  constructor
  · refine ⟨hFraming, ?_⟩
    simp only [List.mem_append, Option.mem_toList,
      Option.map_eq_some_iff]
    rintro a (⟨n, hSize, rfl⟩ | ⟨n, _, rfl⟩ | ⟨p, _, rfl⟩)
    · exact
        (Assignment.whole_isProper
          (Toml.isBareName_of_all (by decide +kernel))
          (hFits n hSize)).isScalar
    · exact
        (Assignment.whole_isProper
          (Toml.isBareName_of_all (by decide +kernel))
          (hBacklog n)).isScalar
    · exact
        (Assignment.word_isProper
          (Toml.isBareName_of_all (by decide +kernel))
          p.name).isScalar
  · refine ⟨hLogging, ?_⟩
    simp only [List.mem_append, Option.mem_toList,
      Option.map_eq_some_iff]
    rintro a (⟨s, _, rfl⟩ | ⟨l, _, rfl⟩ | ⟨b, _, rfl⟩)
    · exact
        (Assignment.word_isProper
          (Toml.isBareName_of_all (by decide +kernel))
          s).isScalar
    · exact
        (Assignment.word_isProper
          (Toml.isBareName_of_all (by decide +kernel))
          l.name).isScalar
    · exact
        (Assignment.flag_isProper
          (Toml.isBareName_of_all (by decide +kernel))
          b).isScalar

end Settings

/- A whole number is given that its field cannot hold. -/
def Strays (parts : List Part) : Prop :=
  ∃ n : Int,
    (Part.given? parts "framing" "max_packet_size" =
        some (.integer n) ∧
      (n < 0 ∨ UInt64.size ≤ n)) ∨
    (Part.given? parts "framing" "listen_backlog" =
        some (.integer n) ∧
      (n < 0 ∨ UInt32.size ≤ n))

------------------------------------------------------------
-- Configurations
------------------------------------------------------------

namespace SocketConfig

/- Each part is settled by what is given for it. -/
structure IsSettled
    (c : SocketConfig)
    (parts : List Part) : Prop where
  framing : c.framing.IsSettled (Part.given? parts "framing")
  logging : c.logging.IsSettled (Part.given? parts "logging")

/- Take over the part with a given title. -/
def adopt
    (c : SocketConfig)
    (title : String)
    (part : SocketConfig) : SocketConfig where
  framing :=
    if title = "framing" then c.framing else part.framing
  logging :=
    if title = "logging" then c.logging else part.logging

section

variable {c : SocketConfig} {parts : List Part}

/- Reading a part takes it over. -/
theorem IsSettled.readEntry
    {p : Part}
    {e : Entry}
    (hSettled : c.IsSettled parts)
    (hDistinct : Part.IsDistinct parts)
    (hMember : p ∈ parts)
    (hEntry : p.IsEntry e)
    (part : SocketConfig) :
    fields.readEntry part e = .ok (c.adopt p.name part) := by
  have hGiven := Part.given?_of_mem hDistinct.names hMember
  have hNames := hDistinct.each p hMember
  rcases hEntry with ⟨hName, inner, hNode, hEntries⟩
  by_cases hFraming : p.name = "framing"
  · have hPart := hSettled.framing
    rw [← hFraming, funext hGiven] at hPart
    have hRead (span : Option Toml.Span) :
        FramingConfig.fields.read ⟨span, .table inner⟩ {} =
          .ok c.framing :=
      hPart.foldlM hNames hEntries
    rw [Fields.readEntry_setter rfl hRead
      (hName.trans hFraming) hNode]
    simp [adopt, hFraming]
  · by_cases hLogging : p.name = "logging"
    · have hPart := hSettled.logging
      rw [← hLogging, funext hGiven] at hPart
      have hRead (span : Option Toml.Span) :
          LoggingConfig.fields.read ⟨span, .table inner⟩ {} =
            .ok c.logging :=
        hPart.foldlM hNames hEntries
      rw [Fields.readEntry_setter rfl hRead
        (hName.trans hLogging) hNode]
      simp [adopt, hLogging]
    · rw [Fields.readEntry_unknown]
      · simp [adopt, hFraming, hLogging]
      · rw [hName]
        simp [fields, hFraming, hLogging]

/- Reading all parts makes the settled configuration. -/
theorem IsSettled.ofTable
    {t : Table}
    (hSettled : c.IsSettled parts)
    (hDistinct : Part.IsDistinct parts)
    (hEntries : List.Forall₂ Part.IsEntry parts t.entries) :
    SocketConfig.ofTable t = .ok c := by
  rw [SocketConfig.ofTable,
    Fields.foldlM_of_adopts hEntries
      (fun p hMember e hEntry part =>
        hSettled.readEntry hDistinct hMember hEntry part)]
  have hFraming :
      ((parts.map Part.name).foldl
        (fun part title => c.adopt title part) {}).framing =
          c.framing := by
    refine
      Fields.get_foldl c.adopt (·.framing) "framing"
        (fun _ => rfl) (fun _ _ hOther => if_neg hOther)
        (fun hNone => ?_)
    exact
      hSettled.framing.eq_default
        (Part.given?_of_notMem hNone)
  have hLogging :
      ((parts.map Part.name).foldl
        (fun part title => c.adopt title part) {}).logging =
          c.logging := by
    refine
      Fields.get_foldl c.adopt (·.logging) "logging"
        (fun _ => rfl) (fun _ _ hOther => if_neg hOther)
        (fun hNone => ?_)
    exact
      hSettled.logging.eq_default
        (Part.given?_of_notMem hNone)
  generalize (parts.map Part.name).foldl _ _ = made
    at hFraming hLogging ⊢
  cases made
  cases hFraming
  cases hLogging
  rfl

/- Strays make the whole refused. -/
theorem ofTable_refused
    {t : Table}
    (hStrays : Strays parts)
    (hEntries : List.Forall₂ Part.IsEntry parts t.entries) :
    ∃ m, SocketConfig.ofTable t = .error m := by
  rcases hStrays with ⟨n, hStrays⟩
  unfold Part.given? at hStrays
  cases hFound : parts.find? (·.name = "framing") with
  | none =>
      rw [hFound] at hStrays
      rcases hStrays with ⟨hGiven, _⟩ | ⟨hGiven, _⟩
      · cases hGiven
      · cases hGiven
  | some p =>
      rw [hFound] at hStrays
      rcases Toml.of_find?_name hFound with ⟨hThere, hTitle⟩
      rcases Toml.exists_of_forall₂ hEntries.flip hThere with
        ⟨e, hMember, hName, inner, hNode, hInner⟩
      have hRead (span : Option Toml.Span) :
          ∃ m,
            FramingConfig.fields.read ⟨span, .table inner⟩ {} =
              .error m :=
        FramingConfig.foldlM_refused hInner hStrays
      apply Fields.foldlM_refused hMember
      exact
        Fields.readEntry_refused rfl hRead
          (hName.trans hTitle) hNode

end

/- The settings that are given settle the configuration. -/
theorem isSettled_config
    {s : Settings}
    {parts : List Part}
    (hGiven : s.IsGiven parts) :
    s.config.IsSettled parts where
  framing :=
    { maxPacketSize := settles_of_given hGiven.maxPacketSize _
      listenBacklog := settles_of_given hGiven.listenBacklog _
      overflowPolicy :=
        settles_of_given hGiven.overflowPolicy _ }
  logging :=
    { appName := settles_of_given hGiven.appName _
      logLevel := settles_of_given hGiven.logLevel _
      jsonFormat := settles_of_given hGiven.jsonFormat _ }

/-
  A document overrides the defaults by what it gives, and
  nothing else.  A whole number that its field cannot hold
  makes it unreadable, whatever else it gives.
-/
theorem ofToml_layers
    {parts : List Part}
    (hScalars : ∀ part ∈ parts, part.IsScalar)
    (hDistinct : Part.IsDistinct parts) :
    (∀ s : Settings,
      s.IsGiven parts →
        ofToml (String.ofList (Toml.document parts)) =
          .ok s.config) ∧
      (Strays parts →
        ∃ reason,
          ofToml (String.ofList (Toml.document parts)) =
            .error
              (.configError
                ("Failed to parse TOML: " ++ reason))) := by
  rcases Table.ofText?_document
    (fun part hMember => (hScalars part hMember).isProper)
    hDistinct with ⟨t, hTable, hEntries⟩
  constructor
  · intro s hGiven
    have hRead :=
      (isSettled_config hGiven).ofTable hDistinct hEntries
    simp only [ofToml, String.toList_ofList, hTable, hRead]
  · intro hStrays
    rcases ofTable_refused hStrays hEntries with ⟨m, hRead⟩
    simp only [ofToml, String.toList_ofList, hTable, hRead]
    exact ⟨_, rfl⟩

/- A document that gives little of what it could. -/
def sampleParts : List Part :=
  [ { name := "logging"
      assignments :=
        [ ⟨"who am i", "\"who am i\"".toList, .text "tap",
            "'tap'".toList⟩,
          ⟨"json_format", "json_format".toList, .boolean true,
            "true".toList⟩,
          ⟨"since", "since".toList, .dateTime,
            "2024-02-29".toList⟩ ] },
    { name := "framing"
      assignments :=
        [ ⟨"listen_backlog", "'listen_backlog'".toList,
            .integer 16, "0x10".toList⟩ ] } ]

/- A document with a number that is too great. -/
def strayParts : List Part :=
  [ { name := "framing"
      assignments :=
        [ .whole "listen_backlog" 4294967296,
          .whole "max_packet_size" 7 ] } ]

/- A document with a number below zero. -/
def negativeParts : List Part :=
  [ { name := "framing"
      assignments :=
        [ ⟨"max_packet_size", "max_packet_size".toList,
            .integer (-5), "-5".toList⟩ ] } ]

theorem isScalar_sampleParts :
    ∀ part ∈ sampleParts, part.IsScalar := by
  simp only [sampleParts, List.forall_mem_cons,
    List.not_mem_nil, false_implies, implies_true, and_true]
  constructor
  · refine ⟨Toml.isBareName_of_all (by decide +kernel), ?_⟩
    simp only [List.forall_mem_cons, List.not_mem_nil,
      false_implies, implies_true, and_true]
    exact
      ⟨⟨.quoted (by decide +kernel), rfl⟩,
        ⟨.bare (Toml.isBareName_of_all (by decide +kernel)),
          rfl⟩,
        ⟨.bare (Toml.isBareName_of_all (by decide +kernel)),
          rfl⟩⟩
  · refine ⟨Toml.isBareName_of_all (by decide +kernel), ?_⟩
    simp only [List.forall_mem_cons, List.not_mem_nil,
      false_implies, implies_true, and_true]
    exact ⟨.quoted (by decide +kernel), rfl⟩

/- A document with scalars in its framing part alone. -/
theorem isScalar_framing
    {assignments : List Assignment}
    (hEach : ∀ a ∈ assignments, a.IsScalar) :
    ∀ part ∈ [Toml.Part.mk "framing" assignments],
      part.IsScalar := by
  have hBare : Toml.IsBareName "framing" :=
    Toml.isBareName_of_all (by decide +kernel)
  exact List.forall_mem_singleton.mpr ⟨hBare, hEach⟩

theorem isDistinct_framing
    {assignments : List Assignment}
    (hKeys : (assignments.map Assignment.name).Nodup) :
    Part.IsDistinct [Toml.Part.mk "framing" assignments] where
  names := List.nodup_cons.mpr ⟨List.not_mem_nil, .nil⟩
  each := List.forall_mem_singleton.mpr hKeys

theorem isDistinct_sampleParts :
    Part.IsDistinct sampleParts := by
  refine ⟨by decide, ?_⟩
  simp only [sampleParts, List.forall_mem_cons,
    List.not_mem_nil, false_implies, implies_true, and_true]
  decide

/-
  Two settings are made, one number goes too far and another
  one below zero, and any settings that fit can be given.
-/
theorem ofToml_layers_samples :
    ofToml
        ("[logging]\n\"who am i\" = 'tap'\n" ++
          "json_format = true\nsince = 2024-02-29\n\n" ++
          "[framing]\n'listen_backlog' = 0x10\n") =
        .ok
          { framing := { listenBacklog := 16 }
            logging := { jsonFormat := true } } ∧
      (∃ reason,
        ofToml
            ("[framing]\nlisten_backlog = 4294967296\n" ++
              "max_packet_size = 7\n") =
          .error
            (.configError
              ("Failed to parse TOML: " ++ reason))) ∧
      (∃ reason,
        ofToml "[framing]\nmax_packet_size = -5\n" =
          .error
            (.configError
              ("Failed to parse TOML: " ++ reason))) ∧
      ∀ s : Settings,
        (∀ n ∈ s.maxPacketSize, n.toNat < Nat.pow 2 63) →
          ofToml (String.ofList (Toml.document s.parts)) =
            .ok s.config := by
  refine ⟨?_, ?_, ?_, ?_⟩
  · have hText :
        String.ofList (Toml.document sampleParts) =
          "[logging]\n\"who am i\" = 'tap'\n" ++
            "json_format = true\nsince = 2024-02-29\n\n" ++
            "[framing]\n'listen_backlog' = 0x10\n" := by
      decide +kernel
    rw [← hText]
    exact
      (ofToml_layers isScalar_sampleParts
        isDistinct_sampleParts).1
        { listenBacklog := some 16, jsonFormat := some true }
        ⟨rfl, rfl, rfl, rfl, rfl, rfl⟩
  · have hText :
        String.ofList (Toml.document strayParts) =
          "[framing]\nlisten_backlog = 4294967296\n" ++
            "max_packet_size = 7\n" := by
      decide +kernel
    have hScalars : ∀ part ∈ strayParts, part.IsScalar := by
      apply isScalar_framing
      simp only [List.forall_mem_cons, List.not_mem_nil,
        false_implies, implies_true, and_true]
      exact
        ⟨⟨.bare (Toml.isBareName_of_all (by decide +kernel)),
            rfl⟩,
          ⟨.bare (Toml.isBareName_of_all (by decide +kernel)),
            rfl⟩⟩
    have hDistinct : Part.IsDistinct strayParts :=
      isDistinct_framing (by decide)
    rw [← hText]
    exact
      (ofToml_layers hScalars hDistinct).2
        ⟨4294967296, .inr ⟨rfl, .inr (by decide)⟩⟩
  · have hText :
        String.ofList (Toml.document negativeParts) =
          "[framing]\nmax_packet_size = -5\n" := by
      decide +kernel
    have hScalars : ∀ part ∈ negativeParts, part.IsScalar := by
      apply isScalar_framing
      exact
        List.forall_mem_singleton.mpr
          ⟨.bare (Toml.isBareName_of_all (by decide +kernel)),
            rfl⟩
    have hDistinct : Part.IsDistinct negativeParts :=
      isDistinct_framing (by decide)
    rw [← hText]
    exact
      (ofToml_layers hScalars hDistinct).2
        ⟨-5, .inl ⟨rfl, .inl (by decide)⟩⟩
  · intro s hFits
    exact
      (ofToml_layers (Settings.isScalar_parts hFits)
        s.isDistinct_parts).1 s s.isGiven_parts

end SocketConfig

end FrameLink
