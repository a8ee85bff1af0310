import FrameLink.Config.Reading
import FrameLink.Config.Writing
import FrameLink.Proofs.Toml.Tables

/-
  Configurations that are written are read again.

  A configuration is written in two parts, with an assignment
  for each field.  Reading a part takes in one assignment
  after the other (`Fields.Makes`), so that each field comes
  to be what was written for it.

  A configuration can be written if its greatest packet fits
  into a number of a document, and is then read from what was
  written (`SocketConfig.ofToml_of_toToml`).

  Key definitions include:
    * `Fields.Makes`
    * `FramingConfig.part`, `LoggingConfig.part`
-/

------------------------------------------------------------
-- Fields
------------------------------------------------------------

namespace FrameLink

open Toml (Assignment Entry Node Part Table)

namespace Fields

variable {α : Type}

/- Assignments, read in order, make a part of another. -/
inductive Makes
    (fields : Fields α) :
    List Assignment → α → α → Prop where
  | nil {part : α} : Makes fields [] part part
  | cons
      {a : Assignment}
      {assignments : List Assignment}
      {part next last : α}
      (hEntry :
        ∀ e, a.IsEntry e → fields.readEntry part e = .ok next)
      (hMakes : Makes fields assignments next last) :
      Makes fields (a :: assignments) part last

/- The entries that the assignments are say the same. -/
theorem Makes.foldlM
    {fields : Fields α}
    {assignments : List Assignment}
    {part last : α}
    {entries : List Entry}
    (hMakes : fields.Makes assignments part last)
    (hEntries :
      List.Forall₂ Assignment.IsEntry assignments entries) :
    entries.foldlM fields.readEntry part = .ok last := by
  induction hMakes generalizing entries with
  | nil =>
      cases hEntries
      rfl
  | cons hEntry _ ih =>
      cases hEntries with
      | cons hFirst hRest =>
          rw [List.foldlM_cons, hEntry _ hFirst]
          exact ih hRest

/- A field takes what its reader makes of a node. -/
theorem readEntry_setter
    {β : Type}
    {fields : Fields α}
    {name : String}
    {read : FieldReader β}
    {set : β → α → α}
    {node : Node}
    {value : β}
    (hSetter :
      fields.setters.lookup name = some (setter read set))
    (hRead : ∀ span, read ⟨span, node⟩ = .ok value)
    {e : Entry}
    (hName : e.key.name = name)
    (hNode : e.item.node = node)
    (part : α) :
    fields.readEntry part e = .ok (set value part) := by
  rcases e with ⟨⟨_, _⟩, ⟨span, _⟩⟩
  cases hName
  cases hNode
  rw [readEntry, hSetter]
  simp only [setter, hRead span]
  rfl

end Fields

theorem readWhole_integer
    {top n : Nat}
    (hWithin : n ≤ top)
    (expected : String)
    (span : Option Toml.Span) :
    readWhole top expected ⟨span, .integer n⟩ = .ok n := by
  have hBounds : (0 : Int) ≤ n ∧ (n : Int) ≤ top :=
    ⟨Int.natCast_nonneg n, Int.ofNat_le.mpr hWithin⟩
  rw [readWhole, if_pos hBounds, Int.toNat_natCast]

theorem readPolicy_name
    (policy : OverflowPolicy)
    (span : Option Toml.Span) :
    readPolicy ⟨span, .text policy.name⟩ = .ok policy := by
  cases policy with
  | _ => rfl

theorem readLevel_name
    (level : LogLevel)
    (span : Option Toml.Span) :
    readLevel ⟨span, .text level.name⟩ = .ok level := by
  cases level with
  | _ => rfl

------------------------------------------------------------
-- Framing
------------------------------------------------------------

namespace FramingConfig

/- The framing part, as it is written. -/
def part (c : FramingConfig) : Part where
  name := "framing"
  assignments :=
    [ .whole "max_packet_size" c.maxPacketSize.toNat,
      .whole "listen_backlog" c.listenBacklog.toNat,
      .word "overflow_policy" c.overflowPolicy.name ]

/- The framing part is written as its assignments are. -/
theorem toList_toToml (c : FramingConfig) :
    c.toToml.toList = c.part.text := by
  have hPolicy :
      Toml.writeString c.overflowPolicy.name.toList =
        '"' :: (c.overflowPolicy.name.toList ++ ['"']) := by
    cases c.overflowPolicy with
    | _ => decide
  rw [toToml]
  simp only [String.toList_append, Nat.toString_eq_repr,
    Nat.repr_eq_ofList_toDigits, String.toList_ofList,
    Part.text, Part.header, part, Assignment.whole,
    Assignment.word, Assignment.text, hPolicy,
    List.flatMap_cons, List.flatMap_nil, List.append_assoc,
    List.cons_append, List.nil_append, List.append_nil]
  rfl

/- Reading the assignments makes the part from any other. -/
theorem makes_part (c other : FramingConfig) :
    fields.Makes c.part.assignments other c := by
  have hSize (e : Entry)
      (hEntry :
        (Assignment.whole "max_packet_size"
          c.maxPacketSize.toNat).IsEntry e) :
      fields.readEntry other e =
        .ok
          { other with maxPacketSize := c.maxPacketSize } := by
    have hRead :=
      readWhole_integer
        (Nat.le_sub_one_of_lt c.maxPacketSize.toNat_lt) "usize"
    rw [Fields.readEntry_setter rfl hRead hEntry.1 hEntry.2,
      UInt64.ofNat_toNat]
  have hBacklog (other : FramingConfig) (e : Entry)
      (hEntry :
        (Assignment.whole "listen_backlog"
          c.listenBacklog.toNat).IsEntry e) :
      fields.readEntry other e =
        .ok
          { other with listenBacklog := c.listenBacklog } := by
    have hRead :=
      readWhole_integer
        (Nat.le_sub_one_of_lt c.listenBacklog.toNat_lt) "u32"
    rw [Fields.readEntry_setter rfl hRead hEntry.1 hEntry.2,
      UInt32.ofNat_toNat]
  have hPolicy (other : FramingConfig) (e : Entry)
      (hEntry :
        (Assignment.word "overflow_policy"
          c.overflowPolicy.name).IsEntry e) :
      fields.readEntry other e =
        .ok
          { other with overflowPolicy := c.overflowPolicy } := by
    have hRead := readPolicy_name c.overflowPolicy
    rw [Fields.readEntry_setter rfl hRead hEntry.1 hEntry.2]
  exact
    .cons hSize (.cons (hBacklog _) (.cons (hPolicy _) .nil))

end FramingConfig

------------------------------------------------------------
-- Logging
------------------------------------------------------------

namespace LoggingConfig

/- The logging part, as it is written. -/
def part (c : LoggingConfig) : Part where
  name := "logging"
  assignments :=
    [ .word "app_name" c.appName,
      .word "log_level" c.logLevel.name,
      .flag "json_format" c.jsonFormat ]

/- The logging part is written as its assignments are. -/
theorem toList_toToml (c : LoggingConfig) :
    c.toToml.toList = c.part.text := by
  have hLevel :
      Toml.writeString c.logLevel.name.toList =
        '"' :: (c.logLevel.name.toList ++ ['"']) := by
    cases c.logLevel with
    | _ => decide
  have hString (s : String) : toString s = s := rfl
  rw [toToml]
  simp only [String.toList_append, hString,
    String.toList_ofList, Part.text, Part.header, part,
    Assignment.word,
    Assignment.flag, Assignment.text, hLevel,
    List.flatMap_cons, List.flatMap_nil, List.append_assoc,
    List.cons_append, List.nil_append, List.append_nil]
  rfl

/- Reading the assignments makes the part from any other. -/
theorem makes_part (c other : LoggingConfig) :
    fields.Makes c.part.assignments other c := by
  have hName (e : Entry)
      (hEntry :
        (Assignment.word "app_name" c.appName).IsEntry e) :
      fields.readEntry other e =
        .ok { other with appName := c.appName } := by
    have hRead (span : Option Toml.Span) :
        readText ⟨span, .text c.appName⟩ = .ok c.appName :=
      rfl
    rw [Fields.readEntry_setter rfl hRead hEntry.1 hEntry.2]
  have hLevel (other : LoggingConfig) (e : Entry)
      (hEntry :
        (Assignment.word "log_level"
          c.logLevel.name).IsEntry e) :
      fields.readEntry other e =
        .ok { other with logLevel := c.logLevel } := by
    have hRead := readLevel_name c.logLevel
    rw [Fields.readEntry_setter rfl hRead hEntry.1 hEntry.2]
  have hFormat (other : LoggingConfig) (e : Entry)
      (hEntry :
        (Assignment.flag "json_format" c.jsonFormat).IsEntry
          e) :
      fields.readEntry other e =
        .ok { other with jsonFormat := c.jsonFormat } := by
    have hRead (span : Option Toml.Span) :
        readBoolean ⟨span, .boolean c.jsonFormat⟩ =
          .ok c.jsonFormat :=
      rfl
    rw [Fields.readEntry_setter rfl hRead hEntry.1 hEntry.2]
  exact .cons hName (.cons (hLevel _) (.cons (hFormat _) .nil))

end LoggingConfig

------------------------------------------------------------
-- Configurations
------------------------------------------------------------

namespace SocketConfig

/- The parts of a configuration, as they are written. -/
def parts (c : SocketConfig) : List Part :=
  [c.framing.part, c.logging.part]

/- A table of the parts gives the configuration. -/
theorem ofTable_of_isEntry
    {c : SocketConfig}
    {t : Table}
    (hEntries : List.Forall₂ Part.IsEntry c.parts t.entries) :
    ofTable t = .ok c := by
  have hFraming (other : SocketConfig) (e : Entry)
      (hEntry : c.framing.part.IsEntry e) :
      fields.readEntry other e =
        .ok { other with framing := c.framing } := by
    rcases hEntry with ⟨hName, inner, hNode, hEntries⟩
    have hRead (span : Option Toml.Span) :
        FramingConfig.fields.read ⟨span, .table inner⟩ {} =
          .ok c.framing :=
      (c.framing.makes_part {}).foldlM hEntries
    rw [Fields.readEntry_setter rfl hRead hName hNode]
  have hLogging (other : SocketConfig) (e : Entry)
      (hEntry : c.logging.part.IsEntry e) :
      fields.readEntry other e =
        .ok { other with logging := c.logging } := by
    rcases hEntry with ⟨hName, inner, hNode, hEntries⟩
    have hRead (span : Option Toml.Span) :
        LoggingConfig.fields.read ⟨span, .table inner⟩ {} =
          .ok c.logging :=
      (c.logging.makes_part {}).foldlM hEntries
    rw [Fields.readEntry_setter rfl hRead hName hNode]
  rw [ofTable]
  generalize t.entries = entries at hEntries ⊢
  cases hEntries with
  | cons hFirst hRest =>
    cases hRest with
    | cons hSecond hRest =>
      cases hRest
      rw [List.foldlM_cons, hFraming _ _ hFirst]
      change (fields.readEntry _ _).bind _ = _
      rw [hLogging _ _ hSecond]
      rfl

/- Every part is written as it has to be. -/
theorem isProper_parts
    {c : SocketConfig}
    (hFits : c.framing.maxPacketSize.toNat < Nat.pow 2 63) :
    ∀ part ∈ c.parts, part.IsProper := by
  have hBacklog :
      c.framing.listenBacklog.toNat < Nat.pow 2 63 :=
    Nat.lt_trans c.framing.listenBacklog.toNat_lt (by decide)
  have hFraming : c.framing.part.IsProper := by
    have hBare : Toml.IsBareName "framing" :=
      Toml.isBareName_of_all (by decide +kernel)
    refine ⟨hBare, ?_⟩
    simp only [FramingConfig.part, List.forall_mem_cons,
      List.not_mem_nil, false_implies, implies_true, and_true]
    refine
      ⟨Assignment.whole_isProper ?_ hFits,
        Assignment.whole_isProper ?_ hBacklog,
        Assignment.word_isProper ?_ _⟩
    · exact Toml.isBareName_of_all (by decide +kernel)
    · exact Toml.isBareName_of_all (by decide +kernel)
    · exact Toml.isBareName_of_all (by decide +kernel)
  have hLogging : c.logging.part.IsProper := by
    have hBare : Toml.IsBareName "logging" :=
      Toml.isBareName_of_all (by decide +kernel)
    refine ⟨hBare, ?_⟩
    simp only [LoggingConfig.part, List.forall_mem_cons,
      List.not_mem_nil, false_implies, implies_true, and_true]
    refine
      ⟨Assignment.word_isProper ?_ _,
        Assignment.word_isProper ?_ _,
        Assignment.flag_isProper ?_ _⟩
    · exact Toml.isBareName_of_all (by decide +kernel)
    · exact Toml.isBareName_of_all (by decide +kernel)
    · exact Toml.isBareName_of_all (by decide +kernel)
  intro part hMember
  rcases List.mem_cons.mp hMember with rfl | hMember
  · exact hFraming
  · cases List.mem_singleton.mp hMember
    exact hLogging

/- No key of a configuration is written twice. -/
theorem isDistinct_parts (c : SocketConfig) :
    Part.IsDistinct c.parts where
  names :=
    show ["framing", "logging"].Nodup by decide
  each := by
    simp only [parts, List.forall_mem_cons, List.not_mem_nil,
      false_implies, implies_true, and_true]
    constructor
    · change
        ["max_packet_size", "listen_backlog",
          "overflow_policy"].Nodup
      decide
    · change ["app_name", "log_level", "json_format"].Nodup
      decide

/- A configuration is written as the document of its parts. -/
theorem toList_document (c : SocketConfig) :
    (c.framing.toToml ++ "\n" ++ c.logging.toToml).toList =
      Toml.document c.parts := by
  simp only [String.toList_append, FramingConfig.toList_toToml,
    LoggingConfig.toList_toToml, List.append_assoc]
  rfl

/- A configuration that fits can be written. -/
theorem toToml_of_fits
    {c : SocketConfig}
    (hFits : c.framing.maxPacketSize.toNat < Nat.pow 2 63) :
    ∃ text,
      c.toToml = .ok text ∧
        text.toList = Toml.document c.parts := by
  refine ⟨_, ?_, c.toList_document⟩
  rw [toToml, if_neg (Nat.not_le.mpr hFits)]

/- What is written gives the configuration back. -/
theorem ofToml_of_toToml
    {c : SocketConfig}
    {text : String}
    (hText : c.toToml = .ok text) :
    ofToml text = .ok c := by
  have hFits :
      c.framing.maxPacketSize.toNat < Nat.pow 2 63 := by
    apply Nat.not_le.mp
    intro hOver
    rw [toToml, if_pos hOver] at hText
    cases hText
  rcases toToml_of_fits hFits with ⟨_, hWritten, hList⟩
  cases hText.symm.trans hWritten
  rcases Table.ofText?_document (isProper_parts hFits)
    c.isDistinct_parts with ⟨t, hTable, hEntries⟩
  simp only [ofToml, hList, hTable,
    ofTable_of_isEntry hEntries]

end SocketConfig

end FrameLink
