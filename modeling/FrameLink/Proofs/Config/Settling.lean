import FrameLink.Proofs.Config.Documents
import FrameLink.Proofs.Toml.Given

/-
  What is given settles a part of a configuration.

  Reading the entries of a table takes over one field after
  the other, by their keys.  So in the end each field is what
  is given for it, and a field for which nothing is given has
  its default (`FramingConfig.IsSettled.foldlM`,
  `LoggingConfig.IsSettled.foldlM`).  Keys that are not known
  change nothing.

  Key definitions include:
    * `Settles`
    * `FramingConfig.IsSettled`, `FramingConfig.adopt`
    * `LoggingConfig.IsSettled`, `LoggingConfig.adopt`
-/

------------------------------------------------------------
-- Fields
------------------------------------------------------------

namespace FrameLink

open Toml (Assignment Entry Node Part Table)

/- A value is what is given for it, or else the standard. -/
def Settles
    {β : Type}
    (given : Option Node)
    (node : β → Node)
    (standard value : β) : Prop :=
  match given with
  | some n => n = node value
  | none => value = standard

/- A choice with a standard settles a value. -/
theorem settles_of_given
    {β : Type}
    {given : Option Node}
    {node : β → Node}
    {choice : Option β}
    (hGiven : given = choice.map node)
    (standard : β) :
    Settles given node standard (choice.getD standard) := by
  subst hGiven
  cases choice with
  | none => exact rfl
  | some _ => exact rfl

namespace Fields

variable {α ι : Type}

/- What each entry does to a part, all of them do in turn. -/
theorem foldlM_of_adopts
    {fields : Fields α}
    {tells : ι → Entry → Prop}
    {name : ι → String}
    {adopt : String → α → α}
    {items : List ι}
    {entries : List Entry}
    (hEntries : List.Forall₂ tells items entries)
    (hAdopts :
      ∀ item ∈ items, ∀ e, tells item e → ∀ part,
        fields.readEntry part e =
          .ok (adopt (name item) part))
    (part : α) :
    entries.foldlM fields.readEntry part =
      .ok
        ((items.map name).foldl
          (fun part key => adopt key part) part) := by
  induction hEntries generalizing part with
  | nil => rfl
  | cons hFirst _ ih =>
      rw [List.foldlM_cons,
        hAdopts _ List.mem_cons_self _ hFirst]
      apply ih
      intro item hMember
      exact hAdopts item (List.mem_cons_of_mem _ hMember)

/-
  A field that only its own key changes has its value in the
  end, unless it keeps the value from the start.
-/
theorem get_foldl
    {β : Type}
    (adopt : String → α → α)
    (get : α → β)
    (key : String)
    {value : β}
    {names : List String}
    {part : α}
    (hOwn : ∀ part, get (adopt key part) = value)
    (hOther :
      ∀ other part,
        other ≠ key → get (adopt other part) = get part)
    (hStandard : key ∉ names → value = get part) :
    get (names.foldl (fun part key => adopt key part) part) =
      value := by
  induction names generalizing part with
  | nil => exact (hStandard List.not_mem_nil).symm
  | cons other names ih =>
      apply ih
      intro hLater
      by_cases hSame : other = key
      · subst hSame
        exact (hOwn part).symm
      · rw [hOther other part hSame]
        apply hStandard
        rw [List.mem_cons, not_or]
        exact ⟨Ne.symm hSame, hLater⟩

theorem get_of_settles
    {β : Type}
    (adopt : String → α → α)
    (get : α → β)
    (key : String)
    {value : β}
    {assignments : List Assignment}
    {node : β → Node}
    {part : α}
    (hOwn : ∀ part, get (adopt key part) = value)
    (hOther :
      ∀ other part,
        other ≠ key → get (adopt other part) = get part)
    (hSettles :
      Settles (Assignment.given? assignments key) node
        (get part) value) :
    get
        ((assignments.map Assignment.name).foldl
          (fun part key => adopt key part) part) =
      value := by
  refine get_foldl adopt get key hOwn hOther (fun hNone => ?_)
  rw [Assignment.given?, Toml.find?_of_notMem hNone] at hSettles
  exact hSettles

/- A key that is not known changes nothing. -/
theorem readEntry_unknown
    {fields : Fields α}
    {e : Entry}
    (hUnknown : e.key.name ∉ fields.setters.map Prod.fst)
    (part : α) :
    fields.readEntry part e = .ok part := by
  have hNone :
      fields.setters.lookup e.key.name = none := by
    rw [List.lookup_eq_none_iff]
    intro field hMember
    rw [bne_iff_ne]
    rintro hSame
    apply hUnknown
    rw [hSame]
    exact List.mem_map_of_mem hMember
  rw [readEntry, hNone]

/- A value that its field refuses is refused. -/
theorem readEntry_refused
    {β : Type}
    {fields : Fields α}
    {name : String}
    {read : FieldReader β}
    {set : β → α → α}
    {node : Node}
    (hSetter :
      fields.setters.lookup name = some (setter read set))
    (hRead : ∀ span, ∃ m, read ⟨span, node⟩ = .error m)
    {e : Entry}
    (hName : e.key.name = name)
    (hNode : e.item.node = node)
    (part : α) :
    ∃ m, fields.readEntry part e = .error m := by
  rcases e with ⟨⟨_, _⟩, ⟨span, _⟩⟩
  cases hName
  cases hNode
  rcases hRead span with ⟨m, hRead⟩
  rw [readEntry, hSetter]
  simp only [setter, hRead]
  exact ⟨_, rfl⟩

/- One entry that is refused makes the whole refused. -/
theorem foldlM_refused
    {fields : Fields α}
    {entries : List Entry}
    {e : Entry}
    (hMember : e ∈ entries)
    (hRefused :
      ∀ part, ∃ m, fields.readEntry part e = .error m)
    (part : α) :
    ∃ m, entries.foldlM fields.readEntry part = .error m := by
  induction entries generalizing part with
  | nil => cases hMember
  | cons other entries ih =>
      rw [List.foldlM_cons]
      cases hOther : fields.readEntry part other with
      | error m => exact ⟨m, rfl⟩
      | ok next =>
          rcases List.mem_cons.mp hMember with rfl | hLater
          · rcases hRefused part with ⟨m, hError⟩
            rw [hOther] at hError
            cases hError
          · exact ih hLater next

theorem refused_of_given
    {β : Type}
    (fields : Fields α)
    {name : String}
    {read : FieldReader β}
    {set : β → α → α}
    {node : Node}
    {assignments : List Assignment}
    {entries : List Entry}
    (hSetter :
      fields.setters.lookup name = some (setter read set))
    (hRead : ∀ span, ∃ m, read ⟨span, node⟩ = .error m)
    (hEntries :
      List.Forall₂ Assignment.IsEntry assignments entries)
    (hGiven :
      Assignment.given? assignments name = some node)
    (part : α) :
    ∃ m, entries.foldlM fields.readEntry part = .error m := by
  rcases Toml.exists_entry_of_given? hEntries hGiven with
    ⟨e, hMember, hName, hNode⟩
  have hRefused := readEntry_refused hSetter hRead hName hNode
  exact foldlM_refused hMember hRefused part

end Fields

theorem readWhole_refused
    {size : Nat}
    {n : Int}
    (hSize : 0 < size)
    (hOutside : n < 0 ∨ size ≤ n)
    (expected : String)
    (span : Option Toml.Span) :
    ∃ m,
      readWhole (size - 1) expected ⟨span, .integer n⟩ =
        .error m := by
  have hBounds : ¬(0 ≤ n ∧ n ≤ (size - 1 : Nat)) := by omega
  rw [readWhole, if_neg hBounds]
  exact ⟨_, rfl⟩

------------------------------------------------------------
-- Framing
------------------------------------------------------------

namespace FramingConfig

/- Each field is what is given for it, or its default. -/
structure IsSettled
    (c : FramingConfig)
    (given? : String → Option Node) : Prop where
  maxPacketSize :
    Settles (given? "max_packet_size")
      (fun n : UInt64 => .integer n.toNat)
      ({} : FramingConfig).maxPacketSize c.maxPacketSize
  listenBacklog :
    Settles (given? "listen_backlog")
      (fun n : UInt32 => .integer n.toNat)
      ({} : FramingConfig).listenBacklog c.listenBacklog
  overflowPolicy :
    Settles (given? "overflow_policy")
      (fun p : OverflowPolicy => .text p.name)
      ({} : FramingConfig).overflowPolicy c.overflowPolicy

/- Take over the field with a given key. -/
def adopt
    (c : FramingConfig)
    (key : String)
    (part : FramingConfig) : FramingConfig where
  maxPacketSize :=
    if key = "max_packet_size" then
      c.maxPacketSize
    else
      part.maxPacketSize
  listenBacklog :=
    if key = "listen_backlog" then
      c.listenBacklog
    else
      part.listenBacklog
  overflowPolicy :=
    if key = "overflow_policy" then
      c.overflowPolicy
    else
      part.overflowPolicy

/- A framing part is its fields. -/
theorem eq_of_fields
    {c other : FramingConfig}
    (hSize : c.maxPacketSize = other.maxPacketSize)
    (hBacklog : c.listenBacklog = other.listenBacklog)
    (hPolicy : c.overflowPolicy = other.overflowPolicy) :
    c = other := by
  cases c
  cases other
  cases hSize
  cases hBacklog
  cases hPolicy
  rfl

/- Where nothing is given, the default is settled. -/
theorem IsSettled.eq_default
    {c : FramingConfig}
    {given? : String → Option Node}
    (hSettled : c.IsSettled given?)
    (hNone : ∀ key, given? key = none) :
    c = {} := by
  have hSize := hSettled.maxPacketSize
  have hBacklog := hSettled.listenBacklog
  have hPolicy := hSettled.overflowPolicy
  rw [hNone] at hSize hBacklog hPolicy
  exact eq_of_fields hSize hBacklog hPolicy

section

variable {c : FramingConfig} {assignments : List Assignment}

/- Reading what is given takes that field over. -/
theorem IsSettled.readEntry
    {a : Assignment}
    {e : Entry}
    (hSettled : c.IsSettled (Assignment.given? assignments))
    (hNames : (assignments.map Assignment.name).Nodup)
    (hMember : a ∈ assignments)
    (hEntry : a.IsEntry e)
    (part : FramingConfig) :
    fields.readEntry part e = .ok (c.adopt a.name part) := by
  have hGiven := Assignment.given?_of_mem hNames hMember
  by_cases hSize : a.name = "max_packet_size"
  · have hNode := hSettled.maxPacketSize
    rw [← hSize, hGiven] at hNode
    have hRead :=
      readWhole_integer
        (Nat.le_sub_one_of_lt c.maxPacketSize.toNat_lt) "usize"
    rw [Fields.readEntry_setter rfl hRead
        (hEntry.1.trans hSize) (hEntry.2.trans hNode),
      UInt64.ofNat_toNat]
    simp [adopt, hSize]
  · by_cases hBacklog : a.name = "listen_backlog"
    · have hNode := hSettled.listenBacklog
      rw [← hBacklog, hGiven] at hNode
      have hRead :=
        readWhole_integer
          (Nat.le_sub_one_of_lt c.listenBacklog.toNat_lt) "u32"
      rw [Fields.readEntry_setter rfl hRead
          (hEntry.1.trans hBacklog) (hEntry.2.trans hNode),
        UInt32.ofNat_toNat]
      simp [adopt, hBacklog]
    · by_cases hPolicy : a.name = "overflow_policy"
      · have hNode := hSettled.overflowPolicy
        rw [← hPolicy, hGiven] at hNode
        rw [Fields.readEntry_setter rfl
            (readPolicy_name c.overflowPolicy)
            (hEntry.1.trans hPolicy) (hEntry.2.trans hNode)]
        simp [adopt, hPolicy]
      · rw [Fields.readEntry_unknown]
        · simp [adopt, hSize, hBacklog, hPolicy]
        · rw [hEntry.1]
          simp [fields, hSize, hBacklog, hPolicy]

/- Reading all that is given makes the settled part. -/
theorem IsSettled.foldlM
    {entries : List Entry}
    (hSettled : c.IsSettled (Assignment.given? assignments))
    (hNames : (assignments.map Assignment.name).Nodup)
    (hEntries :
      List.Forall₂ Assignment.IsEntry assignments entries) :
    entries.foldlM fields.readEntry {} = .ok c := by
  rw [Fields.foldlM_of_adopts hEntries
    (fun a hMember e hEntry part =>
      hSettled.readEntry hNames hMember hEntry part)]
  refine congrArg Except.ok (eq_of_fields ?_ ?_ ?_)
  · exact
      Fields.get_of_settles c.adopt (·.maxPacketSize)
        "max_packet_size" (fun _ => rfl)
        (fun _ _ hOther => if_neg hOther)
        hSettled.maxPacketSize
  · exact
      Fields.get_of_settles c.adopt (·.listenBacklog)
        "listen_backlog" (fun _ => rfl)
        (fun _ _ hOther => if_neg hOther)
        hSettled.listenBacklog
  · exact
      Fields.get_of_settles c.adopt (·.overflowPolicy)
        "overflow_policy" (fun _ => rfl)
        (fun _ _ hOther => if_neg hOther)
        hSettled.overflowPolicy

/- A number that a field cannot hold makes all refused. -/
theorem foldlM_refused
    {entries : List Entry}
    {n : Int}
    (hEntries :
      List.Forall₂ Assignment.IsEntry assignments entries)
    (hOutside :
      (Assignment.given? assignments "max_packet_size" =
          some (.integer n) ∧
        (n < 0 ∨ UInt64.size ≤ n)) ∨
      (Assignment.given? assignments "listen_backlog" =
          some (.integer n) ∧
        (n < 0 ∨ UInt32.size ≤ n))) :
    ∃ m, entries.foldlM fields.readEntry {} = .error m := by
  rcases hOutside with ⟨hGiven, hOutside⟩ | ⟨hGiven, hOutside⟩
  · have hRefused :=
      readWhole_refused (by decide) hOutside "usize"
    exact
      fields.refused_of_given rfl hRefused hEntries hGiven {}
  · have hRefused :=
      readWhole_refused (by decide) hOutside "u32"
    exact
      fields.refused_of_given rfl hRefused hEntries hGiven {}

end

end FramingConfig

------------------------------------------------------------
-- Logging
------------------------------------------------------------

namespace LoggingConfig

/- Each field is what is given for it, or its default. -/
structure IsSettled
    (c : LoggingConfig)
    (given? : String → Option Node) : Prop where
  appName :
    Settles (given? "app_name") .text
      ({} : LoggingConfig).appName c.appName
  logLevel :
    Settles (given? "log_level")
      (fun l : LogLevel => .text l.name)
      ({} : LoggingConfig).logLevel c.logLevel
  jsonFormat :
    Settles (given? "json_format") .boolean
      ({} : LoggingConfig).jsonFormat c.jsonFormat

/- Take over the field with a given key. -/
def adopt
    (c : LoggingConfig)
    (key : String)
    (part : LoggingConfig) : LoggingConfig where
  appName :=
    if key = "app_name" then c.appName else part.appName
  logLevel :=
    if key = "log_level" then c.logLevel else part.logLevel
  jsonFormat :=
    if key = "json_format" then
      c.jsonFormat
    else
      part.jsonFormat

/- A logging part is its fields. -/
theorem eq_of_fields
    {c other : LoggingConfig}
    (hName : c.appName = other.appName)
    (hLevel : c.logLevel = other.logLevel)
    (hFormat : c.jsonFormat = other.jsonFormat) :
    c = other := by
  cases c
  cases other
  cases hName
  cases hLevel
  cases hFormat
  rfl

/- Where nothing is given, the default is settled. -/
theorem IsSettled.eq_default
    {c : LoggingConfig}
    {given? : String → Option Node}
    (hSettled : c.IsSettled given?)
    (hNone : ∀ key, given? key = none) :
    c = {} := by
  have hName := hSettled.appName
  have hLevel := hSettled.logLevel
  have hFormat := hSettled.jsonFormat
  rw [hNone] at hName hLevel hFormat
  exact eq_of_fields hName hLevel hFormat

section

variable {c : LoggingConfig} {assignments : List Assignment}

/- Reading what is given takes that field over. -/
theorem IsSettled.readEntry
    {a : Assignment}
    {e : Entry}
    (hSettled : c.IsSettled (Assignment.given? assignments))
    (hNames : (assignments.map Assignment.name).Nodup)
    (hMember : a ∈ assignments)
    (hEntry : a.IsEntry e)
    (part : LoggingConfig) :
    fields.readEntry part e = .ok (c.adopt a.name part) := by
  have hGiven := Assignment.given?_of_mem hNames hMember
  by_cases hName : a.name = "app_name"
  · have hNode := hSettled.appName
    rw [← hName, hGiven] at hNode
    have hRead (span : Option Toml.Span) :
        readText ⟨span, .text c.appName⟩ = .ok c.appName :=
      rfl
    rw [Fields.readEntry_setter rfl hRead
      (hEntry.1.trans hName) (hEntry.2.trans hNode)]
    simp [adopt, hName]
  · by_cases hLevel : a.name = "log_level"
    · have hNode := hSettled.logLevel
      rw [← hLevel, hGiven] at hNode
      rw [Fields.readEntry_setter rfl
        (readLevel_name c.logLevel)
        (hEntry.1.trans hLevel) (hEntry.2.trans hNode)]
      simp [adopt, hLevel]
    · by_cases hFormat : a.name = "json_format"
      · have hNode := hSettled.jsonFormat
        rw [← hFormat, hGiven] at hNode
        have hRead (span : Option Toml.Span) :
            readBoolean ⟨span, .boolean c.jsonFormat⟩ =
              .ok c.jsonFormat :=
          rfl
        rw [Fields.readEntry_setter rfl hRead
          (hEntry.1.trans hFormat) (hEntry.2.trans hNode)]
        simp [adopt, hFormat]
      · rw [Fields.readEntry_unknown]
        · simp [adopt, hName, hLevel, hFormat]
        · rw [hEntry.1]
          simp [fields, hName, hLevel, hFormat]

/- Reading all that is given makes the settled part. -/
theorem IsSettled.foldlM
    {entries : List Entry}
    (hSettled : c.IsSettled (Assignment.given? assignments))
    (hNames : (assignments.map Assignment.name).Nodup)
    (hEntries :
      List.Forall₂ Assignment.IsEntry assignments entries) :
    entries.foldlM fields.readEntry {} = .ok c := by
  rw [Fields.foldlM_of_adopts hEntries
    (fun a hMember e hEntry part =>
      hSettled.readEntry hNames hMember hEntry part)]
  refine congrArg Except.ok (eq_of_fields ?_ ?_ ?_)
  · exact
      Fields.get_of_settles c.adopt (·.appName) "app_name"
        (fun _ => rfl) (fun _ _ hOther => if_neg hOther)
        hSettled.appName
  · exact
      Fields.get_of_settles c.adopt (·.logLevel) "log_level"
        (fun _ => rfl) (fun _ _ hOther => if_neg hOther)
        hSettled.logLevel
  · exact
      Fields.get_of_settles c.adopt (·.jsonFormat) "json_format"
        (fun _ => rfl) (fun _ _ hOther => if_neg hOther)
        hSettled.jsonFormat

end

end LoggingConfig

end FrameLink
