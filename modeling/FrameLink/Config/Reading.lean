import FrameLink.Config
import FrameLink.Toml.Diagnostic
import FrameLink.Toml.Document

/-
  Configuration from a document.

  A part of a configuration is given as a table whose keys are
  the names of its fields, or as an array of the values of its
  fields in their order.  What is not given keeps its default,
  and what is not known is passed over.

  A value of a choice is given by its name, or as a table with
  that name as its only key and nothing below it.

  The first value that does not fit makes the whole fail.  The
  failure is placed at the innermost value that has a place,
  or else at the key of that value.

  Key definitions include:
    * `Fields`, `Fields.read`
    * `readChoice`
    * `SocketConfig.ofTable`
    * `SocketConfig.ofToml`
-/

------------------------------------------------------------
-- Plain Values
------------------------------------------------------------

namespace FrameLink

open Toml (Item Entry Node Misfit)

/- A reader of the value of a field. -/
abbrev FieldReader (α : Type) := Item → Except Misfit α

/- A misfit where something else was expected. -/
def mismatched
    {α : Type}
    (item : Item)
    (expected : String) : Except Misfit α :=
  .error ⟨.wrongType item.node.found expected, item.span⟩

/- A whole number from zero up to a bound. -/
def readWhole
    (top : Nat)
    (expected : String) : FieldReader Nat
  | ⟨span, .integer n⟩ =>
      if 0 ≤ n ∧ n ≤ top then
        .ok n.toNat
      else
        .error ⟨.outOfRange (.integer n) expected, span⟩
  | item => mismatched item expected

/- A text. -/
def readText : FieldReader String
  | ⟨_, .text s⟩ => .ok s
  | item => mismatched item "a string"

/- A boolean. -/
def readBoolean : FieldReader Bool
  | ⟨_, .boolean b⟩ => .ok b
  | item => mismatched item "a boolean"

------------------------------------------------------------
-- Choices
------------------------------------------------------------

/- The member of a choice that has a given name. -/
def memberNamed
    {α : Type}
    (members : List (String × α))
    (name : String)
    (span : Option Toml.Span) : Except Misfit α :=
  match members.lookup name with
  | some a => .ok a
  | none =>
      .error ⟨.unknownVariant name (members.map Prod.fst), span⟩

/- Nothing may stand below the name of a member. -/
def checkEmpty (item : Item) : Except Misfit Unit :=
  match item.node with
  | .array [] => .ok ()
  | .array _ => .error ⟨.payload "empty table", item.span⟩
  | .table ⟨_, []⟩ => .ok ()
  | .table _ => .error ⟨.payload "empty table", item.span⟩
  | .tables [] => .ok ()
  | .tables _ => .error ⟨.payload "empty array", item.span⟩
  | node => .error ⟨.payloadKind node.typeName, item.span⟩

/- A member of a choice. -/
def readChoice
    {α : Type}
    (members : List (String × α)) : FieldReader α
  | ⟨span, .text name⟩ => memberNamed members name span
  | ⟨span, .table ⟨_, []⟩⟩ => .error ⟨.noElement, span⟩
  | ⟨span, .table ⟨_, [entry]⟩⟩ => do
      let a ←
        memberNamed members entry.key.name entry.key.span
      match checkEmpty entry.item with
      | .ok _ => .ok a
      | .error m => .error (m.placedAt span)
  | ⟨span, .table _⟩ => .error ⟨.manyElements, span⟩
  | ⟨span, _⟩ => .error ⟨.neitherTextNorTable, span⟩

/- A policy. -/
def readPolicy : FieldReader OverflowPolicy :=
  readChoice (OverflowPolicy.all.map (fun p => (p.name, p)))

/- A level. -/
def readLevel : FieldReader LogLevel :=
  readChoice (LogLevel.all.map (fun l => (l.name, l)))

------------------------------------------------------------
-- Parts
------------------------------------------------------------

/-
  The fields of a part of a configuration, in their order:
  under each name, how its value changes the part.
-/
structure Fields (α : Type) where
  /- What a message calls the part. -/
  title : String
  setters : List (String × (Item → α → Except Misfit α))

namespace Fields

variable {α : Type}

/- A field by its name, its reader, and its place. -/
def setter
    {β : Type}
    (read : FieldReader β)
    (set : β → α → α)
    (item : Item)
    (part : α) : Except Misfit α :=
  (read item).map (fun b => set b part)

/- Let one entry of a table change a part. -/
def readEntry
    (fields : Fields α)
    (part : α)
    (entry : Entry) : Except Misfit α :=
  match fields.setters.lookup entry.key.name with
  | none => .ok part
  | some set =>
      (set entry.item part).mapError
        (·.placedAt (entry.item.span.or entry.key.span))

/- Let the values of an array change a part in order. -/
def readItems :
    List (String × (Item → α → Except Misfit α)) →
      List Item → α → Except Misfit α
  | (_, set) :: setters, item :: items, part =>
      match (set item part).mapError (·.placedAt item.span) with
      | .ok part => readItems setters items part
      | .error m => .error m
  | _, _, part => .ok part

/- Let an item change a part. -/
def read
    (fields : Fields α)
    (item : Item)
    (part : α) : Except Misfit α :=
  match item.node with
  | .table t => t.entries.foldlM fields.readEntry part
  | .dateTime => .ok part
  | .array items => readItems fields.setters items part
  | .tables items => readItems fields.setters items part
  | _ => mismatched item fields.title

end Fields

------------------------------------------------------------
-- Configurations
------------------------------------------------------------

namespace FramingConfig

/- The fields of the framing part. -/
def fields : Fields FramingConfig where
  title := "struct FramingConfig"
  setters :=
    [ ("max_packet_size",
        Fields.setter (readWhole (UInt64.size - 1) "usize")
          (fun n c => { c with maxPacketSize := .ofNat n })),
      ("listen_backlog",
        Fields.setter (readWhole (UInt32.size - 1) "u32")
          (fun n c => { c with listenBacklog := .ofNat n })),
      ("overflow_policy",
        Fields.setter readPolicy
          (fun p c => { c with overflowPolicy := p })) ]

end FramingConfig

namespace LoggingConfig

/- The fields of the logging part. -/
def fields : Fields LoggingConfig where
  title := "struct LoggingConfig"
  setters :=
    [ ("app_name",
        Fields.setter readText
          (fun s c => { c with appName := s })),
      ("log_level",
        Fields.setter readLevel
          (fun l c => { c with logLevel := l })),
      ("json_format",
        Fields.setter readBoolean
          (fun b c => { c with jsonFormat := b })) ]

end LoggingConfig

namespace SocketConfig

/- The parts of a configuration. -/
def fields : Fields SocketConfig where
  title := "struct SocketConfig"
  setters :=
    [ ("framing",
        Fields.setter
          (fun item => FramingConfig.fields.read item {})
          (fun part c => { c with framing := part })),
      ("logging",
        Fields.setter
          (fun item => LoggingConfig.fields.read item {})
          (fun part c => { c with logging := part })) ]

/- The configuration that the table of a document gives. -/
def ofTable (t : Toml.Table) : Except Misfit SocketConfig :=
  t.entries.foldlM fields.readEntry {}

/- A document cannot be read, for a given reason. -/
def unreadable (reason : String) : SocketError :=
  .configError ("Failed to parse TOML: " ++ reason)

/- The configuration that a document gives. -/
def ofToml (text : String) : Except SocketError SocketConfig :=
  let document := text.toList
  match Toml.Table.ofText? document with
  | none => .error (unreadable "<syntax error>")
  | some table =>
      match ofTable table with
      | .ok c => .ok c
      | .error m => .error (unreadable (m.message document))

end SocketConfig

end FrameLink
