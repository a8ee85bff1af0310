import FrameLink.Binary64.Shortest
import FrameLink.Mismatch

/-
  Documents of tables, keys and values.

  A document is a table: keys with what they stand for, in the
  order in which they were given.  A table is written under a
  header, or between braces, or it is there because a longer
  key runs through it.

  What is written somewhere has a span.  A span is counted
  from the end of the document: it says how many characters
  are left where it starts and where it ends.  So the span of
  a value does not depend on what precedes it.

  Key definitions include:
    * `Toml.Span`, `Toml.Key`
    * `Toml.Node`, `Toml.Item`, `Toml.Entry`, `Toml.Table`
    * `Toml.Node.found`
-/

------------------------------------------------------------
-- Spans and Keys
------------------------------------------------------------

namespace FrameLink

namespace Toml

/- How much of the document is left at start and end. -/
structure Span where
  start : Nat
  stop : Nat
  deriving DecidableEq

/- The span between two rests of a document. -/
def spanOf (start stop : List Char) : Span :=
  ⟨start.length, stop.length⟩

/- One part of a key, and where it is written. -/
structure Key where
  name : String
  span : Span
  deriving DecidableEq

------------------------------------------------------------
-- Nodes
------------------------------------------------------------

/- How a table came to be. -/
inductive TableForm where
  /- Under a header of its own, or as the document. -/
  | headed
  /- A header runs through it to a table inside. -/
  | passed
  /- A dotted key runs through it. -/
  | dotted
  /- Between braces; nothing can be added to it. -/
  | inline
  deriving DecidableEq

mutual

/- What a key stands for. -/
inductive Node where
  | text (value : String)
  | integer (value : Int)
  | decimal (value : Binary64)
  | boolean (value : Bool)
  | dateTime
  | array (items : List Item)
  | table (table : Table)
  /- Tables under repeated headers. -/
  | tables (elements : List Item)

/- A node, with its span if it is written somewhere. -/
structure Item where
  span : Option Span
  node : Node

/- A key with what it stands for. -/
structure Entry where
  key : Key
  item : Item

/- Entries in the order of their keys' first mention. -/
structure Table where
  form : TableForm
  entries : List Entry

end

namespace Table

/- A table without entries. -/
def empty (form : TableForm) : Table :=
  ⟨form, []⟩

/- What a key of a table stands for. -/
def find? (t : Table) (name : String) : Option Item :=
  (t.entries.find? (·.key.name = name)).map Entry.item

/- Put an entry behind the others. -/
def push (t : Table) (key : Key) (item : Item) : Table :=
  { t with entries := t.entries ++ [⟨key, item⟩] }

/- Let a key stand for something else, in its old place. -/
def replace
    (t : Table)
    (name : String)
    (item : Item) : Table :=
  { t with
    entries :=
      t.entries.map
        (fun e =>
          if e.key.name = name then { e with item } else e) }

/- Take a key out. -/
def erase (t : Table) (name : String) : Table :=
  { t with
    entries := t.entries.filter (·.key.name != name) }

end Table

------------------------------------------------------------
-- Names of Nodes
------------------------------------------------------------

namespace Node

/- How a message names a node that does not fit. -/
def found : Node → Found
  | .text value => .text value
  | .integer value => .integer value
  | .decimal value => .decimal value.toText
  | .boolean value => .boolean value
  | .dateTime => .map
  | .array _ => .sequence
  | .table _ => .map
  | .tables _ => .sequence

/- The name of the type of a node. -/
def typeName : Node → String
  | .text _ => "string"
  | .integer _ => "integer"
  | .decimal _ => "float"
  | .boolean _ => "boolean"
  | .dateTime => "datetime"
  | .array _ => "array"
  | .table _ => "table"
  | .tables _ => "array of tables"

end Node

end Toml

end FrameLink
