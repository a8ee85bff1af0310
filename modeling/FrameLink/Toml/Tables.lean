import FrameLink.Toml.Node

/-
  Building the tables of a document.

  A pair adds a value to a table, and the parts of its key but
  the last lead through tables inside.  These may come to be
  on the way.  A dotted key does not lead into a table that
  has a header or braces of its own, and does not end in one
  that only headers run through.

  A section is a header with the pairs below it.  Its header
  may lead through any table, and through the last of repeated
  ones.  A table is given only once, but one that headers have
  run through can still be given a header of its own; it then
  moves behind the other entries.

  Key definitions include:
    * `Toml.Pair`, `Toml.Section`
    * `Toml.Table.within?`
    * `Toml.Table.addPairs?`
    * `Toml.Table.addSection?`
    * `Toml.Table.ofSections?`
-/

------------------------------------------------------------
-- Pairs and Sections
------------------------------------------------------------

namespace FrameLink

namespace Toml

/- A value under a key. -/
structure Pair where
  path : List Key
  key : Key
  item : Item

/- A header with the pairs below it. -/
structure Section where
  /- The header stands between double brackets. -/
  repeated : Bool
  path : List Key
  key : Key
  /- The span of the header. -/
  span : Span
  pairs : List Pair

/- The span of a section, from its header to its last value. -/
def Section.extent (s : Section) : Span :=
  match s.pairs.getLast?.bind (·.item.span) with
  | some last => ⟨s.span.start, last.stop⟩
  | none => s.span

namespace Table

------------------------------------------------------------
-- Tables Inside
------------------------------------------------------------

/- A dotted key may lead into the table. -/
def admitsDotted (t : Table) : Bool :=
  t.form = .passed ∨ t.form = .dotted

/- A header may lead into the table. -/
def admitsHeader (t : Table) : Bool :=
  t.form ≠ .inline

/-
  Change a table inside, to which a path leads, by a change
  that may fail.  Tables that are missing on the path come to
  be, in the form that the kind of path gives them.
-/
def within?
    (dotted : Bool)
    (change : Table → Option Table) :
    List Key → Table → Option Table
  | [], t => change t
  | key :: path, t =>
      let admits (inner : Table) : Bool :=
        if dotted then
          inner.admitsDotted
        else
          inner.admitsHeader
      match t.find? key.name with
      | none =>
          let form : TableForm :=
            if dotted then .dotted else .passed
          match within? dotted change path (empty form) with
          | some inner =>
              some (t.push key ⟨none, .table inner⟩)
          | none => none
      | some ⟨span, .table inner⟩ =>
          if admits inner then
            match within? dotted change path inner with
            | some inner =>
                some (t.replace key.name ⟨span, .table inner⟩)
            | none => none
          else
            none
      | some ⟨span, .tables elements⟩ =>
          match elements.getLast? with
          | some ⟨last, .table inner⟩ =>
              match within? dotted change path inner with
              | some inner =>
                  let elements :=
                    elements.dropLast ++ [⟨last, .table inner⟩]
                  some
                    (t.replace key.name
                      ⟨span, .tables elements⟩)
              | none => none
          | _ => none
      | some _ => none

------------------------------------------------------------
-- Adding Pairs
------------------------------------------------------------

/- Add a value, if the key is new. -/
def insert?
    (key : Key)
    (item : Item)
    (t : Table) : Option Table :=
  match t.find? key.name with
  | some _ => none
  | none => some (t.push key item)

/- Add a value at the end of a dotted key. -/
def insertDotted?
    (key : Key)
    (item : Item)
    (t : Table) : Option Table :=
  if t.form = .dotted then insert? key item t else none

/- Add a pair. -/
def addPair? (t : Table) (pair : Pair) : Option Table :=
  match pair.path with
  | [] => insert? pair.key pair.item t
  | path =>
      within? true (insertDotted? pair.key pair.item) path t

/- Add pairs, one after the other. -/
def addPairs?
    (t : Table)
    (pairs : List Pair) : Option Table :=
  pairs.foldlM addPair? t

------------------------------------------------------------
-- Adding Sections
------------------------------------------------------------

/- The span from the first of some items to the last. -/
def spanAcross (items : List Item) : Option Span :=
  match items.head?.bind Item.span,
      items.getLast?.bind Item.span with
  | some first, some last => some ⟨first.start, last.stop⟩
  | _, _ => none

/-
  The table that a header gives itself: a new one, or one that
  headers have only run through.
-/
def opened? (t : Table) (key : Key) : Option Table :=
  match t.find? key.name with
  | none => some (empty .headed)
  | some ⟨_, .table inner⟩ =>
      if inner.form = .passed then
        some { inner with form := .headed }
      else
        none
  | some _ => none

/- Add a table under a header of its own. -/
def addHeaded?
    (s : Section)
    (t : Table) : Option Table := do
  let inner ← (← t.opened? s.key).addPairs? s.pairs
  return (t.erase s.key.name).push s.key
    ⟨some s.extent, .table inner⟩

/- Add one more table under a repeated header. -/
def addRepeated?
    (s : Section)
    (t : Table) : Option Table := do
  let inner ← (empty .headed).addPairs? s.pairs
  let item : Item := ⟨some s.extent, .table inner⟩
  match t.find? s.key.name with
  | none => some (t.push s.key ⟨item.span, .tables [item]⟩)
  | some ⟨_, .tables elements⟩ =>
      let elements := elements ++ [item]
      some
        (t.replace s.key.name
          ⟨spanAcross elements, .tables elements⟩)
  | some _ => none

/- Add a section. -/
def addSection? (t : Table) (s : Section) : Option Table :=
  if s.repeated then
    within? false (addRepeated? s) s.path t
  else
    within? false (addHeaded? s) s.path t

/- The table of a document. -/
def ofSections?
    (pairs : List Pair)
    (sections : List Section) : Option Table := do
  let root ← (empty .headed).addPairs? pairs
  sections.foldlM addSection? root

end Table

end Toml

end FrameLink
