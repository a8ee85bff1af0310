import FrameLink.Toml.Document

/-
  The whole numbers of a document.

  Whatever is read from a document, every whole number in it
  has 64 bits with a sign (`Toml.Table.fits_of_ofText?`).
  Numbers are bounded where they are read, and building tables
  only moves values around.

  Key definitions include:
    * `Toml.Node.Fits`
    * `Toml.Table.Fits`
-/

------------------------------------------------------------
-- Nodes
------------------------------------------------------------

namespace FrameLink

namespace Toml

/- Every whole number below the node has 64 bits. -/
inductive Node.Fits : Node → Prop where
  | text (s : String) : Fits (.text s)
  | integer
      {n : Int}
      (hLeast : -((Nat.pow 2 63 : Nat) : Int) ≤ n)
      (hMost : n < ((Nat.pow 2 63 : Nat) : Int)) :
      Fits (.integer n)
  | decimal (x : Binary64) : Fits (.decimal x)
  | boolean (b : Bool) : Fits (.boolean b)
  | dateTime : Fits .dateTime
  | array
      {items : List Item}
      (hItems : ∀ item ∈ items, Fits item.node) :
      Fits (.array items)
  | table
      {t : Table}
      (hEntries : ∀ e ∈ t.entries, Fits e.item.node) :
      Fits (.table t)
  | tables
      {items : List Item}
      (hItems : ∀ item ∈ items, Fits item.node) :
      Fits (.tables items)

/- Every whole number in the table has 64 bits. -/
def Table.Fits (t : Table) : Prop :=
  ∀ e ∈ t.entries, e.item.node.Fits

/- What a reader of values yields has numbers of 64 bits. -/
def ItemReader.Fits (read : ItemReader) : Prop :=
  ∀ cs item rest,
    read cs = some (item, rest) → item.node.Fits

------------------------------------------------------------
-- Numbers
------------------------------------------------------------

/- A whole number is yielded within its bounds only. -/
theorem fits_of_integerOfDigits?
    {negative : Bool}
    {base : Nat}
    {digits : List Nat}
    {node : Node}
    (hRead :
      integerOfDigits? negative base digits = some node) :
    node.Fits := by
  unfold integerOfDigits? integerOf? at hRead
  dsimp only at hRead
  generalize Text.numberOf base _ = n at hRead
  split at hRead
  · cases hRead
  · split at hRead
    · split at hRead
      · rename_i hMost
        cases hRead
        exact
          .integer (Int.neg_le_neg (Int.ofNat_le.mpr hMost))
            (Int.lt_of_le_of_lt
              (Int.neg_nonpos_of_nonneg (Int.natCast_nonneg n))
              (by decide))
      · cases hRead
    · split at hRead
      · rename_i hMost
        cases hRead
        exact
          .integer
            (Int.le_trans (by decide) (Int.natCast_nonneg n))
            (Int.ofNat_lt.mpr hMost)
      · cases hRead

/- A decimal is no whole number. -/
theorem fits_of_decimalOf?
    {negative : Bool}
    {digits : List Nat}
    {power : Int}
    {node : Node}
    (hRead : decimalOf? negative digits power = some node) :
    node.Fits := by
  unfold decimalOf? at hRead
  split at hRead
  · cases hRead
  · cases hRead
    exact .decimal _

theorem fits_of_prefixed?
    {base : Nat}
    {cs rest : List Char}
    {node : Node}
    (hRead : prefixed? base cs = some (node, rest)) :
    node.Fits := by
  unfold prefixed? at hRead
  rcases Option.bind_eq_some_iff.mp hRead with
    ⟨⟨digits, behind⟩, _, hRead⟩
  rcases Option.bind_eq_some_iff.mp hRead with
    ⟨found, hFound, hRead⟩
  cases hRead
  exact fits_of_integerOfDigits? hFound

theorem fits_of_behindWhole?
    {negative : Bool}
    {whole : List Nat}
    {cs rest : List Char}
    {node : Node}
    (hRead :
      behindWhole? negative whole cs = some (node, rest)) :
    node.Fits := by
  unfold behindWhole? at hRead
  split at hRead
  · rcases Option.bind_eq_some_iff.mp hRead with
      ⟨⟨places, behind⟩, _, hRead⟩
    rcases Option.bind_eq_some_iff.mp hRead with
      ⟨⟨power, last⟩, _, hRead⟩
    rcases Option.bind_eq_some_iff.mp hRead with
      ⟨found, hFound, hRead⟩
    cases hRead
    exact fits_of_decimalOf? hFound
  · rcases Option.bind_eq_some_iff.mp hRead with
      ⟨⟨power, behind⟩, _, hRead⟩
    rcases Option.bind_eq_some_iff.mp hRead with
      ⟨found, hFound, hRead⟩
    cases hRead
    exact fits_of_decimalOf? hFound
  · rcases Option.bind_eq_some_iff.mp hRead with
      ⟨⟨power, behind⟩, _, hRead⟩
    rcases Option.bind_eq_some_iff.mp hRead with
      ⟨found, hFound, hRead⟩
    cases hRead
    exact fits_of_decimalOf? hFound
  · rcases Option.bind_eq_some_iff.mp hRead with
      ⟨found, hFound, hRead⟩
    cases hRead
    exact fits_of_integerOfDigits? hFound

theorem fits_of_special?
    {negative : Bool}
    {cs rest : List Char}
    {node : Node}
    (hRead : special? negative cs = some (node, rest)) :
    node.Fits := by
  unfold special? at hRead
  split at hRead
  · cases hRead
    exact .decimal _
  · cases hRead
    exact .decimal _
  · cases hRead

theorem fits_of_number?
    {cs rest : List Char}
    {node : Node}
    (hRead : number? cs = some (node, rest)) :
    node.Fits := by
  unfold number? at hRead
  split at hRead
  · exact fits_of_prefixed? hRead
  · exact fits_of_prefixed? hRead
  · exact fits_of_prefixed? hRead
  · unfold signed? at hRead
    dsimp only at hRead
    split at hRead
    · exact fits_of_behindWhole? hRead
    · exact fits_of_special? hRead

theorem fits_of_scalar?
    {cs rest : List Char}
    {node : Node}
    (hRead : scalar? cs = some (node, rest)) :
    node.Fits := by
  have hText
      (hString :
        (string? cs).map
            (fun read => (.text (String.ofList read.1), read.2)) =
          some (node, rest)) :
      node.Fits := by
    rcases Option.map_eq_some_iff.mp hString with
      ⟨_, _, hSame⟩
    cases hSame
    exact .text _
  have hWord (hBoolean : boolean? cs = some (node, rest)) :
      node.Fits := by
    unfold boolean? at hBoolean
    split at hBoolean
    · cases hBoolean
      exact .boolean _
    · cases hBoolean
      exact .boolean _
    · cases hBoolean
  unfold scalar? at hRead
  split at hRead
  · exact hText hRead
  · exact hText hRead
  · exact hWord hRead
  · exact hWord hRead
  · unfold numberOrDate? at hRead
    split at hRead
    · cases hRead
      exact .dateTime
    · exact fits_of_number? hRead

------------------------------------------------------------
-- Tables
------------------------------------------------------------

/- A pair whose value fits. -/
def Pair.Fits (pair : Pair) : Prop :=
  pair.item.node.Fits

/- A section whose values fit. -/
def Section.Fits (s : Section) : Prop :=
  ∀ pair ∈ s.pairs, pair.Fits

namespace Table

theorem fits_empty (form : TableForm) : (empty form).Fits :=
  nofun

theorem Fits.find?
    {t : Table}
    {name : String}
    {item : Item}
    (hFits : t.Fits)
    (hFound : t.find? name = some item) :
    item.node.Fits := by
  rcases Option.map_eq_some_iff.mp hFound with
    ⟨e, hEntry, rfl⟩
  exact hFits e (List.mem_of_find?_eq_some hEntry)

theorem Fits.push
    {t : Table}
    {item : Item}
    (hFits : t.Fits)
    (hItem : item.node.Fits)
    (key : Key) :
    (t.push key item).Fits := by
  intro e hMember
  rcases List.mem_append.mp hMember with hOld | hNew
  · exact hFits e hOld
  · cases List.mem_singleton.mp hNew
    exact hItem

theorem Fits.replace
    {t : Table}
    {item : Item}
    (hFits : t.Fits)
    (hItem : item.node.Fits)
    (name : String) :
    (t.replace name item).Fits := by
  intro e hMember
  rcases List.mem_map.mp hMember with ⟨old, hOld, rfl⟩
  split
  · exact hItem
  · exact hFits old hOld

theorem Fits.erase
    {t : Table}
    (hFits : t.Fits)
    (name : String) :
    (t.erase name).Fits := by
  intro e hMember
  exact hFits e (List.mem_filter.mp hMember).1

theorem fits_getLast
    {items : List Item}
    {item : Item}
    (hItems : ∀ item ∈ items, item.node.Fits)
    (hLast : items.getLast? = some item) :
    item.node.Fits :=
  hItems item (List.mem_of_getLast? hLast)

/-
  A change that keeps tables fitting does so inside.  The
  induction is on the path that leads there.
-/
theorem fits_of_within?
    {dotted : Bool}
    {change : Table → Option Table}
    (hChange :
      ∀ t after, t.Fits → change t = some after → after.Fits)
    {path : List Key}
    {t after : Table}
    (hFits : t.Fits)
    (hWithin : within? dotted change path t = some after) :
    after.Fits := by
  induction path generalizing t after with
  | nil => exact hChange t after hFits hWithin
  | cons key path ih =>
      unfold within? at hWithin
      dsimp only at hWithin
      split at hWithin
      case h_1 =>
        split at hWithin
        · rename_i inner hInner
          cases hWithin
          have hEmpty := fits_empty
          exact
            hFits.push (.table (ih (hEmpty _) hInner)) key
        · cases hWithin
      case h_2 hFound =>
        have hTable := hFits.find? hFound
        cases hTable with
        | table hEntries =>
            rw [Option.ite_none_right_eq_some] at hWithin
            rcases hWithin with ⟨_, hWithin⟩
            split at hWithin
            · rename_i hInner
              cases hWithin
              exact
                hFits.replace (.table (ih hEntries hInner)) _
            · cases hWithin
      case h_3 hFound =>
        have hTables := hFits.find? hFound
        cases hTables with
        | tables hItems =>
            split at hWithin
            · rename_i hLast
              cases fits_getLast hItems hLast with
              | table hEntries =>
                  split at hWithin
                  · rename_i hInner
                    cases hWithin
                    refine hFits.replace (.tables ?_) _
                    intro item hMember
                    rcases List.mem_append.mp hMember with
                      hOld | hNew
                    · exact
                        hItems item
                          ((List.dropLast_sublist _).subset
                            hOld)
                    · cases List.mem_singleton.mp hNew
                      exact .table (ih hEntries hInner)
                  · cases hWithin
            · cases hWithin
      case h_4 => cases hWithin

/- A pair that fits is added to a table that does. -/
theorem fits_of_insert?
    {key : Key}
    {item : Item}
    (hItem : item.node.Fits)
    (t after : Table)
    (hFits : t.Fits)
    (hInsert : insert? key item t = some after) :
    after.Fits := by
  unfold insert? at hInsert
  split at hInsert
  · cases hInsert
  · cases hInsert
    exact hFits.push hItem key

theorem fits_of_addPair?
    {t after : Table}
    {pair : Pair}
    (hPair : pair.Fits)
    (hFits : t.Fits)
    (hAdd : t.addPair? pair = some after) :
    after.Fits := by
  unfold addPair? at hAdd
  split at hAdd
  · exact fits_of_insert? hPair t after hFits hAdd
  · refine fits_of_within? ?_ hFits hAdd
    intro t after hFits hInsert
    unfold insertDotted? at hInsert
    rw [Option.ite_none_right_eq_some] at hInsert
    exact fits_of_insert? hPair t after hFits hInsert.2

/- What keeps a table fitting does so again and again. -/
theorem fits_of_foldlM
    {α : Type}
    {add : Table → α → Option Table}
    {items : List α}
    (hAdd :
      ∀ item ∈ items, ∀ t after : Table,
        t.Fits → add t item = some after → after.Fits)
    {t after : Table}
    (hFits : t.Fits)
    (hFold : items.foldlM add t = some after) :
    after.Fits := by
  induction items generalizing t with
  | nil =>
      cases hFold
      exact hFits
  | cons item items ih =>
      rw [List.foldlM_cons] at hFold
      rcases Option.bind_eq_some_iff.mp hFold with
        ⟨next, hNext, hFold⟩
      apply ih _ _ hFold
      · exact fun other hMember =>
          hAdd other (List.mem_cons_of_mem item hMember)
      · exact hAdd item List.mem_cons_self t next hFits hNext

theorem fits_of_addPairs?
    {t after : Table}
    {pairs : List Pair}
    (hPairs : ∀ pair ∈ pairs, pair.Fits)
    (hFits : t.Fits)
    (hAdd : t.addPairs? pairs = some after) :
    after.Fits := by
  refine fits_of_foldlM ?_ hFits hAdd
  intro pair hMember _ _
  exact fits_of_addPair? (hPairs pair hMember)

/- The table that a header gives itself fits. -/
theorem fits_of_opened?
    {t inner : Table}
    {key : Key}
    (hFits : t.Fits)
    (hOpened : t.opened? key = some inner) :
    inner.Fits := by
  unfold opened? at hOpened
  split at hOpened
  · cases hOpened
    exact fits_empty .headed
  · rename_i hFound
    rw [Option.ite_none_right_eq_some] at hOpened
    rcases hOpened with ⟨_, hOpened⟩
    cases hOpened
    cases hFits.find? hFound with
    | table hEntries => exact hEntries
  · cases hOpened

/- A section that fits is added to a table that does. -/
theorem fits_of_addSection?
    {t after : Table}
    {s : Section}
    (hSection : s.Fits)
    (hFits : t.Fits)
    (hAdd : t.addSection? s = some after) :
    after.Fits := by
  unfold addSection? at hAdd
  split at hAdd
  · refine fits_of_within? ?_ hFits hAdd
    intro t after hFits hRepeated
    unfold addRepeated? at hRepeated
    rcases Option.bind_eq_some_iff.mp hRepeated with
      ⟨inner, hInner, hRepeated⟩
    have hTable : (Node.table inner).Fits :=
      .table
        (fits_of_addPairs? hSection (fits_empty .headed) hInner)
    dsimp only at hRepeated
    split at hRepeated
    · cases hRepeated
      refine hFits.push (.tables ?_) _
      intro item hMember
      cases List.mem_singleton.mp hMember
      exact hTable
    · rename_i hFound
      cases hRepeated
      refine hFits.replace (.tables ?_) _
      intro item hMember
      rcases List.mem_append.mp hMember with hOld | hNew
      · cases hFits.find? hFound with
        | tables hItems => exact hItems item hOld
      · cases List.mem_singleton.mp hNew
        exact hTable
    · cases hRepeated
  · refine fits_of_within? ?_ hFits hAdd
    intro t after hFits hHeaded
    unfold addHeaded? at hHeaded
    rcases Option.bind_eq_some_iff.mp hHeaded with
      ⟨opened, hOpened, hHeaded⟩
    rcases Option.bind_eq_some_iff.mp hHeaded with
      ⟨inner, hInner, hHeaded⟩
    cases hHeaded
    refine (hFits.erase _).push (.table ?_) _
    exact
      fits_of_addPairs? hSection (fits_of_opened? hFits hOpened)
        hInner

theorem fits_of_ofSections?
    {pairs : List Pair}
    {found : List Section}
    {t : Table}
    (hPairs : ∀ pair ∈ pairs, pair.Fits)
    (hFound : ∀ s ∈ found, s.Fits)
    (hTable : ofSections? pairs found = some t) :
    t.Fits := by
  rcases Option.bind_eq_some_iff.mp hTable with
    ⟨root, hRoot, hTable⟩
  refine fits_of_foldlM ?_ ?_ hTable
  · intro s hMember _ _
    exact fits_of_addSection? (hFound s hMember)
  · exact fits_of_addPairs? hPairs (fits_empty .headed) hRoot

end Table

------------------------------------------------------------
-- Values
------------------------------------------------------------

/- The items of an array fit. -/
theorem fits_of_arrayItems?
    {read : ItemReader}
    (hRead : read.Fits)
    {more : Nat}
    {cs rest : List Char}
    {items : List Item}
    (hItems : arrayItems? read more cs = some (items, rest)) :
    ∀ item ∈ items, item.node.Fits := by
  induction more generalizing cs items rest with
  | zero => cases hItems
  | succ more ih =>
      unfold arrayItems? at hItems
      rcases Option.bind_eq_some_iff.mp hItems with
        ⟨_, _, hItems⟩
      dsimp only at hItems
      split at hItems
      · cases hItems
        nofun
      · rcases Option.bind_eq_some_iff.mp hItems with
          ⟨⟨first, _⟩, hFirst, hItems⟩
        rcases Option.bind_eq_some_iff.mp hItems with
          ⟨_, _, hItems⟩
        have hFits := hRead _ _ _ hFirst
        dsimp only at hItems
        split at hItems
        · rcases Option.bind_eq_some_iff.mp hItems with
            ⟨⟨later, _⟩, hLater, hItems⟩
          cases hItems
          exact List.forall_mem_cons.mpr ⟨hFits, ih hLater⟩
        · cases hItems
          exact List.forall_mem_cons.mpr ⟨hFits, nofun⟩
        · cases hItems

/- A pair fits. -/
theorem fits_of_pair?
    {read : ItemReader}
    (hRead : read.Fits)
    {cs rest : List Char}
    {pair : Pair}
    (hPair : pair? read cs = some (pair, rest)) :
    pair.Fits := by
  rcases Option.bind_eq_some_iff.mp hPair with
    ⟨⟨⟨_, _⟩, _⟩, _, hPair⟩
  rcases Option.bind_eq_some_iff.mp hPair with ⟨_, _, hPair⟩
  rcases Option.bind_eq_some_iff.mp hPair with
    ⟨⟨item, _⟩, hItem, hPair⟩
  cases hPair
  exact hRead _ _ _ hItem

/- The pairs between braces fit. -/
theorem fits_of_inlinePairs?
    {read : ItemReader}
    (hRead : read.Fits)
    {more : Nat}
    {cs rest : List Char}
    {pairs : List Pair}
    (hPairs : inlinePairs? read more cs = some (pairs, rest)) :
    ∀ pair ∈ pairs, pair.Fits := by
  induction more generalizing cs pairs rest with
  | zero => cases hPairs
  | succ more ih =>
      unfold inlinePairs? at hPairs
      rcases Option.bind_eq_some_iff.mp hPairs with
        ⟨⟨first, _⟩, hFirst, hPairs⟩
      have hFits := fits_of_pair? hRead hFirst
      dsimp only at hPairs
      split at hPairs
      · rcases Option.bind_eq_some_iff.mp hPairs with
          ⟨⟨later, _⟩, hLater, hPairs⟩
        cases hPairs
        exact List.forall_mem_cons.mpr ⟨hFits, ih hLater⟩
      · cases hPairs
        exact List.forall_mem_cons.mpr ⟨hFits, nofun⟩
      · cases hPairs

/- A table between braces fits. -/
theorem fits_of_inlineTable?
    {read : ItemReader}
    (hRead : read.Fits)
    {cs rest : List Char}
    {node : Node}
    (hTable : inlineTable? read cs = some (node, rest)) :
    node.Fits := by
  have hClosed
      {found : Option (List Pair × List Char)}
      (hFound :
        ∀ pairs left,
          found = some (pairs, left) →
            ∀ pair ∈ pairs, pair.Fits)
      (hTable :
        found.bind
            (fun read =>
              ((Table.empty .inline).addPairs? read.1).bind
                (fun t => some (.table t, read.2))) =
          some (node, rest)) :
      node.Fits := by
    rcases Option.bind_eq_some_iff.mp hTable with
      ⟨⟨pairs, _⟩, hPairs, hTable⟩
    rcases Option.bind_eq_some_iff.mp hTable with
      ⟨t, hAdd, hTable⟩
    cases hTable
    exact
      .table
        (Table.fits_of_addPairs? (hFound pairs _ hPairs)
          (Table.fits_empty .inline) hAdd)
  unfold inlineTable? at hTable
  dsimp only at hTable
  split at hTable
  · apply hClosed _ hTable
    intro pairs left hNone
    cases hNone
    nofun
  · exact
      hClosed (fun _ _ => fits_of_inlinePairs? hRead) hTable

/- A node that fits still does so with its span. -/
theorem fits_of_spanned
    {cs rest : List Char}
    {read : Option (Node × List Char)}
    {item : Item}
    (hNode :
      ∀ node left, read = some (node, left) → node.Fits)
    (hSpanned : spanned cs read = some (item, rest)) :
    item.node.Fits := by
  unfold spanned at hSpanned
  split at hSpanned
  · cases hSpanned
    exact hNode _ _ rfl
  · cases hSpanned

/-
  So every value fits.  The induction is on the depth to which
  values are nested.
-/
theorem fits_value? (depth : Nat) :
    ItemReader.Fits (value? depth) := by
  induction depth with
  | zero =>
      intro cs item rest hValue
      unfold value? at hValue
      split at hValue
      · cases hValue
      · cases hValue
      · exact
          fits_of_spanned (fun _ _ => fits_of_scalar?) hValue
  | succ depth ih =>
      intro cs item rest hValue
      unfold value? at hValue
      split at hValue
      · refine fits_of_spanned ?_ hValue
        intro node left hArray
        rcases Option.map_eq_some_iff.mp hArray with
          ⟨⟨items, _⟩, hItems, hSame⟩
        cases hSame
        exact .array (fits_of_arrayItems? ih hItems)
      · exact
          fits_of_spanned (fun _ _ => fits_of_inlineTable? ih)
            hValue
      · exact
          fits_of_spanned (fun _ _ => fits_of_scalar?) hValue

------------------------------------------------------------
-- Documents
------------------------------------------------------------

/- The line holds no pair, or one that fits. -/
def Line.Fits (line : Line) : Prop :=
  ∀ pair, line = .pair pair → pair.Fits

/- A line fits. -/
theorem fits_of_line?
    {cs rest : List Char}
    {line : Line}
    (hLine : line? cs = some (line, rest)) :
    line.Fits := by
  have hBlank {found : Option (List Char)}
      (hBlank :
        found.map (fun r => (Line.blank, r)) =
          some (line, rest)) :
      line.Fits := by
    rcases Option.map_eq_some_iff.mp hBlank with ⟨_, _, hSame⟩
    cases hSame
    nofun
  have hHeader {repeated : Bool} {start cs : List Char}
      (hHeader :
        headerBody? repeated start cs = some (line, rest)) :
      line.Fits := by
    rcases Option.bind_eq_some_iff.mp hHeader with
      ⟨⟨⟨_, _⟩, _⟩, _, hHeader⟩
    rcases Option.bind_eq_some_iff.mp hHeader with
      ⟨_, _, hHeader⟩
    dsimp only at hHeader
    split at hHeader
    · rcases Option.bind_eq_some_iff.mp hHeader with
        ⟨_, _, hHeader⟩
      rcases Option.bind_eq_some_iff.mp hHeader with
        ⟨_, _, hHeader⟩
      cases hHeader
      nofun
    · rcases Option.bind_eq_some_iff.mp hHeader with
        ⟨_, _, hHeader⟩
      rcases Option.bind_eq_some_iff.mp hHeader with
        ⟨_, _, hHeader⟩
      cases hHeader
      nofun
  unfold line? at hLine
  split at hLine
  · exact hBlank hLine
  · exact hBlank hLine
  · exact hBlank hLine
  · exact hHeader hLine
  · exact hHeader hLine
  · rcases Option.bind_eq_some_iff.mp hLine with
      ⟨⟨pair, _⟩, hPair, hLine⟩
    rcases Option.bind_eq_some_iff.mp hLine with ⟨_, _, hLine⟩
    cases hLine
    rintro _ ⟨⟩
    exact fits_of_pair? (fits_value? nesting) hPair

/- All whole numbers of a document fit. -/
theorem fits_of_lines?
    {more : Nat}
    {cs : List Char}
    {lines : List Line}
    (hLines : lines? more cs = some lines) :
    ∀ line ∈ lines, line.Fits := by
  induction more generalizing cs lines with
  | zero => cases hLines
  | succ more ih =>
      unfold lines? at hLines
      split at hLines
      · cases hLines
        nofun
      · split at hLines
        · rename_i hLine
          rcases Option.map_eq_some_iff.mp hLines with
            ⟨later, hLater, rfl⟩
          exact
            List.forall_mem_cons.mpr
              ⟨fits_of_line? hLine, ih hLater⟩
        · cases hLines

/- What lines are sorted into fits. -/
theorem fits_sections
    {lines : List Line}
    (hLines : ∀ line ∈ lines, line.Fits) :
    (∀ pair ∈ (sections lines).1, pair.Fits) ∧
      ∀ s ∈ (sections lines).2, s.Fits := by
  induction lines with
  | nil => exact ⟨nofun, nofun⟩
  | cons line lines ih =>
      rcases List.forall_mem_cons.mp hLines with
        ⟨hFirst, hLater⟩
      rcases ih hLater with ⟨hPairs, hSections⟩
      cases line with
      | blank => exact ⟨hPairs, hSections⟩
      | pair pair =>
          exact
            ⟨List.forall_mem_cons.mpr ⟨hFirst pair rfl, hPairs⟩,
              hSections⟩
      | header repeated path key span =>
          exact
            ⟨nofun,
              List.forall_mem_cons.mpr ⟨hPairs, hSections⟩⟩

/- Every whole number of a document has 64 bits. -/
theorem Table.fits_of_ofText?
    {text : List Char}
    {t : Table}
    (hTable : Table.ofText? text = some t) :
    t.Fits := by
  rcases Option.bind_eq_some_iff.mp hTable with
    ⟨lines, hLines, hTable⟩
  rcases fits_sections (fits_of_lines? hLines) with
    ⟨hPairs, hSections⟩
  exact Table.fits_of_ofSections? hPairs hSections hTable

end Toml

end FrameLink
