import FrameLink.Proofs.Toml.Lines

/-
  Documents that are written are read again.

  Where no key is given twice, pairs and sections are put into
  a table one behind the other (`Toml.Table.addPairs?_plain`,
  `Toml.Table.ofSections?_plain`).  So a document that is
  written in parts is read as a table with these parts
  (`Toml.Table.ofText?_document`).

  Key definitions include:
    * `Toml.Table.names`
    * `Toml.Pair.entry`, `Toml.Section.entry`
    * `Toml.Section.IsPlain`
    * `Toml.Assignment.IsEntry`, `Toml.Part.IsEntry`
-/

------------------------------------------------------------
-- Names
------------------------------------------------------------

namespace FrameLink

namespace Toml

/- What keys a pair and a section have, and stand for. -/
def Pair.entry (pair : Pair) : Entry :=
  ⟨pair.key, pair.item⟩

/- A section as an entry, if no key of it leads further. -/
def Section.entry (s : Section) : Entry where
  key := s.key
  item :=
    ⟨some s.extent, .table ⟨.headed, s.pairs.map Pair.entry⟩⟩

namespace Table

/- The keys of a table, in their order. -/
def names (t : Table) : List String :=
  t.entries.map (·.key.name)

theorem eq_mk (t : Table) : ⟨t.form, t.entries⟩ = t := by
  cases t
  rfl

/- A key that is not there stands for nothing. -/
theorem find?_of_notMem
    {t : Table}
    {name : String}
    (hNew : name ∉ t.names) :
    t.find? name = none := by
  rw [find?, Option.map_eq_none_iff, List.find?_eq_none]
  intro e hMember hName
  apply hNew
  rw [← of_decide_eq_true hName]
  exact List.mem_map_of_mem hMember

/- A key that is not there need not be taken out. -/
theorem erase_of_notMem
    {t : Table}
    {name : String}
    (hNew : name ∉ t.names) :
    t.erase name = t := by
  have hEntries :
      t.entries.filter (·.key.name != name) = t.entries := by
    rw [List.filter_eq_self]
    intro e hMember
    rw [bne_iff_ne]
    rintro rfl
    exact hNew (List.mem_map_of_mem hMember)
  rw [erase, hEntries, eq_mk]

/-
  What has new keys is put behind the other entries, if each
  by itself is.
-/
theorem foldlM_plain
    {α : Type}
    {add : Table → α → Option Table}
    (entry : α → Entry)
    {items : List α}
    (hAdd :
      ∀ item ∈ items, ∀ t : Table,
        (entry item).key.name ∉ t.names →
          add t item =
            some ⟨t.form, t.entries ++ [entry item]⟩)
    {t : Table}
    (hNew :
      (t.names ++
        items.map (fun item => (entry item).key.name)).Nodup) :
    items.foldlM add t =
      some ⟨t.form, t.entries ++ items.map entry⟩ := by
  induction items generalizing t with
  | nil =>
      rw [List.map_nil, List.append_nil, eq_mk]
      rfl
  | cons item items ih =>
      have hFirst : (entry item).key.name ∉ t.names := by
        intro hMember
        rw [List.nodup_append] at hNew
        exact hNew.2.2 _ hMember _ List.mem_cons_self rfl
      have hRest :=
        @ih
          (fun other hMember =>
            hAdd other (List.mem_cons_of_mem item hMember))
          ⟨t.form, t.entries ++ [entry item]⟩
          (by
            simp only [names, List.map_append, List.map_cons,
              List.map_nil, List.append_assoc,
              List.cons_append, List.nil_append] at hNew ⊢
            exact hNew)
      rw [List.foldlM_cons,
        hAdd item List.mem_cons_self t hFirst]
      refine Eq.trans hRest ?_
      rw [List.map_cons, List.append_assoc]
      rfl

------------------------------------------------------------
-- Pairs and Sections
------------------------------------------------------------

/- Pairs with new keys are put behind one another. -/
theorem addPairs?_plain
    {t : Table}
    {pairs : List Pair}
    (hPlain : ∀ pair ∈ pairs, pair.path = [])
    (hNew : (t.names ++ pairs.map (·.key.name)).Nodup) :
    t.addPairs? pairs =
      some ⟨t.form, t.entries ++ pairs.map Pair.entry⟩ := by
  refine foldlM_plain Pair.entry ?_ hNew
  intro pair hMember t hFirst
  have hNone : t.find? pair.key.name = none :=
    find?_of_notMem hFirst
  rw [addPair?, hPlain pair hMember]
  simp only [insert?, hNone]
  rfl

end Table

/- A section with new keys, of which none leads further. -/
structure Section.IsPlain (s : Section) : Prop where
  single : s.repeated = false
  path : s.path = []
  pairs : ∀ pair ∈ s.pairs, pair.path = []
  names : (s.pairs.map (·.key.name)).Nodup

namespace Table

/- A section with a new key is put behind the others. -/
theorem addSection?_plain
    {t : Table}
    {s : Section}
    (hPlain : s.IsPlain)
    (hNew : s.key.name ∉ t.names) :
    t.addSection? s =
      some ⟨t.form, t.entries ++ [s.entry]⟩ := by
  have hPairs :
      (empty .headed).addPairs? s.pairs =
        some ⟨.headed, s.pairs.map Pair.entry⟩ :=
    addPairs?_plain hPlain.pairs hPlain.names
  have hOpened : t.opened? s.key = some (empty .headed) := by
    rw [opened?, find?_of_notMem hNew]
  rw [addSection?, hPlain.single, hPlain.path]
  simp only [Bool.false_eq_true, if_false, within?,
    addHeaded?, hOpened, Option.bind_eq_bind, Option.bind_some,
    hPairs, erase_of_notMem hNew]
  rfl

/- Sections with different keys make a table. -/
theorem ofSections?_plain
    {found : List Section}
    (hPlain : ∀ s ∈ found, s.IsPlain)
    (hNames : (found.map (·.key.name)).Nodup) :
    ofSections? [] found =
      some ⟨.headed, found.map Section.entry⟩ := by
  have hNew :
      ((empty .headed).names ++
        found.map (fun s => s.entry.key.name)).Nodup :=
    hNames
  refine foldlM_plain Section.entry ?_ hNew
  intro s hMember t hFirst
  exact addSection?_plain (hPlain s hMember) hFirst

end Table

------------------------------------------------------------
-- Documents
------------------------------------------------------------

/- The entry says what the assignment does. -/
def Assignment.IsEntry (a : Assignment) (e : Entry) : Prop :=
  e.key.name = a.name ∧ e.item.node = a.node

/- The entry is a table that says what the part does. -/
def Part.IsEntry (part : Part) (e : Entry) : Prop :=
  e.key.name = part.name ∧
    ∃ t : Table,
      e.item.node = .table t ∧
        List.Forall₂ Assignment.IsEntry part.assignments
          t.entries

/- No key is given twice. -/
structure Part.IsDistinct (parts : List Part) : Prop where
  names : (parts.map Part.name).Nodup
  each :
    ∀ part ∈ parts,
      (part.assignments.map Assignment.name).Nodup

theorem map_eq_map_of_forall₂
    {α β γ : Type}
    {related : α → β → Prop}
    {f : α → γ}
    {g : β → γ}
    {as : List α}
    {bs : List β}
    (hRelated : List.Forall₂ related as bs)
    (hSame : ∀ a b, related a b → g b = f a) :
    bs.map g = as.map f := by
  induction hRelated with
  | nil => rfl
  | cons hFirst _ ih =>
      rw [List.map_cons, List.map_cons, hSame _ _ hFirst, ih]

/- Each item on the one side has one on the other. -/
theorem exists_of_forall₂
    {α β : Type}
    {related : α → β → Prop}
    {as : List α}
    {bs : List β}
    {b : β}
    (hRelated : List.Forall₂ related as bs)
    (hMember : b ∈ bs) :
    ∃ a ∈ as, related a b := by
  induction hRelated with
  | nil => cases hMember
  | cons hFirst _ ih =>
      rcases List.mem_cons.mp hMember with rfl | hLater
      · exact ⟨_, List.mem_cons_self, hFirst⟩
      · rcases ih hLater with ⟨a, hThere, hThis⟩
        exact ⟨a, List.mem_cons_of_mem _ hThere, hThis⟩

/- A section that says what a part does is plain. -/
theorem Part.IsSection.isPlain
    {part : Part}
    {s : Section}
    (hSection : part.IsSection s)
    (hNames : (part.assignments.map Assignment.name).Nodup) :
    s.IsPlain where
  single := hSection.single
  path := hSection.path
  pairs := by
    intro pair hMember
    rcases exists_of_forall₂ hSection.pairs hMember with
      ⟨_, _, hPair⟩
    exact hPair.path
  names := by
    rw [map_eq_map_of_forall₂ hSection.pairs
      (fun _ _ hPair => hPair.name)]
    exact hNames

/- Its entry says that as well. -/
theorem Part.IsSection.isEntry
    {part : Part}
    {s : Section}
    (hSection : part.IsSection s) :
    part.IsEntry s.entry := by
  refine ⟨hSection.name, _, rfl, ?_⟩
  rw [List.forall₂_map_right_iff]
  exact
    hSection.pairs.imp
      (fun _ _ hPair => ⟨hPair.name, hPair.node⟩)

/- No part begins with a byte-order mark. -/
theorem skipMark_document (parts : List Part) :
    skipMark (document parts) = document parts := by
  cases parts with
  | nil => rfl
  | cons part parts =>
      cases parts with
      | nil => rfl
      | cons other parts => rfl

/- What is written in parts is read as a table of them. -/
theorem Table.ofText?_document
    {parts : List Part}
    (hProper : ∀ part ∈ parts, part.IsProper)
    (hDistinct : Part.IsDistinct parts) :
    ∃ t,
      Table.ofText? (document parts) = some t ∧
        List.Forall₂ Part.IsEntry parts t.entries := by
  rcases readsLines_document hProper with
    ⟨lines, found, hReads, hFound, hSections⟩
  have hPlain : ∀ s ∈ found, s.IsPlain := by
    intro s hMember
    rcases exists_of_forall₂ hSections hMember with
      ⟨part, hPart, hSection⟩
    exact hSection.isPlain (hDistinct.each part hPart)
  have hNames : (found.map (·.key.name)).Nodup := by
    rw [map_eq_map_of_forall₂ hSections
      (fun _ _ hSection => hSection.name)]
    exact hDistinct.names
  refine ⟨⟨.headed, found.map Section.entry⟩, ?_, ?_⟩
  · have hLines := hReads _ (Nat.lt_succ_self _)
    rw [Table.ofText?, skipMark_document]
    change (lines? ((document parts).length + 1) _).bind _ = _
    rw [hLines]
    change ofSections? (sections lines).1 (sections lines).2 = _
    rw [hFound]
    exact ofSections?_plain hPlain hNames
  · rw [List.forall₂_map_right_iff]
    exact hSections.imp (fun _ _ hSection => hSection.isEntry)

end Toml

end FrameLink
