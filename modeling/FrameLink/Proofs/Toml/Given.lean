import FrameLink.Proofs.Toml.Literals
import FrameLink.Proofs.Toml.Tables

/-
  What a document gives to its keys.

  A document that assigns scalars in parts gives at most one
  of them to each key of each part, and that is what stands in
  its table.  The scalars and the keys may be written in any
  of their forms.

  Key definitions include:
    * `Toml.Assignment.IsScalar`, `Toml.Part.IsScalar`
    * `Toml.Assignment.given?`, `Toml.Part.given?`
-/

------------------------------------------------------------
-- Scalars
------------------------------------------------------------

namespace FrameLink

namespace Toml

/- A scalar in any of its forms, under a key of any form. -/
structure Assignment.IsScalar (a : Assignment) : Prop where
  key : IsKey a.name a.key
  literal : IsLiteral a.node a.written

theorem Assignment.IsProper.isScalar
    {a : Assignment}
    (hProper : a.IsProper) :
    a.IsScalar :=
  ⟨hProper.key, hProper.written.isLiteral⟩

/- A part that assigns scalars. -/
structure Part.IsScalar (part : Part) : Prop where
  bare : IsBareName part.name
  each : ∀ a ∈ part.assignments, a.IsScalar

/- Scalars are written as they have to be. -/
theorem Part.IsScalar.isProper
    {part : Part}
    (hScalar : part.IsScalar) :
    part.IsProper where
  bare := hScalar.bare
  each := fun a hMember =>
    ⟨(hScalar.each a hMember).key,
      (hScalar.each a hMember).literal.written⟩

------------------------------------------------------------
-- What Is Given
------------------------------------------------------------

/- What assignments give to a key. -/
def Assignment.given?
    (assignments : List Assignment)
    (key : String) : Option Node :=
  (assignments.find? (·.name = key)).map Assignment.node

/- What the parts of a document give to a key of a part. -/
def Part.given?
    (parts : List Part)
    (title key : String) : Option Node :=
  (parts.find? (·.name = title)).bind
    (fun part => Assignment.given? part.assignments key)

/- Where names are distinct, each is found by its name. -/
theorem find?_of_nodup
    {α : Type}
    {name : α → String}
    {items : List α}
    {item : α}
    (hNames : (items.map name).Nodup)
    (hMember : item ∈ items) :
    items.find? (fun other => name other = name item) =
      some item := by
  induction items with
  | nil => cases hMember
  | cons other items ih =>
      rw [List.map_cons, List.nodup_cons] at hNames
      rcases List.mem_cons.mp hMember with rfl | hLater
      · exact List.find?_cons_of_pos (decide_eq_true rfl)
      · rw [List.find?_cons_of_neg]
        · exact ih hNames.2 hLater
        · intro hSame
          apply hNames.1
          rw [of_decide_eq_true hSame]
          exact List.mem_map_of_mem hLater

theorem find?_of_notMem
    {α : Type}
    {name : α → String}
    {items : List α}
    {wanted : String}
    (hNone : wanted ∉ items.map name) :
    items.find? (fun item => name item = wanted) = none := by
  rw [List.find?_eq_none]
  intro item hMember hSame
  apply hNone
  rw [← of_decide_eq_true hSame]
  exact List.mem_map_of_mem hMember

theorem of_find?_name
    {α : Type}
    {name : α → String}
    {items : List α}
    {item : α}
    {wanted : String}
    (hFound :
      items.find? (fun other => name other = wanted) =
        some item) :
    item ∈ items ∧ name item = wanted := by
  have hName := List.find?_some hFound
  rw [decide_eq_true_eq] at hName
  exact ⟨List.mem_of_find?_eq_some hFound, hName⟩

theorem Assignment.given?_of_mem
    {assignments : List Assignment}
    {a : Assignment}
    (hNames : (assignments.map Assignment.name).Nodup)
    (hMember : a ∈ assignments) :
    Assignment.given? assignments a.name = some a.node := by
  rw [Assignment.given?, find?_of_nodup hNames hMember]
  rfl

/- What is given for a key is an entry of it. -/
theorem exists_entry_of_given?
    {assignments : List Assignment}
    {entries : List Entry}
    {key : String}
    {node : Node}
    (hEntries :
      List.Forall₂ Assignment.IsEntry assignments entries)
    (hGiven :
      Assignment.given? assignments key = some node) :
    ∃ e ∈ entries, e.key.name = key ∧ e.item.node = node := by
  rcases Option.map_eq_some_iff.mp hGiven with
    ⟨a, hFound, rfl⟩
  rcases of_find?_name hFound with ⟨hThere, hKey⟩
  rcases exists_of_forall₂ hEntries.flip hThere with
    ⟨e, hMember, hName, hNode⟩
  exact ⟨e, hMember, hName.trans hKey, hNode⟩

theorem Part.given?_of_mem
    {parts : List Part}
    {part : Part}
    (hNames : (parts.map Part.name).Nodup)
    (hMember : part ∈ parts)
    (key : String) :
    Part.given? parts part.name key =
      Assignment.given? part.assignments key := by
  rw [Part.given?, find?_of_nodup hNames hMember]
  rfl

theorem Part.given?_of_notMem
    {parts : List Part}
    {title : String}
    (hNone : title ∉ parts.map Part.name)
    (key : String) :
    Part.given? parts title key = none := by
  rw [Part.given?, find?_of_notMem hNone]
  rfl

end Toml

end FrameLink
