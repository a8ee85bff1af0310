import FrameLink.Config.Reading
import FrameLink.Proofs.Toml.Integers

/-
  What a configuration that is read can hold.

  A property of a part that every field keeps is kept by
  reading the part, from a table or an array
  (`Fields.keeps_read`).  So the greatest packet of a
  configuration that is read from a document is below two to
  the sixty-third (`SocketConfig.fits_of_ofToml`), and so is
  that of one with which nothing is wrong
  (`SocketConfig.fits_of_problems`).
-/

------------------------------------------------------------
-- Fields
------------------------------------------------------------

namespace FrameLink

open Toml (Item Entry Node Misfit)

namespace Fields

variable {α : Type}
variable {kept : α → Prop}

/- The property is kept by setting a field. -/
def Keeps
    (kept : α → Prop)
    (set : Item → α → Except Misfit α) : Prop :=
  ∀ item part after,
    item.node.Fits → kept part → set item part = .ok after →
      kept after

/- Every field keeps the property. -/
def AllKeep (kept : α → Prop) (fields : Fields α) : Prop :=
  ∀ field ∈ fields.setters, Keeps kept field.2

/- Setting what was read keeps the property. -/
theorem keeps_setter
    {β : Type}
    {read : FieldReader β}
    {set : β → α → α}
    (hSet :
      ∀ item b part,
        item.node.Fits → read item = .ok b → kept part →
          kept (set b part)) :
    Keeps kept (setter read set) := by
  intro item part after hItem hPart hRead
  unfold setter at hRead
  cases hValue : read item with
  | error _ =>
      rw [hValue] at hRead
      cases hRead
  | ok b =>
      rw [hValue] at hRead
      cases hRead
      exact hSet item b part hItem hValue hPart

/- A place that is given for a failure changes no success. -/
theorem ok_of_mapError
    {read : Except Misfit α}
    {place : Misfit → Misfit}
    {after : α}
    (hRead : read.mapError place = .ok after) :
    read = .ok after := by
  cases read with
  | error _ => cases hRead
  | ok part =>
      cases hRead
      rfl

/- Reading an entry keeps what every field keeps. -/
theorem AllKeep.readEntry
    {fields : Fields α}
    {e : Entry}
    {part after : α}
    (hKeep : fields.AllKeep kept)
    (hItem : e.item.node.Fits)
    (hPart : kept part)
    (hRead : fields.readEntry part e = .ok after) :
    kept after := by
  unfold Fields.readEntry at hRead
  split at hRead
  · cases hRead
    exact hPart
  · rename_i set hLookup
    rcases List.lookup_eq_some_iff.mp hLookup with
      ⟨front, back, hSetters, _⟩
    have hMember : (e.key.name, set) ∈ fields.setters := by
      rw [hSetters]
      exact List.mem_append_right front List.mem_cons_self
    exact
      hKeep _ hMember e.item part after hItem hPart
        (ok_of_mapError hRead)

theorem AllKeep.entries
    {fields : Fields α}
    {entries : List Entry}
    {part after : α}
    (hKeep : fields.AllKeep kept)
    (hEntries : ∀ e ∈ entries, e.item.node.Fits)
    (hPart : kept part)
    (hRead :
      entries.foldlM fields.readEntry part = .ok after) :
    kept after := by
  induction entries generalizing part with
  | nil =>
      cases hRead
      exact hPart
  | cons e entries ih =>
      rw [List.foldlM_cons] at hRead
      cases hFirst : fields.readEntry part e with
      | error _ =>
          rw [hFirst] at hRead
          cases hRead
      | ok next =>
          rw [hFirst] at hRead
          have hNext :=
            hKeep.readEntry
              (hEntries e List.mem_cons_self) hPart hFirst
          exact
            ih
              (fun other hMember =>
                hEntries other (List.mem_cons_of_mem e hMember))
              hNext hRead

theorem keeps_readItems
    {setters :
      List (String × (Item → α → Except Misfit α))}
    {items : List Item}
    {part after : α}
    (hKeep : ∀ field ∈ setters, Keeps kept field.2)
    (hItems : ∀ item ∈ items, item.node.Fits)
    (hPart : kept part)
    (hRead : readItems setters items part = .ok after) :
    kept after := by
  induction setters generalizing items part with
  | nil =>
      cases hRead
      exact hPart
  | cons field setters ih =>
      cases items with
      | nil =>
          cases hRead
          exact hPart
      | cons item items =>
          rcases field with ⟨name, set⟩
          rcases List.forall_mem_cons.mp hKeep with
            ⟨hFirst, hLater⟩
          rcases List.forall_mem_cons.mp hItems with
            ⟨hItem, hItems⟩
          unfold readItems at hRead
          split at hRead
          · rename_i next hNext
            exact
              ih hLater hItems
                (hFirst item part next hItem hPart
                  (ok_of_mapError hNext))
                hRead
          · cases hRead

theorem AllKeep.read
    {fields : Fields α}
    {item : Item}
    {part after : α}
    (hKeep : fields.AllKeep kept)
    (hItem : item.node.Fits)
    (hPart : kept part)
    (hRead : fields.read item part = .ok after) :
    kept after := by
  unfold Fields.read at hRead
  generalize item.node = node at hItem hRead
  cases hItem with
  | table hEntries => exact hKeep.entries hEntries hPart hRead
  | dateTime =>
      cases hRead
      exact hPart
  | array hItems =>
      exact keeps_readItems hKeep hItems hPart hRead
  | tables hItems =>
      exact keeps_readItems hKeep hItems hPart hRead
  | _ => cases hRead

end Fields

------------------------------------------------------------
-- Greatest Packets
------------------------------------------------------------

/- A number that is read from one of 64 bits with a sign. -/
theorem readWhole_lt
    {top n : Nat}
    {expected : String}
    {item : Item}
    (hItem : item.node.Fits)
    (hRead : readWhole top expected item = .ok n) :
    n < Nat.pow 2 63 := by
  unfold readWhole at hRead
  split at hRead
  · cases hItem with
    | integer _ hMost =>
        split at hRead
        · rename_i hBounds
          cases hRead
          rw [Int.toNat_lt hBounds.1]
          exact hMost
        · cases hRead
  · cases hRead

namespace FramingConfig

/- A number of a document has room for the greatest packet. -/
def Fits (c : FramingConfig) : Prop :=
  c.maxPacketSize.toNat < Nat.pow 2 63

/- There is room by default. -/
theorem fits_default : ({} : FramingConfig).Fits := by
  unfold Fits
  decide

/- Every field of the framing part leaves it so. -/
theorem fields_keep : fields.AllKeep Fits := by
  have hSize :
      Fields.Keeps Fits
        (Fields.setter (readWhole (UInt64.size - 1) "usize")
          (fun n c =>
            { c with maxPacketSize := .ofNat n })) := by
    apply Fields.keeps_setter
    intro item n c hItem hRead _
    have hSmall := readWhole_lt hItem hRead
    unfold Fits
    dsimp only
    rw [UInt64.toNat_ofNat_of_lt']
    · exact hSmall
    · exact Nat.lt_trans hSmall (by decide)
  intro field hMember
  simp only [fields, List.mem_cons, List.not_mem_nil,
    or_false] at hMember
  rcases hMember with rfl | rfl | rfl
  · exact hSize
  · exact Fields.keeps_setter (fun _ _ _ _ _ hPart => hPart)
  · exact Fields.keeps_setter (fun _ _ _ _ _ hPart => hPart)

end FramingConfig

namespace SocketConfig

theorem fields_keep :
    fields.AllKeep (fun c => c.framing.Fits) := by
  intro field hMember
  simp only [fields, List.mem_cons, List.not_mem_nil,
    or_false] at hMember
  rcases hMember with rfl | rfl
  · apply Fields.keeps_setter
    intro item framing c hItem hRead _
    exact
      FramingConfig.fields_keep.read hItem
        FramingConfig.fits_default hRead
  · exact Fields.keeps_setter (fun _ _ _ _ _ hPart => hPart)

/- A configuration that is read from a document fits. -/
theorem fits_of_ofToml
    {text : String}
    {c : SocketConfig}
    (hRead : ofToml text = .ok c) :
    c.framing.Fits := by
  unfold ofToml at hRead
  dsimp only at hRead
  split at hRead
  · cases hRead
  · rename_i t hTable
    split at hRead
    · rename_i hParts
      cases hRead
      exact
        fields_keep.entries (Toml.Table.fits_of_ofText? hTable)
          FramingConfig.fits_default hParts
    · cases hRead

/- A configuration with which nothing is wrong fits. -/
theorem fits_of_problems
    {c : SocketConfig}
    (hNone : c.problems = []) :
    c.framing.Fits := by
  have hSize : c.framing.packetSizeProblems = [] := by
    unfold problems FramingConfig.problems at hNone
    simp only [List.append_eq_nil_iff] at hNone
    exact hNone.1.1
  unfold FramingConfig.packetSizeProblems at hSize
  split at hSize
  · cases hSize
  · split at hSize
    · cases hSize
    · rename_i hWithin
      have hBound :
          c.framing.maxPacketSize.toNat ≤ Frame.maxPayload := by
        simpa only [FramingConfig.oversized,
          decide_eq_true_eq, Nat.not_lt] using hWithin
      exact Nat.lt_of_le_of_lt hBound (by decide)

end SocketConfig

end FrameLink
