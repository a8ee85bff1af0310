import FrameLink.Folder

/-
  What is written into a file is read from it.

  A path leads to a file of some name in some level, whatever
  the folder holds (`Folder.Leads.elsewhere`), and something
  can be written there exactly if it does.  What is read from
  there afterwards is what was written last
  (`Folder.readText_of_writeText`).

  Key definitions include:
    * `Folder.Leads`
    * `Folder.Writable`
-/

------------------------------------------------------------
-- Paths
------------------------------------------------------------

namespace FrameLink

namespace Folder

/- A path leads to a file of a name in a level. -/
structure Leads
    (folder : Folder)
    (text : String)
    (path : Path)
    (level : Level)
    (name : String) : Prop where
  parsed : Path.ofText text = .ok path
  walked : folder.levelOf path = .ok level
  last : path.last = .name name
  bare : path.slashed = false
  short : name.utf8ByteSize ≤ Path.maxNameSize

/- Something can be written under a path. -/
def Writable (folder : Folder) (text : String) : Prop :=
  ∃ bs after, folder.write text bs = .ok after

/- A step that can be taken needs no file. -/
theorem walk_elsewhere
    {folder : Folder}
    {level next : Level}
    {step : Step}
    (hWalk : folder.walk level step = .ok next)
    (other : Folder) :
    other.walk level step = .ok next := by
  cases step with
  | stay => exact hWalk
  | up => exact hWalk
  | name name =>
      unfold walk at hWalk
      dsimp only at hWalk
      split at hWalk
      · cases hWalk
      · cases hWalk

theorem foldlM_walk_elsewhere
    {folder : Folder}
    {level next : Level}
    {steps : List Step}
    (hWalk : steps.foldlM folder.walk level = .ok next)
    (other : Folder) :
    steps.foldlM other.walk level = .ok next := by
  induction steps generalizing level with
  | nil => exact hWalk
  | cons step steps ih =>
      rw [List.foldlM_cons] at hWalk ⊢
      cases hFirst : folder.walk level step with
      | error _ =>
          rw [hFirst] at hWalk
          cases hWalk
      | ok there =>
          rw [hFirst] at hWalk
          rw [walk_elsewhere hFirst other]
          exact ih hWalk

/- A path leads to the same file whatever there is. -/
theorem Leads.elsewhere
    {folder : Folder}
    {text name : String}
    {path : Path}
    {level : Level}
    (hLeads : folder.Leads text path level name)
    (other : Folder) :
    other.Leads text path level name :=
  { hLeads with
    walked := foldlM_walk_elsewhere hLeads.walked other }

------------------------------------------------------------
-- Writing and Reading
------------------------------------------------------------

/- What is written comes before all other files. -/
theorem Leads.write
    {folder : Folder}
    {text name : String}
    {path : Path}
    {level : Level}
    (hLeads : folder.Leads text path level name)
    (bs : Bytes) :
    folder.write text bs =
      .ok
        (((level, name), bs) ::
          folder.filter (·.1 != (level, name))) := by
  unfold Folder.write
  rw [hLeads.parsed]
  change (folder.levelOf path).bind _ = _
  rw [hLeads.walked]
  simp only [Except.bind, hLeads.last, hLeads.bare,
    Bool.false_eq_true, if_false,
    if_neg (Nat.not_lt.mpr hLeads.short)]

/- What is read is what the file holds. -/
theorem Leads.read
    {folder : Folder}
    {text name : String}
    {path : Path}
    {level : Level}
    (hLeads : folder.Leads text path level name)
    {bs : Bytes}
    (hFile : folder.lookup (level, name) = some bs) :
    folder.read text = .ok bs := by
  unfold Folder.read
  rw [hLeads.parsed]
  change (folder.levelOf path).bind _ = _
  rw [hLeads.walked]
  simp only [Except.bind, hLeads.last, hLeads.bare,
    Folder.find, if_neg (Nat.not_lt.mpr hLeads.short), hFile]
  rfl

/- Only a path that leads to a file can be written. -/
theorem Writable.leads
    {folder : Folder}
    {text : String}
    (hWritable : folder.Writable text) :
    ∃ path level name, folder.Leads text path level name := by
  rcases hWritable with ⟨bs, after, hWrite⟩
  unfold Folder.write at hWrite
  cases hPath : Path.ofText text with
  | error _ =>
      rw [hPath] at hWrite
      cases hWrite
  | ok path =>
      rw [hPath] at hWrite
      cases hLevel : folder.levelOf path with
      | error _ =>
          change (folder.levelOf path).bind _ = _ at hWrite
          rw [hLevel] at hWrite
          cases hWrite
      | ok level =>
          change (folder.levelOf path).bind _ = _ at hWrite
          rw [hLevel] at hWrite
          simp only [Except.bind] at hWrite
          split at hWrite
          · rename_i name hLast
            split at hWrite
            · cases hWrite
            · split at hWrite
              · cases hWrite
              · rename_i hOpen hShort
                exact
                  ⟨path, level, name, hPath, hLevel, hLast,
                    Bool.eq_false_iff.mpr hOpen,
                    Nat.not_lt.mp hShort⟩
          · cases hWrite

------------------------------------------------------------
-- Texts
------------------------------------------------------------

/- A text is what its bytes stand for. -/
theorem fromUTF8?_toUTF8 (text : String) :
    String.fromUTF8? text.toUTF8.data.toList.toByteArray =
      some text := by
  have hBytes :
      text.toUTF8.data.toList.toByteArray = text.toUTF8 := by
    apply ByteArray.ext
    rw [List.data_toByteArray, Array.toArray_toList]
  have hValid : text.toUTF8.IsValidUTF8 := text.isValidUTF8
  rw [hBytes, String.fromUTF8?, dif_pos hValid]
  rfl

/- A text that is written under a path is read from there. -/
theorem readText_of_writeText
    {folder : Folder}
    {path : String}
    (hWritable : folder.Writable path)
    (text : String) :
    ∃ after,
      folder.writeText path text = .ok after ∧
        after.readText path = .ok text := by
  rcases hWritable.leads with ⟨_, level, name, hLeads⟩
  refine ⟨_, hLeads.write _, ?_⟩
  have hRead :=
    (hLeads.elsewhere
      (((level, name), text.toUTF8.data.toList) ::
        folder.filter (·.1 != (level, name)))).read
      List.lookup_cons_self
  rw [readText, hRead]
  simp only [fromUTF8?_toUTF8]

end Folder

end FrameLink
