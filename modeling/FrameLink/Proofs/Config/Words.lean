import FrameLink.Proofs.Text.Words

/-
  Policies and levels are read by their names.

  A text is read as a policy exactly if it spells the name of
  the policy in letters of either case, white space aside
  (`OverflowPolicy.ofText_eq_ok_iff`).  It is read as a level
  exactly if it spells the name or is a numeral for the number
  of the level (`LogLevel.ofText_eq_ok_iff`).

  Key definitions include:
    * `LogLevel.number`
    * `LogLevel.IsWord`
-/

------------------------------------------------------------
-- Policies
------------------------------------------------------------

namespace FrameLink

namespace OverflowPolicy

theorem isSmall_name (policy : OverflowPolicy) :
    Text.IsSmall policy.name := by
  cases policy with
  | _ => exact List.all_eq_true.mp (by decide)

/- A policy is found under its name only. -/
theorem named?_eq_some_iff
    {word : List Char}
    {policy : OverflowPolicy} :
    named? word = some policy ↔ word = policy.name.toList := by
  constructor
  · intro hNamed
    have hFound := List.find?_some hNamed
    exact (of_decide_eq_true hFound).symm
  · rintro rfl
    cases policy with
    | _ => decide

/- A text is read as the policy that it spells inside. -/
theorem ofText_eq_ok_iff
    {s : String}
    {policy : OverflowPolicy} :
    ofText s = .ok policy ↔
      Text.SpelledAs (Text.trim s.toList) policy.name := by
  have hNamed :
      ofText s = .ok policy ↔
        named? (Text.lower (Text.trim s.toList)) =
          some policy := by
    unfold ofText
    dsimp only
    split
    · rename_i found hFound
      rw [hFound, Except.ok.injEq, Option.some.injEq]
    · rename_i hNone
      rw [hNone]
      exact ⟨nofun, nofun⟩
  rw [hNamed, named?_eq_some_iff,
    Text.lower_eq_iff policy.isSmall_name]

theorem ofText_trim_eq_ok_iff
    {cs : List Char}
    {policy : OverflowPolicy} :
    ofText (.ofList (Text.trim cs)) = .ok policy ↔
      Text.SpelledAs (Text.trim cs) policy.name := by
  rw [ofText_eq_ok_iff, String.toList_ofList]
  exact
    Text.trim_trim_iff
      (Text.SpelledAs.not_isBlank policy.isSmall_name)

end OverflowPolicy

------------------------------------------------------------
-- Levels
------------------------------------------------------------

namespace LogLevel

/- The number of a level, the most serious one first. -/
def number : LogLevel → Nat
  | .error => 1
  | .warn => 2
  | .info => 3
  | .debug => 4
  | .trace => 5

/- A word stands for a level, as its name or its number. -/
def IsWord (word : List Char) (level : LogLevel) : Prop :=
  Text.SpelledAs word level.name ∨
    Text.IsNumeral word level.number

theorem isSmall_name (level : LogLevel) :
    Text.IsSmall level.name := by
  cases level with
  | _ => exact List.all_eq_true.mp (by decide)

/- A level is found under its name only. -/
theorem named?_eq_some_iff
    {word : List Char}
    {level : LogLevel} :
    named? word = some level ↔ word = level.name.toList := by
  constructor
  · intro hNamed
    have hFound := List.find?_some hNamed
    exact (of_decide_eq_true hFound).symm
  · rintro rfl
    cases level with
    | _ => decide

/- A level is found under its number only. -/
theorem numbered?_eq_some_iff
    {n : Nat}
    {level : LogLevel} :
    numbered? n = some level ↔ n = level.number := by
  constructor
  · intro hNumbered
    unfold numbered? at hNumbered
    split at hNumbered
    all_goals cases hNumbered
    all_goals rfl
  · rintro rfl
    cases level with
    | _ => rfl

theorem number_le (level : LogLevel) :
    level.number ≤ UInt64.size - 1 := by
  cases level with
  | _ => decide

/- A word is read as the level that it stands for. -/
theorem ofWord?_eq_some_iff
    {word : List Char}
    {level : LogLevel} :
    ofWord? word = some level ↔ IsWord word level := by
  unfold ofWord?
  split
  · rename_i n hRead
    have hNumeral := (Text.readNumber_eq_ok_iff.mp hRead).1
    rw [numbered?_eq_some_iff]
    constructor
    · rintro rfl
      exact .inr hNumeral
    · rintro (hSpelled | hNumber)
      · exact
          absurd hNumeral
            (hSpelled.not_isNumeral level.isSmall_name n)
      · have hOther :=
          Text.readNumber_eq_ok_iff.mpr
            ⟨hNumber, level.number_le⟩
        exact Except.ok.inj (hRead.symm.trans hOther)
  · rename_i fault hRead
    rw [named?_eq_some_iff,
      Text.lower_eq_iff level.isSmall_name]
    constructor
    · exact .inl
    · rintro (hSpelled | hNumber)
      · exact hSpelled
      · have hOther :=
          Text.readNumber_eq_ok_iff.mpr
            ⟨hNumber, level.number_le⟩
        rw [hRead] at hOther
        cases hOther

theorem IsWord.not_isBlank
    {level : LogLevel}
    (word : List Char)
    (hWord : IsWord word level) :
    ∀ c ∈ word, Text.isBlank c = false := by
  rcases hWord with hSpelled | hNumber
  · exact hSpelled.not_isBlank level.isSmall_name
  · exact hNumber.not_isBlank

/- A text is read as the level that it holds a word for. -/
theorem ofText_eq_ok_iff
    {s : String}
    {level : LogLevel} :
    ofText s = .ok level ↔
      IsWord (Text.trim s.toList) level := by
  rw [← ofWord?_eq_some_iff]
  unfold ofText
  split
  · rename_i found hFound
    rw [hFound, Except.ok.injEq, Option.some.injEq]
  · rename_i hNone
    rw [hNone]
    exact ⟨nofun, nofun⟩

theorem ofText_trim_eq_ok_iff
    {cs : List Char}
    {level : LogLevel} :
    ofText (.ofList (Text.trim cs)) = .ok level ↔
      IsWord (Text.trim cs) level := by
  rw [ofText_eq_ok_iff, String.toList_ofList]
  exact Text.trim_trim_iff IsWord.not_isBlank

end LogLevel

end FrameLink
