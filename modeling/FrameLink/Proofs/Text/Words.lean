import FrameLink.Config.Words
import FrameLink.Proofs.Toml.Numbers
import Mathlib.Data.List.Forall2

/-
  Words with white space around them.

  A word without white space is what trimming makes of a text
  exactly if the text is that word with white space on either
  side (`Text.exists_encloses_iff`).

  A word is read as a number exactly if it is digits, with a
  plus sign in front or without, that stand for that number,
  and the number is within the bound
  (`Text.readNumber_eq_ok_iff`).  It is a name in letters of
  either case exactly if each letter is that of the name or
  the capital of it (`Text.lower_eq_iff`).

  Key definitions include:
    * `Text.Encloses`
    * `Text.IsNumeral`
    * `Text.SpelledAs`
-/

------------------------------------------------------------
-- White Space
------------------------------------------------------------

namespace FrameLink

namespace Text

/- A text is a word with white space on either side. -/
def Encloses (cs word : List Char) : Prop :=
  ∃ left right,
    (∀ c ∈ left, isBlank c = true) ∧
      (∀ c ∈ right, isBlank c = true) ∧
        cs = left ++ word ++ right

theorem encloses_self (word : List Char) :
    Encloses word word :=
  ⟨[], [], nofun, nofun, (List.append_nil word).symm⟩

/- What encloses what encloses a word encloses the word. -/
theorem Encloses.trans
    {cs ds word : List Char}
    (hOuter : Encloses cs ds)
    (hInner : Encloses ds word) :
    Encloses cs word := by
  rcases hOuter with ⟨left, right, hLeft, hRight, rfl⟩
  rcases hInner with ⟨more, less, hMore, hLess, rfl⟩
  refine ⟨left ++ more, less ++ right, ?_, ?_, ?_⟩
  · intro c hMember
    rcases List.mem_append.mp hMember with hThere | hThere
    · exact hLeft c hThere
    · exact hMore c hThere
  · intro c hMember
    rcases List.mem_append.mp hMember with hThere | hThere
    · exact hLess c hThere
    · exact hRight c hThere
  · simp only [List.append_assoc]

theorem isBlank_of_mem_takeWhile
    {cs : List Char}
    {c : Char}
    (hMember : c ∈ cs.takeWhile isBlank) :
    isBlank c = true :=
  List.all_eq_true.mp List.all_takeWhile c hMember

/- Trimming drops white space on either side only. -/
theorem encloses_trim (cs : List Char) :
    Encloses cs (trim cs) := by
  let inner := trimLeft cs
  refine
    ⟨cs.takeWhile isBlank,
      (inner.reverse.takeWhile isBlank).reverse, ?_, ?_, ?_⟩
  · exact fun c => isBlank_of_mem_takeWhile
  · intro c hMember
    exact isBlank_of_mem_takeWhile (List.mem_reverse.mp hMember)
  · have hInner :
        trimRight inner ++
            (inner.reverse.takeWhile isBlank).reverse =
          inner := by
      rw [trimRight, ← List.reverse_append,
        List.takeWhile_append_dropWhile, List.reverse_reverse]
    rw [List.append_assoc, trim, hInner]
    exact List.takeWhile_append_dropWhile.symm

/- What begins with no white space keeps all of it. -/
theorem dropWhile_isBlank_append
    {word : List Char}
    (hWord : ∀ c ∈ word, isBlank c = false)
    {left right : List Char}
    (hLeft : ∀ c ∈ left, isBlank c = true)
    (hRight : word = [] → right = []) :
    (left ++ (word ++ right)).dropWhile isBlank =
      word ++ right := by
  rw [List.dropWhile_append_of_pos hLeft]
  cases word with
  | nil =>
      rw [hRight rfl]
      rfl
  | cons c word =>
      have hFirst := hWord c List.mem_cons_self
      exact
        List.dropWhile_cons_of_neg (ne_true_of_eq_false hFirst)

/- White space around a word without any is trimmed away. -/
theorem Encloses.trim_eq
    {cs word : List Char}
    (hWord : ∀ c ∈ word, isBlank c = false)
    (hEncloses : Encloses cs word) :
    trim cs = word := by
  rcases hEncloses with ⟨left, right, hLeft, hRight, rfl⟩
  have hBack :
      ∀ c ∈ word.reverse, isBlank c = false :=
    fun c hMember => hWord c (List.mem_reverse.mp hMember)
  have hEnd :
      ∀ c ∈ right.reverse, isBlank c = true :=
    fun c hMember => hRight c (List.mem_reverse.mp hMember)
  have hTrimmed :
      (right.reverse ++ word.reverse).dropWhile isBlank =
        word.reverse := by
    rw [← List.append_nil word.reverse]
    exact dropWhile_isBlank_append hBack hEnd (fun _ => rfl)
  rw [List.append_assoc, trim, trimLeft, trimRight]
  by_cases hEmpty : word = []
  · subst hEmpty
    have hNothing :
        (left ++ ([] ++ right)).dropWhile isBlank = [] := by
      rw [List.nil_append, List.dropWhile_append_of_pos hLeft,
        ← List.append_nil right,
        List.dropWhile_append_of_pos hRight]
      rfl
    rw [hNothing]
    rfl
  · rw [dropWhile_isBlank_append hWord hLeft
        (fun hNone => absurd hNone hEmpty),
      List.reverse_append, hTrimmed, List.reverse_reverse]

/- A text encloses a word exactly if trimming finds one. -/
theorem exists_encloses_iff
    {P : List Char → Prop}
    (hP : ∀ word, P word → ∀ c ∈ word, isBlank c = false)
    {cs : List Char} :
    (∃ word, Encloses cs word ∧ P word) ↔ P (trim cs) := by
  constructor
  · rintro ⟨word, hEncloses, hWord⟩
    rw [hEncloses.trim_eq (hP word hWord)]
    exact hWord
  · exact fun hWord => ⟨_, encloses_trim cs, hWord⟩

/- Trimming once more finds no other word. -/
theorem trim_trim_iff
    {P : List Char → Prop}
    (hP : ∀ word, P word → ∀ c ∈ word, isBlank c = false)
    {cs : List Char} :
    P (trim (trim cs)) ↔ P (trim cs) := by
  constructor
  · intro hWord
    have hEncloses :=
      (encloses_trim cs).trans (encloses_trim (trim cs))
    exact (exists_encloses_iff hP).mp ⟨_, hEncloses, hWord⟩
  · intro hWord
    exact
      (exists_encloses_iff hP).mp ⟨_, encloses_self _, hWord⟩

------------------------------------------------------------
-- Numbers
------------------------------------------------------------

/- Digits, perhaps behind a plus sign, that stand for `n`. -/
def IsNumeral (word : List Char) (n : Nat) : Prop :=
  ∃ digits,
    digits ≠ [] ∧
      (∀ c ∈ digits, c.isDigit = true) ∧
        Nat.ofDigitChars 10 digits 0 = n ∧
          (word = digits ∨ word = '+' :: digits)

/- More digits make no number less. -/
theorem le_ofDigitChars (n : Nat) (cs : List Char) :
    n ≤ Nat.ofDigitChars 10 cs n := by
  induction cs generalizing n with
  | nil => exact Nat.le_refl n
  | cons c cs ih =>
      rw [Nat.ofDigitChars_cons]
      exact Nat.le_trans (by omega) (ih _)

/- Digits are read as the number that they stand for. -/
theorem readDigits_eq_ok_iff
    {top n m : Nat}
    (hWithin : n ≤ top)
    {cs : List Char} :
    readDigits top n cs = .ok m ↔
      (∀ c ∈ cs, c.isDigit = true) ∧
        Nat.ofDigitChars 10 cs n = m ∧ m ≤ top := by
  induction cs generalizing n with
  | nil =>
      rw [readDigits, Except.ok.injEq]
      constructor
      · rintro rfl
        exact ⟨nofun, rfl, hWithin⟩
      · exact fun hAll => hAll.2.1
  | cons c cs ih =>
      rw [readDigits, Nat.ofDigitChars_cons,
        List.forall_mem_cons, Nat.mul_comm 10 n]
      by_cases hDigit : c.isDigit = true
      · have hLeast :=
          le_ofDigitChars (n * 10 + (c.toNat - '0'.toNat)) cs
        have hValue :
            digit? 10 c = some (c.toNat - '0'.toNat) :=
          Toml.digit?_of_isDigit hDigit
        rw [hValue]
        dsimp only
        split
        · constructor
          · exact nofun
          · rintro ⟨_, rfl, hFits⟩
            omega
        · rename_i hFits
          rw [ih (Nat.le_of_not_lt hFits), and_iff_right hDigit]
      · have hNone : digit? 10 c = none := by
          rw [Option.eq_none_iff_forall_ne_some]
          exact fun _ hSome =>
            hDigit (Toml.isDigit_of_digit? hSome)
        rw [hNone]
        constructor
        · exact nofun
        · exact fun hAll => absurd hAll.1.1 hDigit

theorem ne_plus_of_isDigit
    {cs : List Char}
    (hDigits : ∀ c ∈ cs, c.isDigit = true)
    (ds : List Char) :
    cs ≠ '+' :: ds := by
  rintro rfl
  exact
    absurd (hDigits '+' List.mem_cons_self) (by decide)

/- Words that stand for a number within the bound are read. -/
theorem readNumber_eq_ok_iff
    {top n : Nat}
    {word : List Char} :
    readNumber top word = .ok n ↔
      IsNumeral word n ∧ n ≤ top := by
  have hRead (cs : List Char) :
      readDigits top 0 cs = .ok n ↔
        (∀ c ∈ cs, c.isDigit = true) ∧
          Nat.ofDigitChars 10 cs 0 = n ∧ n ≤ top :=
    readDigits_eq_ok_iff (Nat.zero_le top)
  unfold readNumber
  split
  · constructor
    · exact nofun
    · rintro ⟨⟨digits, hSome, _, _, rfl | hWord⟩, _⟩
      · exact absurd rfl hSome
      · cases hWord
  · constructor
    · exact nofun
    · rintro ⟨⟨digits, hSome, hDigits, _, rfl | hWord⟩, _⟩
      · exact absurd rfl (ne_plus_of_isDigit hDigits [])
      · exact absurd (List.cons.inj hWord).2.symm hSome
  · rename_i cs hSome
    rw [hRead]
    constructor
    · rintro ⟨hDigits, hValue, hFits⟩
      refine ⟨⟨cs, ?_, hDigits, hValue, .inr rfl⟩, hFits⟩
      rintro rfl
      exact hSome rfl
    · rintro ⟨⟨digits, _, hDigits, hValue, rfl | hWord⟩, hFits⟩
      · exact absurd rfl (ne_plus_of_isDigit hDigits cs)
      · rw [(List.cons.inj hWord).2]
        exact ⟨hDigits, hValue, hFits⟩
  · rename_i hSome _ hPlus
    rw [hRead]
    constructor
    · rintro ⟨hDigits, hValue, hFits⟩
      exact
        ⟨⟨word, hSome, hDigits, hValue, .inl rfl⟩, hFits⟩
    · rintro ⟨⟨digits, _, hDigits, hValue, rfl | hWord⟩, hFits⟩
      · exact ⟨hDigits, hValue, hFits⟩
      · exact absurd hWord (hPlus digits)

/- A numeral holds no white space. -/
theorem IsNumeral.not_isBlank
    {n : Nat}
    (word : List Char)
    (hNumeral : IsNumeral word n) :
    ∀ c ∈ word, isBlank c = false := by
  have hDigit (c : Char) (hDigit : c.isDigit = true) :
      isBlank c = false := by
    have hBounds := Char.isDigit_iff_toNat.mp hDigit
    have hZero : '0'.toNat = 48 := rfl
    have hNine : '9'.toNat = 57 := rfl
    simp only [isBlank, Bool.or_eq_false_iff,
      Bool.and_eq_false_iff, decide_eq_false_iff_not,
      beq_eq_false_iff_ne]
    omega
  rcases hNumeral with ⟨digits, _, hDigits, _, rfl | rfl⟩
  · exact fun c hMember => hDigit c (hDigits c hMember)
  · rw [List.forall_mem_cons]
    exact
      ⟨by decide,
        fun c hMember => hDigit c (hDigits c hMember)⟩

/- A number is a numeral in its digits. -/
theorem isNumeral_toDigits (n : Nat) :
    IsNumeral (Nat.toDigits 10 n) n := by
  refine ⟨_, Nat.toDigits_ne_nil, ?_, ?_, .inl rfl⟩
  · intro c hMember
    exact
      Nat.isDigit_of_mem_toDigits (by decide)
        (Nat.le_refl 10) hMember
  · exact Nat.ofDigitChars_toDigits (by decide) (by decide)

------------------------------------------------------------
-- Letters
------------------------------------------------------------

/- Small letters lie between `a` and `z`. -/
theorem bounds_of_isLower
    {c : Char}
    (hLower : c.isLower = true) :
    97 ≤ c.toNat ∧ c.toNat ≤ 122 := by
  have hBoth :
      (decide (c.val ≥ 'a'.val) &&
        decide (c.val ≤ 'z'.val)) = true :=
    hLower
  rw [Bool.and_eq_true, decide_eq_true_eq,
    decide_eq_true_eq] at hBoth
  exact hBoth

/- Capitals are made small, and nothing else changes. -/
theorem toNat_toLower (c : Char) :
    c.toLower.toNat =
      if 65 ≤ c.toNat ∧ c.toNat ≤ 90 then
        c.toNat + 32
      else
        c.toNat := by
  have hCapital :
      (c.val ≥ 'A'.val ∧ c.val ≤ 'Z'.val) ↔
        65 ≤ c.toNat ∧ c.toNat ≤ 90 :=
    Iff.rfl
  unfold Char.toLower
  simp only [hCapital]
  split
  · have hSum :
        (c.val + ('a'.val - 'A'.val)).toNat =
          (c.toNat + 32) % 4294967296 :=
      UInt32.toNat_add _ _
    change (c.val + ('a'.val - 'A'.val)).toNat = _
    omega
  · rfl

/- A small letter lies behind its capital. -/
theorem toNat_toUpper
    {c : Char}
    (hLower : c.isLower = true) :
    c.toUpper.toNat + 32 = c.toNat := by
  have hBounds := bounds_of_isLower hLower
  have hSum :
      (c.val + ('A'.val - 'a'.val)).toNat =
        (c.toNat + 4294967264) % 4294967296 :=
    UInt32.toNat_add _ _
  have hLetter : 'a'.val ≤ c.val ∧ c.val ≤ 'z'.val := hBounds
  unfold Char.toUpper
  rw [dif_pos hLetter]
  change (c.val + ('A'.val - 'a'.val)).toNat + 32 = _
  omega

/- A letter is made small from itself or from its capital. -/
theorem toLower_eq_iff
    {c d : Char}
    (hLower : d.isLower = true) :
    c.toLower = d ↔ c = d ∨ c = d.toUpper := by
  have hBounds := bounds_of_isLower hLower
  have hUpper := toNat_toUpper hLower
  simp only [← Char.toNat_inj, toNat_toLower]
  split
  · omega
  · omega

/- No letter is white space. -/
theorem isBlank_of_spelled
    {c d : Char}
    (hLower : d.isLower = true)
    (hSpelled : c = d ∨ c = d.toUpper) :
    isBlank c = false := by
  have hBounds := bounds_of_isLower hLower
  have hUpper := toNat_toUpper hLower
  simp only [isBlank, Bool.or_eq_false_iff,
    Bool.and_eq_false_iff, decide_eq_false_iff_not,
    beq_eq_false_iff_ne]
  rcases hSpelled with rfl | rfl
  · omega
  · omega

/- No letter is a digit or a plus sign. -/
theorem no_number_of_spelled
    {c d : Char}
    (hLower : d.isLower = true)
    (hSpelled : c = d ∨ c = d.toUpper) :
    c.isDigit = false ∧ c ≠ '+' := by
  have hBounds := bounds_of_isLower hLower
  have hUpper := toNat_toUpper hLower
  have hNine : '9'.toNat = 57 := rfl
  have hPlus : '+'.toNat = 43 := rfl
  rw [ne_eq, ← Char.toNat_inj, ← Bool.not_eq_true,
    Char.isDigit_iff_toNat]
  rcases hSpelled with rfl | rfl
  · omega
  · omega

------------------------------------------------------------
-- Names
------------------------------------------------------------

/-
  A word spells a name that is in small letters, each of them
  as it is or as the capital one.
-/
def SpelledAs (word : List Char) (name : String) : Prop :=
  List.Forall₂ (fun c d => c = d ∨ c = d.toUpper) word
    name.toList

/- A name is all in small letters. -/
def IsSmall (name : String) : Prop :=
  ∀ d ∈ name.toList, d.isLower = true

theorem spelledAs_self (name : String) :
    SpelledAs name.toList name :=
  List.forall₂_same.mpr (fun _ _ => .inl rfl)

/- Words that are a name in small letters spell the name. -/
theorem lower_eq_iff
    {word : List Char}
    {name : String}
    (hSmall : IsSmall name) :
    lower word = name.toList ↔ SpelledAs word name := by
  unfold IsSmall at hSmall
  unfold SpelledAs
  generalize name.toList = letters at hSmall ⊢
  induction letters generalizing word with
  | nil =>
      rw [lower, List.map_eq_nil_iff,
        List.forall₂_nil_right_iff]
  | cons d letters ih =>
      rcases List.forall_mem_cons.mp hSmall with
        ⟨hFirst, hLater⟩
      cases word with
      | nil => exact ⟨nofun, nofun⟩
      | cons c word =>
          rw [lower, List.map_cons, List.cons.injEq,
            List.forall₂_cons, toLower_eq_iff hFirst]
          exact and_congr_right fun _ => ih hLater

/- A letter of a word spells one of the name. -/
theorem SpelledAs.exists_letter
    {word : List Char}
    {name : String}
    (hSpelled : SpelledAs word name)
    (hSmall : IsSmall name)
    {c : Char}
    (hMember : c ∈ word) :
    ∃ d, d.isLower = true ∧ (c = d ∨ c = d.toUpper) := by
  unfold IsSmall at hSmall
  unfold SpelledAs at hSpelled
  generalize name.toList = letters at hSmall hSpelled
  induction hSpelled with
  | nil => cases hMember
  | cons hFirst _ ih =>
      rcases List.forall_mem_cons.mp hSmall with
        ⟨hLower, hLater⟩
      rcases List.mem_cons.mp hMember with rfl | hMember
      · exact ⟨_, hLower, hFirst⟩
      · exact ih hMember hLater

theorem SpelledAs.not_isBlank
    {name : String}
    (hSmall : IsSmall name)
    (word : List Char)
    (hSpelled : SpelledAs word name) :
    ∀ c ∈ word, isBlank c = false := by
  intro c hMember
  rcases hSpelled.exists_letter hSmall hMember with
    ⟨_, hLower, hLetter⟩
  exact isBlank_of_spelled hLower hLetter

/- A name that is spelled is no numeral. -/
theorem SpelledAs.not_isNumeral
    {word : List Char}
    {name : String}
    (hSpelled : SpelledAs word name)
    (hSmall : IsSmall name)
    (n : Nat) :
    ¬IsNumeral word n := by
  rintro ⟨digits, hSome, hDigits, _, hWord⟩
  have hLetter {c : Char} (hMember : c ∈ word) :
      c.isDigit = false ∧ c ≠ '+' := by
    rcases hSpelled.exists_letter hSmall hMember with
      ⟨_, hLower, hLetter⟩
    exact no_number_of_spelled hLower hLetter
  rcases hWord with rfl | rfl
  · have hFirst := List.head_mem hSome
    exact
      absurd (hDigits _ hFirst)
        (ne_true_of_eq_false (hLetter hFirst).1)
  · exact (hLetter List.mem_cons_self).2 rfl

end Text

end FrameLink
