import FrameLink.Toml.Values

/-
  Whole numbers that are written are read again.

  A whole number is written in decimal digits.  They are no
  date and no time, since none of them is followed by the
  mark of one, and no zero comes first but for zero itself;
  so they are read as that number (`Toml.number?_toDigits`).
-/

------------------------------------------------------------
-- Digits
------------------------------------------------------------

namespace FrameLink

namespace Toml

open Text (after? digit? digitValue? numberOf)

theorem isDigit_iff
    {c : Char} :
    c.isDigit = true ↔ '0' ≤ c ∧ c ≤ '9' := by
  rw [Char.isDigit, Bool.and_eq_true, decide_eq_true_eq,
    decide_eq_true_eq]
  exact Iff.rfl

/- The value of a decimal digit. -/
theorem digit?_of_isDigit
    {c : Char}
    (hDigit : c.isDigit = true) :
    digit? 10 c = some (c.toNat - 48) := by
  have hBounds := Char.isDigit_iff_toNat.mp hDigit
  have hValue : digitValue? c = some (c.toNat - 48) := by
    rw [digitValue?, if_pos (isDigit_iff.mp hDigit)]
  have hSmall : c.toNat - 48 < 10 := by
    have hNine : '9'.toNat = 57 := rfl
    omega
  rw [digit?, hValue, Option.filter_some_pos]
  exact decide_eq_true hSmall

/- What has a value below ten is a decimal digit. -/
theorem isDigit_of_digit?
    {c : Char}
    {n : Nat}
    (hValue : digit? 10 c = some n) :
    c.isDigit = true := by
  rcases Option.filter_eq_some_iff.mp hValue with
    ⟨hValue, hSmall⟩
  have hSmall := of_decide_eq_true hSmall
  unfold digitValue? at hValue
  split at hValue
  · rename_i hDigit
    exact isDigit_iff.mpr hDigit
  · split at hValue
    · rename_i hLetter
      have hLeast : 97 ≤ c.toNat := hLetter.1
      cases hValue
      omega
    · split at hValue
      · rename_i hLetter
        have hLeast : 65 ≤ c.toNat := hLetter.1
        cases hValue
        omega
      · cases hValue

/- Digits are read up to the end of the line. -/
theorem moreDigits?_append
    {digits : List Char}
    (hDigits : ∀ c ∈ digits, c.isDigit = true)
    (rest : List Char) :
    moreDigits? 10 (digits ++ '\n' :: rest) =
      some (digits.map (fun c => c.toNat - 48),
        '\n' :: rest) := by
  induction digits with
  | nil => rfl
  | cons c digits ih =>
      have hDigit := hDigits c List.mem_cons_self
      have hRest :=
        ih (fun d hMember =>
          hDigits d (List.mem_cons_of_mem c hMember))
      have hUnderscore : c ≠ '_' := by
        rintro rfl
        cases hDigit
      rw [List.cons_append, moreDigits?]
      · rw [digit?_of_isDigit hDigit, hRest]
        rfl
      · exact fun _ _ hSame _ => hUnderscore hSame
      · exact fun hSame _ => hUnderscore hSame

/- The digits of a number stand for it. -/
theorem numberOf_toDigits (n : Nat) :
    numberOf 10
        ((Nat.toDigits 10 n).map (fun c => c.toNat - 48)) =
      n := by
  have hNumber :
      Nat.ofDigitChars 10 (Nat.toDigits 10 n) 0 = n :=
    Nat.ofDigitChars_toDigits (by decide) (by decide)
  simp only [Nat.ofDigitChars, Nat.mul_comm] at hNumber
  rw [numberOf, List.foldl_map]
  exact hNumber

/- No zero comes first, but for zero itself. -/
theorem head?_toDigits
    {n : Nat}
    (hPositive : 0 < n) :
    (Nat.toDigits 10 n).head? ≠ some '0' := by
  induction n using Nat.strongRecOn with
  | ind n ih =>
      rw [Nat.toDigits_eq_if (by decide)]
      split
      · intro hZero
        have hChar := Option.some.inj hZero
        rw [Nat.digitChar_eq_zero] at hChar
        omega
      · have hFirst := ih (n / 10) (by omega) (by omega)
        cases hDigits : Nat.toDigits 10 (n / 10) with
        | nil => exact absurd hDigits Nat.toDigits_ne_nil
        | cons c digits =>
            rw [hDigits] at hFirst
            exact hFirst

------------------------------------------------------------
-- Neither Date nor Time
------------------------------------------------------------

/- Digits behind which no mark stands. -/
theorem after?_of_digits
    {digits front back rest : List Char}
    {mark : Char}
    (hDigits : ∀ c ∈ digits, c.isDigit = true)
    (hFront : ∀ c ∈ front, c.isDigit = true)
    (hMark : mark.isDigit = false)
    (hFeed : mark ≠ '\n')
    (hSplit : digits ++ '\n' :: rest = front ++ back) :
    after? mark back = none := by
  rw [Option.eq_none_iff_forall_ne_some]
  intro more hAfter
  rw [Text.after?_eq_some_iff] at hAfter
  have hBehind :=
    congrArg (List.dropWhile Char.isDigit) hSplit
  rw [hAfter, List.dropWhile_append_of_pos hDigits,
    List.dropWhile_append_of_pos hFront,
    List.dropWhile_cons_of_neg (by decide),
    List.dropWhile_cons_of_neg (by rw [hMark]; decide)]
    at hBehind
  exact hFeed (List.cons.inj hBehind).1.symm

/- A number of two digits is two digits. -/
theorem twoDigits?_front
    {least most n : Nat}
    {cs rest : List Char}
    (hRead : twoDigits? least most cs = some (n, rest)) :
    ∃ front,
      cs = front ++ rest ∧ ∀ c ∈ front, c.isDigit = true := by
  unfold twoDigits? at hRead
  split at hRead
  · rename_i a b cs
    rcases Option.bind_eq_some_iff.mp hRead with
      ⟨_, hA, hRead⟩
    rcases Option.bind_eq_some_iff.mp hRead with
      ⟨_, hB, hRead⟩
    dsimp only at hRead
    split at hRead
    · cases hRead
      refine ⟨[a, b], rfl, ?_⟩
      simp only [List.forall_mem_cons, List.not_mem_nil,
        isDigit_of_digit? hA, isDigit_of_digit? hB,
        false_implies, implies_true, and_self]
    · cases hRead
  · cases hRead

/- A year is of digits. -/
theorem year?_front
    {n : Nat}
    {cs rest : List Char}
    (hRead : year? cs = some (n, rest)) :
    ∃ front,
      cs = front ++ rest ∧ ∀ c ∈ front, c.isDigit = true := by
  unfold year? at hRead
  split at hRead
  · rename_i a b c d cs
    rcases Option.bind_eq_some_iff.mp hRead with
      ⟨_, hA, hRead⟩
    rcases Option.bind_eq_some_iff.mp hRead with
      ⟨_, hB, hRead⟩
    rcases Option.bind_eq_some_iff.mp hRead with
      ⟨_, hC, hRead⟩
    rcases Option.bind_eq_some_iff.mp hRead with
      ⟨_, hD, hRead⟩
    cases hRead
    refine ⟨[a, b, c, d], rfl, ?_⟩
    simp only [List.forall_mem_cons, List.not_mem_nil,
      isDigit_of_digit? hA, isDigit_of_digit? hB,
      isDigit_of_digit? hC, isDigit_of_digit? hD,
      false_implies, implies_true, and_self]
  · cases hRead

/- Digits alone are no date and no time. -/
theorem dateTime?_of_digits
    {digits : List Char}
    (hDigits : ∀ c ∈ digits, c.isDigit = true)
    (rest : List Char) :
    dateTime? (digits ++ '\n' :: rest) = none := by
  have hDate : date? (digits ++ '\n' :: rest) = none := by
    unfold date?
    cases hYear : year? (digits ++ '\n' :: rest) with
    | none => rfl
    | some found =>
        rcases found with ⟨year, back⟩
        rcases year?_front hYear with ⟨front, hSplit, hFront⟩
        have hMark : after? '-' back = none :=
          after?_of_digits hDigits hFront (by decide)
            (by decide) hSplit
        simp only [Option.bind_eq_bind, Option.bind_some,
          hMark, Option.bind_none]
  have hTime : time? (digits ++ '\n' :: rest) = none := by
    unfold time?
    cases hHour : twoDigits? 0 23 (digits ++ '\n' :: rest) with
    | none => rfl
    | some found =>
        rcases found with ⟨hour, back⟩
        rcases twoDigits?_front hHour with
          ⟨front, hSplit, hFront⟩
        have hMark : after? ':' back = none :=
          after?_of_digits hDigits hFront (by decide)
            (by decide) hSplit
        simp only [Option.bind_eq_bind, Option.bind_some,
          hMark, Option.bind_none]
  rw [dateTime?, hDate]
  exact hTime

------------------------------------------------------------
-- Whole Numbers
------------------------------------------------------------

theorem allDigits (n : Nat) :
    ∀ c ∈ Nat.toDigits 10 n, c.isDigit = true :=
  fun _ hMember =>
    Nat.isDigit_of_mem_toDigits (by decide) (Nat.le_refl 10)
      hMember

theorem toDigits_cons (n : Nat) :
    ∃ c digits,
      Nat.toDigits 10 n = c :: digits ∧ c.isDigit = true := by
  cases hDigits : Nat.toDigits 10 n with
  | nil => exact absurd hDigits Nat.toDigits_ne_nil
  | cons c digits =>
      refine ⟨c, digits, rfl, allDigits n c ?_⟩
      rw [hDigits]
      exact List.mem_cons_self

/- The digits of a number are a whole part. -/
theorem wholePart?_toDigits
    (n : Nat)
    (rest : List Char) :
    wholePart? (Nat.toDigits 10 n ++ '\n' :: rest) =
      some
        ((Nat.toDigits 10 n).map (fun c => c.toNat - 48),
          '\n' :: rest) := by
  cases n with
  | zero =>
      rw [Nat.toDigits_zero]
      rfl
  | succ n =>
      have hMore := moreDigits?_append (allDigits (n + 1)) rest
      have hFirst := head?_toDigits (Nat.succ_pos n)
      rcases toDigits_cons (n + 1) with
        ⟨c, digits, hDigits, hDigit⟩
      rw [hDigits] at hMore hFirst ⊢
      rw [List.cons_append, wholePart?]
      · rw [digits?, digit?_of_isDigit hDigit]
        exact hMore
      · intro _ hSame
        exact hFirst (congrArg some (List.cons.inj hSame).1)

/- A number below the bound is the one that is meant. -/
theorem integerOfDigits?_toDigits
    {n : Nat}
    (hFits : n < Nat.pow 2 63) :
    integerOfDigits? false 10
        ((Nat.toDigits 10 n).map (fun c => c.toNat - 48)) =
      some (.integer n) := by
  have hLength : (Nat.toDigits 10 n).length ≤ 64 := by
    rw [Nat.length_toDigits_le_iff (by decide) (by decide)]
    exact Nat.lt_trans hFits (by decide)
  have hShort :
      (((Nat.toDigits 10 n).map
        (fun c => c.toNat - 48)).dropWhile (· == 0)).length ≤
          64 := by
    apply Nat.le_trans (List.dropWhile_sublist _).length_le
    rw [List.length_map]
    exact hLength
  simp only [integerOfDigits?, integerOf?,
    if_neg (Nat.not_lt.mpr hShort), Text.numberOf_dropWhile,
    numberOf_toDigits, if_pos hFits, Bool.false_eq_true,
    if_false]

/- Behind a zero that comes first the line ends. -/
theorem eq_of_toDigits_eq
    {n : Nat}
    {c : Char}
    {rest more : List Char}
    (hSame :
      Nat.toDigits 10 n ++ '\n' :: rest = '0' :: c :: more) :
    c = '\n' := by
  cases n with
  | zero =>
      rw [Nat.toDigits_zero] at hSame
      exact (List.cons.inj (List.cons.inj hSame).2).1.symm
  | succ n =>
      have hFirst := head?_toDigits (Nat.succ_pos n)
      rcases toDigits_cons (n + 1) with ⟨d, digits, hDigits, _⟩
      rw [hDigits] at hSame hFirst
      exact
        absurd (congrArg some (List.cons.inj hSame).1) hFirst

/- What is written for a number has no prefix and no sign. -/
theorem number?_eq_signed?
    (n : Nat)
    (rest : List Char) :
    number? (Nat.toDigits 10 n ++ '\n' :: rest) =
      signed? (Nat.toDigits 10 n ++ '\n' :: rest) := by
  unfold number?
  split
  · rename_i hSame
    exact absurd (eq_of_toDigits_eq hSame) (by decide)
  · rename_i hSame
    exact absurd (eq_of_toDigits_eq hSame) (by decide)
  · rename_i hSame
    exact absurd (eq_of_toDigits_eq hSame) (by decide)
  · rfl

/- A digit is no sign. -/
theorem sign_of_isDigit
    {c : Char}
    (hDigit : c.isDigit = true)
    (cs : List Char) :
    sign (c :: cs) = (false, c :: cs) := by
  rw [sign]
  · intro _ hSame
    rw [(List.cons.inj hSame).1] at hDigit
    cases hDigit
  · intro _ hSame
    rw [(List.cons.inj hSame).1] at hDigit
    cases hDigit

/-
  A number below the bound is read as it was written, at the
  end of a line.
-/
theorem number?_toDigits
    {n : Nat}
    (hFits : n < Nat.pow 2 63)
    (rest : List Char) :
    number? (Nat.toDigits 10 n ++ '\n' :: rest) =
      some (.integer n, '\n' :: rest) := by
  have hSign :
      sign (Nat.toDigits 10 n ++ '\n' :: rest) =
        (false, Nat.toDigits 10 n ++ '\n' :: rest) := by
    rcases toDigits_cons n with ⟨c, digits, hDigits, hDigit⟩
    rw [hDigits]
    exact sign_of_isDigit hDigit _
  rw [number?_eq_signed?, signed?, hSign]
  simp only [wholePart?_toDigits]
  change (integerOfDigits? false 10 _).bind _ = _
  rw [integerOfDigits?_toDigits hFits]
  rfl

end Toml

end FrameLink
