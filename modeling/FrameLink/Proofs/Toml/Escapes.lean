import FrameLink.Toml.Strings
import FrameLink.Toml.Writing

/-
  Strings that are written on one line are read again.

  Between double quotes every character is written in one of
  three ways (`Toml.spells_writeChar`), and each is read as
  that character.  Between single quotes a character stands
  for itself.

  Key definitions include:
    * `Toml.Spells`
    * `Toml.Reads`
-/

------------------------------------------------------------
-- Characters
------------------------------------------------------------

namespace FrameLink

namespace Toml

/- A plain character is not a part of a line end. -/
theorem ne_of_isPlain
    {c : Char}
    (hPlain : isPlain c = true) :
    c ≠ '\n' ∧ c ≠ '\r' := by
  constructor
  · rintro rfl
    exact absurd hPlain (by decide)
  · rintro rfl
    exact absurd hPlain (by decide)

/- What has no need of an escape can be shown as it is. -/
theorem isPlain_of_needsEscape
    {c : Char}
    (hPlain : needsEscape c = false) :
    c = '\n' ∨ isPlain c = true := by
  simp only [needsEscape, Bool.and_eq_false_iff,
    bne_eq_false_iff_eq, Bool.or_eq_false_iff,
    decide_eq_false_iff_not, beq_eq_false_iff_ne] at hPlain
  rcases hPlain with (rfl | rfl) | ⟨hLow, hDelete⟩
  · exact .inr rfl
  · exact .inl rfl
  · right
    simp only [isPlain, Bool.or_eq_true, Bool.and_eq_true,
      decide_eq_true_eq, bne_iff_ne]
    exact .inr ⟨Nat.le_of_not_lt hLow, hDelete⟩

theorem cons_ne_cons
    {c d : Char}
    (hOther : c ≠ d)
    (cs ds : List Char) :
    c :: cs ≠ d :: ds :=
  fun hSame => hOther (List.cons.inj hSame).1

/- A line end begins with one of two characters. -/
theorem newline?_of_ne
    {c : Char}
    (hFeed : c ≠ '\n')
    (hReturn : c ≠ '\r')
    (cs : List Char) :
    newline? (c :: cs) = none := by
  unfold newline?
  split
  · rename_i hEq
    exact absurd hEq (cons_ne_cons hFeed cs _)
  · rename_i hEq
    exact absurd hEq (cons_ne_cons hReturn cs _)
  · rfl

------------------------------------------------------------
-- Escapes
------------------------------------------------------------

/- What follows a number has no effect on it. -/
theorem hexNumber?_append
    {digits n m : Nat}
    {cs left : List Char}
    (hNumber : hexNumber? digits n cs = some (m, left))
    (rest : List Char) :
    hexNumber? digits n (cs ++ rest) =
      some (m, left ++ rest) := by
  induction digits generalizing n cs with
  | zero =>
      rcases Option.some.inj hNumber with ⟨rfl, rfl⟩
      rfl
  | succ digits ih =>
      cases cs with
      | nil => cases hNumber
      | cons c cs =>
          simp only [hexNumber?] at hNumber
          simp only [List.cons_append, hexNumber?]
          cases hDigit : Text.digit? 16 c with
          | none =>
              rw [hDigit] at hNumber
              cases hNumber
          | some d =>
              rw [hDigit] at hNumber
              exact ih hNumber

theorem hexNumber?_hexFour
    {n : Nat}
    (hSmall : n < 128)
    (rest : List Char) :
    hexNumber? 4 0 (hexFour n ++ rest) = some (n, rest) := by
  have hAll :
      ∀ n < 128, hexNumber? 4 0 (hexFour n) = some (n, []) := by
    decide +kernel
  exact hexNumber?_append (hAll n hSmall) rest

/- An escape with a number stands for that character. -/
theorem escape?_hexFour
    {c : Char}
    (hSmall : c.toNat < 128)
    (rest : List Char) :
    escape? ('u' :: hexFour c.toNat ++ rest) =
      some (c, rest) := by
  have hValid : c.toNat.isValidChar := c.valid
  change codePoint? 4 (hexFour c.toNat ++ rest) = _
  simp only [codePoint?, hexNumber?_hexFour hSmall,
    if_pos hValid, Char.ofNat_toNat]

theorem foldedLine?_of_ne
    {c : Char}
    (hBlank : isBlank c = false)
    (hFeed : c ≠ '\n')
    (hReturn : c ≠ '\r')
    (cs : List Char) :
    foldedLine? (c :: cs) = none := by
  rw [foldedLine?, skipBlanks,
    List.dropWhile_cons_of_neg (by rw [hBlank]; decide),
    newline?_of_ne hFeed hReturn]
  rfl

/- How a character is written between double quotes. -/
inductive Spells
    (lines : Bool)
    (c : Char) : List Char → Prop where
  | plain
      (hPlain : isPlain c = true)
      (hQuote : c ≠ '"')
      (hBackslash : c ≠ '\\') :
      Spells lines c [c]
  | lineEnd
      (hLines : lines = true)
      (hFeed : c = '\n') :
      Spells lines c ['\n']
  | escaped
      {code : List Char}
      (hFolded : ∀ rest, foldedLine? (code ++ rest) = none)
      (hEscape :
        ∀ rest, escape? (code ++ rest) = some (c, rest)) :
      Spells lines c ('\\' :: code)

/- A character is escaped by one other character. -/
theorem Spells.mark
    {lines : Bool}
    {mark c : Char}
    (hMark : isBlank mark = false ∧ mark ≠ '\n' ∧ mark ≠ '\r')
    (hEscape :
      ∀ rest, escape? (mark :: rest) = some (c, rest)) :
    Spells lines c ['\\', mark] :=
  .escaped (foldedLine?_of_ne hMark.1 hMark.2.1 hMark.2.2)
    hEscape

theorem spells_quote (lines : Bool) :
    Spells lines '"' ['\\', '"'] :=
  .mark (by decide) (fun _ => rfl)

/- Every character but the quote is written in such a way. -/
theorem spells_writeChar
    {c : Char}
    (hQuote : c ≠ '"')
    (lines : Bool) :
    Spells lines c (writeChar lines c) := by
  unfold writeChar
  split
  · exact .mark (by decide) (fun _ => rfl)
  · exact .mark (by decide) (fun _ => rfl)
  · split
    · rename_i hLines
      exact .lineEnd hLines rfl
    · exact .mark (by decide) (fun _ => rfl)
  · exact .mark (by decide) (fun _ => rfl)
  · exact .mark (by decide) (fun _ => rfl)
  · exact .mark (by decide) (fun _ => rfl)
  · rename_i hFeed _ _ hBackslash
    split
    · rename_i hNeeds
      refine .escaped ?_ (escape?_hexFour ?_)
      · exact fun rest =>
          foldedLine?_of_ne (by decide) (by decide)
            (by decide) (hexFour c.toNat ++ rest)
      · simp only [needsEscape, Bool.and_eq_true,
          Bool.or_eq_true, decide_eq_true_eq,
          beq_iff_eq] at hNeeds
        omega
    · rename_i hPlain
      rcases isPlain_of_needsEscape
        (Bool.eq_false_iff.mpr hPlain) with hEnd | hPlain
      · exact absurd hEnd hFeed
      · exact .plain hPlain hQuote hBackslash

/-
  What is written for a character begins with no quote, and
  with a line end only for a line end.
-/
theorem Spells.head
    {lines : Bool}
    {c : Char}
    {written : List Char}
    (hSpells : Spells lines c written) :
    ∃ first more,
      written = first :: more ∧
        first ≠ '"' ∧
          (c ≠ '\n' → first ≠ '\n' ∧ first ≠ '\r') := by
  cases hSpells with
  | plain hPlain hQuote _ =>
      exact
        ⟨c, [], rfl, hQuote, fun _ => ne_of_isPlain hPlain⟩
  | lineEnd _ hFeed =>
      exact
        ⟨'\n', [], rfl, by decide,
          fun hOther => absurd hFeed hOther⟩
  | escaped =>
      exact
        ⟨'\\', _, rfl, by decide, fun _ => by decide⟩

------------------------------------------------------------
-- Strings on One Line
------------------------------------------------------------

/-
  With any bound beyond the length of its input, a scanner
  reads a text and leaves a rest.
-/
def Reads
    (scan : Nat → List Char → Option (List Char × List Char))
    (input text rest : List Char) : Prop :=
  ∀ fuel, input.length < fuel →
    scan fuel input = some (text, rest)

/- A character is read on one line as it was written. -/
theorem Reads.basicBody_cons
    {c : Char}
    {written input text rest : List Char}
    (hReads : Reads basicBody? input text rest)
    (hSpells : Spells false c written) :
    Reads basicBody? (written ++ input) (c :: text) rest := by
  intro fuel hFuel
  cases fuel with
  | zero => cases hFuel
  | succ fuel =>
      cases hSpells with
      | plain hPlain hQuote hBackslash =>
          have hRest :=
            hReads fuel (Nat.lt_of_succ_lt_succ hFuel)
          rw [List.singleton_append, basicBody?]
          · rw [if_pos hPlain, hRest]
            rfl
          · exact hQuote
          · exact hBackslash
      | lineEnd hLines => cases hLines
      | escaped _ hEscape =>
          have hRest :
              basicBody? fuel input = some (text, rest) := by
            apply hReads
            simp only [List.cons_append, List.length_cons,
              List.length_append] at hFuel
            omega
          simp only [List.cons_append, basicBody?, hEscape,
            hRest]
          rfl

theorem reads_basicBody
    (cs rest : List Char) :
    Reads basicBody? (writeBody false 0 cs ++ '"' :: rest) cs
      rest := by
  induction cs with
  | nil =>
      intro fuel hFuel
      cases fuel with
      | zero => cases hFuel
      | succ fuel => rfl
  | cons c cs ih =>
      by_cases hQuote : c = '"'
      · subst hQuote
        exact ih.basicBody_cons (spells_quote false)
      · rw [writeBody]
        · rw [List.append_assoc]
          exact
            ih.basicBody_cons (spells_writeChar hQuote false)
        · exact hQuote

/- Without escapes every character stands for itself. -/
theorem literalBody?_append
    {cs : List Char}
    (hShown : ∀ c ∈ cs, isPlain c = true ∧ c ≠ '\'')
    (rest : List Char) :
    literalBody? (cs ++ '\'' :: rest) = some (cs, rest) := by
  induction cs with
  | nil => rfl
  | cons c cs ih =>
      rcases hShown c List.mem_cons_self with ⟨hPlain, hQuote⟩
      have hRest :=
        ih (fun d hMember =>
          hShown d (List.mem_cons_of_mem c hMember))
      rw [List.cons_append, literalBody?]
      · rw [if_pos hPlain, hRest]
        rfl
      · exact hQuote

end Toml

end FrameLink
