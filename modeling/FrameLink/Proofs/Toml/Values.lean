import FrameLink.Proofs.Toml.Numbers
import FrameLink.Proofs.Toml.Strings

/-
  Values that are written are read again.

  Whole numbers, booleans and strings are read as they were
  written, at the end of a line (`Toml.written_integer`,
  `Toml.written_boolean`, `Toml.written_text`).

  Key definitions include:
    * `Toml.Written`
-/

------------------------------------------------------------
-- Values
------------------------------------------------------------

namespace FrameLink

namespace Toml

/-
  What is written for a node is read as that node at the end
  of a line, in however many arrays or tables it stands.
-/
structure Written (node : Node) (written : List Char) :
    Prop where
  opens : ∃ c more, written = c :: more ∧ isBlank c = false
  reads :
    ∀ depth rest,
      ∃ span,
        value? depth (written ++ '\n' :: rest) =
          some (⟨span, node⟩, '\n' :: rest)

/- What opens no bracket and no brace is a scalar. -/
theorem value?_of_scalar?
    {c : Char}
    {cs rest : List Char}
    {node : Node}
    (hArray : c ≠ '[')
    (hTable : c ≠ '\x7b')
    (hScalar : scalar? (c :: cs) = some (node, rest))
    (depth : Nat) :
    ∃ span,
      value? depth (c :: cs) = some (⟨span, node⟩, rest) := by
  have hSpanned :
      value? depth (c :: cs) =
        spanned (c :: cs) (scalar? (c :: cs)) := by
    cases depth with
    | zero =>
        rw [value?]
        · exact cons_ne_cons hArray cs
        · exact cons_ne_cons hTable cs
    | succ depth =>
        rw [value?]
        · exact cons_ne_cons hArray cs
        · exact cons_ne_cons hTable cs
  rw [hSpanned, hScalar]
  exact ⟨_, rfl⟩

/- A whole number is written in its digits. -/
theorem written_integer
    {n : Nat}
    (hFits : n < Nat.pow 2 63) :
    Written (.integer n) (Nat.toDigits 10 n) := by
  rcases toDigits_cons n with ⟨c, digits, hDigits, hDigit⟩
  have hOther (d : Char) (hNone : d.isDigit = false) :
      c ≠ d := by
    rintro rfl
    rw [hDigit] at hNone
    cases hNone
  constructor
  case opens =>
    refine ⟨c, digits, hDigits, ?_⟩
    simp only [isBlank, Bool.or_eq_false_iff,
      beq_eq_false_iff_ne]
    exact ⟨hOther ' ' rfl, hOther '\t' rfl⟩
  case reads =>
    intro depth rest
    have hNumber := number?_toDigits hFits rest
    have hDate := dateTime?_of_digits (allDigits n) rest
    rw [hDigits, List.cons_append] at hNumber hDate
    rw [hDigits]
    apply value?_of_scalar? (hOther '[' rfl)
      (hOther '\x7b' rfl)
    change scalar? (c :: (digits ++ '\n' :: rest)) = _
    rw [scalar?]
    · rw [numberOrDate?, hDate]
      exact hNumber
    · exact cons_ne_cons (hOther '"' rfl) _
    · exact cons_ne_cons (hOther '\'' rfl) _
    · exact cons_ne_cons (hOther 't' rfl) _
    · exact cons_ne_cons (hOther 'f' rfl) _

/- A boolean is written as a word. -/
theorem written_boolean (b : Bool) :
    Written (.boolean b) (toString b).toList := by
  cases b with
  | false =>
      refine ⟨⟨'f', _, rfl, rfl⟩, fun depth rest => ?_⟩
      exact
        value?_of_scalar? (by decide) (by decide) rfl depth
  | true =>
      refine ⟨⟨'t', _, rfl, rfl⟩, fun depth rest => ?_⟩
      exact
        value?_of_scalar? (by decide) (by decide) rfl depth

/- A string opens with a quote of either kind. -/
theorem writeString_cons (cs : List Char) :
    ∃ quote more,
      writeString cs = quote :: more ∧
        (quote = '"' ∨ quote = '\'') := by
  unfold writeString
  split
  · exact ⟨'"', _, rfl, .inl rfl⟩
  · exact ⟨'\'', _, rfl, .inr rfl⟩
  · exact ⟨'"', _, rfl, .inl rfl⟩
  · exact ⟨'\'', _, rfl, .inr rfl⟩

theorem scalar?_of_quote
    {quote : Char}
    (hQuote : quote = '"' ∨ quote = '\'')
    (cs : List Char) :
    scalar? (quote :: cs) =
      (string? (quote :: cs)).map
        (fun read =>
          (.text (String.ofList read.1), read.2)) := by
  rcases hQuote with rfl | rfl
  · rfl
  · rfl

/- A string is written in one of its styles. -/
theorem written_text (s : String) :
    Written (.text s) (writeString s.toList) := by
  have hReads := string?_writeString s.toList
  rcases writeString_cons s.toList with
    ⟨quote, more, hWritten, hQuote⟩
  rw [hWritten] at hReads ⊢
  have hOther (c : Char) (hDouble : '"' ≠ c)
      (hSingle : '\'' ≠ c) :
      quote ≠ c := by
    rcases hQuote with rfl | rfl
    · exact hDouble
    · exact hSingle
  constructor
  case opens =>
    refine ⟨quote, more, rfl, ?_⟩
    simp only [isBlank, Bool.or_eq_false_iff,
      beq_eq_false_iff_ne]
    exact
      ⟨hOther ' ' (by decide) (by decide),
        hOther '\t' (by decide) (by decide)⟩
  case reads =>
    intro depth rest
    apply value?_of_scalar?
      (hOther '[' (by decide) (by decide))
      (hOther '\x7b' (by decide) (by decide))
    rw [scalar?_of_quote hQuote]
    change (string? (quote :: more ++ '\n' :: rest)).map _ = _
    simp only [hReads, Option.map_some, String.ofList_toList]

end Toml

end FrameLink
