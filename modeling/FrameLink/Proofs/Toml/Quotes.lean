import FrameLink.Proofs.Toml.Strings

/-
  What comes behind a string has no effect on it.

  A string on one line ends with its closing quote, whatever
  follows (`Toml.lineString?_append`).  Over several lines
  further quotes could belong to the closing ones, so there
  something else has to follow (`Toml.string?_append`).

  What has been read tells how it was written: its characters
  are spelled one after the other, and runs of quotes stand
  between them.  Each of these is read again with more behind
  it, by the lemmas about what is written.
-/

------------------------------------------------------------
-- Escapes
------------------------------------------------------------

namespace FrameLink

namespace Toml

/- What has been read behind other characters. -/
theorem exists_of_andThen
    {front text left : List Char}
    {read : Option (List Char × List Char)}
    (hRead : andThen front read = some (text, left)) :
    ∃ more,
      read = some (more, left) ∧ text = front ++ more := by
  cases read with
  | none => cases hRead
  | some found =>
      rcases Option.some.inj hRead with ⟨rfl, rfl⟩
      exact ⟨_, rfl, rfl⟩

/- A number is read from its own digits. -/
theorem hexNumber?_front
    {digits n m : Nat}
    {cs left : List Char}
    (hNumber : hexNumber? digits n cs = some (m, left)) :
    ∃ front,
      cs = front ++ left ∧
        ∀ rest,
          hexNumber? digits n (front ++ rest) =
            some (m, rest) := by
  induction digits generalizing n cs with
  | zero =>
      rcases Option.some.inj hNumber with ⟨rfl, rfl⟩
      exact ⟨[], rfl, fun _ => rfl⟩
  | succ digits ih =>
      cases cs with
      | nil => cases hNumber
      | cons c cs =>
          simp only [hexNumber?] at hNumber
          split at hNumber
          · rename_i d hDigit
            rcases ih hNumber with ⟨front, rfl, hFront⟩
            refine ⟨c :: front, rfl, fun rest => ?_⟩
            simp only [List.cons_append, hexNumber?, hDigit]
            exact hFront rest
          · cases hNumber

theorem codePoint?_front
    {digits : Nat}
    {c : Char}
    {cs left : List Char}
    (hCode : codePoint? digits cs = some (c, left)) :
    ∃ front,
      cs = front ++ left ∧
        ∀ rest,
          codePoint? digits (front ++ rest) =
            some (c, rest) := by
  unfold codePoint? at hCode
  split at hCode
  · rename_i n left hNumber
    split at hCode
    · rename_i hValid
      cases hCode
      rcases hexNumber?_front hNumber with
        ⟨front, hSplit, hFront⟩
      refine ⟨front, hSplit, fun rest => ?_⟩
      simp only [codePoint?, hFront rest, if_pos hValid]
    · cases hCode
  · cases hCode

theorem spells_of_codePoint?
    {mark c : Char}
    {digits : Nat}
    {cs left : List Char}
    (hMark : isBlank mark = false ∧ mark ≠ '\n' ∧ mark ≠ '\r')
    (hRead :
      ∀ cs, escape? (mark :: cs) = codePoint? digits cs)
    (hCode : codePoint? digits cs = some (c, left))
    (lines : Bool) :
    ∃ code,
      mark :: cs = code ++ left ∧
        Spells lines c ('\\' :: code) := by
  rcases codePoint?_front hCode with ⟨code, rfl, hFront⟩
  refine ⟨mark :: code, rfl, .escaped ?_ ?_⟩
  · exact fun rest =>
      foldedLine?_of_ne hMark.1 hMark.2.1 hMark.2.2
        (code ++ rest)
  · exact fun rest =>
      (hRead (code ++ rest)).trans (hFront rest)

/- What is read as an escape spells a character. -/
theorem spells_of_escape?
    {c : Char}
    {cs left : List Char}
    (hEscape : escape? cs = some (c, left))
    (lines : Bool) :
    ∃ code,
      cs = code ++ left ∧ Spells lines c ('\\' :: code) := by
  unfold escape? at hEscape
  split at hEscape
  case h_8 =>
    exact
      spells_of_codePoint? (by decide) (fun _ => rfl) hEscape
        lines
  case h_9 =>
    exact
      spells_of_codePoint? (by decide) (fun _ => rfl) hEscape
        lines
  case h_10 => cases hEscape
  all_goals
    cases hEscape
    exact ⟨[_], rfl, .mark (by decide) (fun _ => rfl)⟩

------------------------------------------------------------
-- Strings on One Line
------------------------------------------------------------

/- A string with escapes is read up to its quote. -/
theorem reads_of_basicBody?
    {fuel : Nat}
    {cs text left : List Char}
    (hBody : basicBody? fuel cs = some (text, left))
    (rest : List Char) :
    Reads basicBody? (cs ++ rest) text (left ++ rest) := by
  induction fuel generalizing cs text with
  | zero => cases hBody
  | succ fuel ih =>
      rw [basicBody?.eq_def] at hBody
      split at hBody
      case h_1 => cases hBody
      case h_2 => cases hBody
      case h_3 =>
        cases hBody
        intro fuel hFuel
        cases fuel with
        | zero => cases hFuel
        | succ fuel => rfl
      case h_4 hCase =>
        cases hCase
        split at hBody
        · rename_i hEscape
          rcases exists_of_andThen hBody with
            ⟨more, hMore, rfl⟩
          rcases spells_of_escape? hEscape false with
            ⟨code, rfl, hSpells⟩
          have hReads := (ih hMore).basicBody_cons hSpells
          simp only [List.cons_append, List.append_assoc]
            at hReads ⊢
          exact hReads
        · cases hBody
      case h_5 hQuote hBackslash hCase =>
        cases hCase
        split at hBody
        · rename_i hPlain
          rcases exists_of_andThen hBody with
            ⟨more, hMore, rfl⟩
          exact
            (ih hMore).basicBody_cons
              (.plain hPlain hQuote hBackslash)
        · cases hBody

/- A string without escapes is read up to its quote. -/
theorem literalBody?_behind
    {cs text left : List Char}
    (hBody : literalBody? cs = some (text, left))
    (rest : List Char) :
    literalBody? (cs ++ rest) = some (text, left ++ rest) := by
  induction cs generalizing text with
  | nil => cases hBody
  | cons c cs ih =>
      rw [literalBody?.eq_def] at hBody
      split at hBody
      case h_1 hCase => cases hCase
      case h_2 hCase =>
        cases hCase
        cases hBody
        rfl
      case h_3 hQuote hCase =>
        cases hCase
        split at hBody
        · rename_i hPlain
          rcases exists_of_andThen hBody with
            ⟨more, hMore, rfl⟩
          rw [List.cons_append, literalBody?]
          · rw [if_pos hPlain, ih hMore]
            rfl
          · exact hQuote
        · cases hBody

/- A string on one line begins with a quote. -/
theorem lineString?_cons
    {cs text left : List Char}
    (hString : lineString? cs = some (text, left)) :
    ∃ quote more,
      cs = quote :: more ∧ (quote = '"' ∨ quote = '\'') := by
  unfold lineString? at hString
  split at hString
  · exact ⟨'"', _, rfl, .inl rfl⟩
  · exact ⟨'\'', _, rfl, .inr rfl⟩
  · cases hString

/- A string on one line is read whatever follows it. -/
theorem lineString?_append
    {cs text left : List Char}
    (hString : lineString? cs = some (text, left))
    (rest : List Char) :
    lineString? (cs ++ rest) = some (text, left ++ rest) := by
  unfold lineString? at hString
  split at hString
  · exact
      reads_of_basicBody? hString rest _ (Nat.lt_succ_self _)
  · exact literalBody?_behind hString rest
  · cases hString

------------------------------------------------------------
-- Strings over Several Lines
------------------------------------------------------------

/- A run of quotes stands in front of other characters. -/
theorem replicate_append_behindRun
    (quote : Char)
    (cs : List Char) :
    List.replicate (runLength quote cs) quote ++
        behindRun quote cs =
      cs := by
  have hRun :
      cs.takeWhile (· == quote) =
        List.replicate (runLength quote cs) quote := by
    rw [List.eq_replicate_iff]
    refine ⟨rfl, fun c hMember => ?_⟩
    have hAll : (cs.takeWhile (· == quote)).all (· == quote) :=
      List.all_takeWhile
    exact eq_of_beq (List.all_eq_true.mp hAll c hMember)
  rw [← hRun]
  exact List.takeWhile_append_dropWhile

/- No further quote stands behind a run of them. -/
theorem head?_behindRun
    (quote : Char)
    (cs : List Char) :
    (behindRun quote cs).head? ≠ some quote := by
  intro hHead
  have hNot := List.head?_dropWhile_not (· == quote) cs
  unfold behindRun at hHead
  rw [hHead] at hNot
  simp at hNot

theorem head?_append_of_ne_nil
    {cs : List Char}
    (hSome : cs ≠ [])
    (rest : List Char) :
    (cs ++ rest).head? = cs.head? := by
  cases cs with
  | nil => exact absurd rfl hSome
  | cons c cs => rfl

/- A line end is followed by what it was followed by. -/
theorem newline?_append
    {cs left : List Char}
    (hEnd : newline? cs = some left)
    (rest : List Char) :
    newline? (cs ++ rest) = some (left ++ rest) := by
  unfold newline? at hEnd
  split at hEnd
  · cases hEnd
    rfl
  · cases hEnd
    rfl
  · cases hEnd

/- A line end is no longer than what it ends. -/
theorem length_newline?
    {cs left : List Char}
    (hEnd : newline? cs = some left) :
    left.length < cs.length := by
  unfold newline? at hEnd
  split at hEnd
  · cases hEnd
    exact Nat.lt_succ_self _
  · cases hEnd
    exact Nat.lt_succ_of_lt (Nat.lt_succ_self _)
  · cases hEnd

/- What begins with no break is not skipped. -/
theorem skipBreaks_of_ne
    {cs : List Char}
    (hSpace : ∀ more, cs = ' ' :: more → False)
    (hTab : ∀ more, cs = '\t' :: more → False)
    (hFeed : ∀ more, cs = '\n' :: more → False)
    (hReturn : ∀ more, cs = '\r' :: '\n' :: more → False) :
    skipBreaks cs = cs := by
  unfold skipBreaks
  split
  · exact absurd rfl (hSpace _)
  · exact absurd rfl (hTab _)
  · exact absurd rfl (hFeed _)
  · exact absurd rfl (hReturn _)
  · rfl

theorem length_skipBreaks (cs : List Char) :
    (skipBreaks cs).length ≤ cs.length := by
  induction cs using skipBreaks.induct with
  | case1 cs ih => exact Nat.le_succ_of_le ih
  | case2 cs ih => exact Nat.le_succ_of_le ih
  | case3 cs ih => exact Nat.le_succ_of_le ih
  | case4 cs ih =>
      exact Nat.le_succ_of_le (Nat.le_succ_of_le ih)
  | case5 cs hSpace hTab hFeed hReturn =>
      have hSame := skipBreaks_of_ne hSpace hTab hFeed hReturn
      exact Nat.le_of_eq (congrArg List.length hSame)

/- A folded line is longer than what follows it. -/
theorem length_foldedLine?
    {cs left : List Char}
    (hFolded : foldedLine? cs = some left) :
    left.length < cs.length := by
  rcases Option.map_eq_some_iff.mp hFolded with
    ⟨line, hEnd, rfl⟩
  calc
    (skipBreaks line).length ≤ line.length :=
      length_skipBreaks line
    _ < (skipBlanks cs).length := length_newline? hEnd
    _ ≤ cs.length := (List.dropWhile_sublist _).length_le

/-
  Breaks end where something else stands, unless that is the
  first half of a line end.
-/
theorem skipBreaks_append
    {cs : List Char}
    (hSome : skipBreaks cs ≠ [])
    (hWhole : skipBreaks cs ≠ ['\r'])
    (rest : List Char) :
    skipBreaks (cs ++ rest) = skipBreaks cs ++ rest := by
  induction cs using skipBreaks.induct with
  | case1 cs ih => exact ih hSome hWhole
  | case2 cs ih => exact ih hSome hWhole
  | case3 cs ih => exact ih hSome hWhole
  | case4 cs ih => exact ih hSome hWhole
  | case5 cs hSpace hTab hFeed hReturn =>
      rw [skipBreaks_of_ne hSpace hTab hFeed hReturn]
        at hSome hWhole ⊢
      cases cs with
      | nil => exact absurd rfl hSome
      | cons c cs =>
          apply skipBreaks_of_ne
          · rintro more hCase
            exact hSpace cs (by rw [(List.cons.inj hCase).1])
          · rintro more hCase
            exact hTab cs (by rw [(List.cons.inj hCase).1])
          · rintro more hCase
            exact hFeed cs (by rw [(List.cons.inj hCase).1])
          · rintro more hCase
            rcases List.cons.inj hCase with ⟨rfl, hMore⟩
            cases cs with
            | nil => exact hWhole rfl
            | cons d cs =>
                rcases List.cons.inj hMore with ⟨rfl, _⟩
                exact hReturn cs rfl

theorem foldedLine?_append
    {cs left : List Char}
    (hFolded : foldedLine? cs = some left)
    (hSome : left ≠ [])
    (hWhole : left ≠ ['\r'])
    (rest : List Char) :
    foldedLine? (cs ++ rest) = some (left ++ rest) := by
  rcases Option.map_eq_some_iff.mp hFolded with
    ⟨line, hEnd, rfl⟩
  have hBlanks :
      skipBlanks (cs ++ rest) = skipBlanks cs ++ rest := by
    unfold skipBlanks at hEnd ⊢
    rw [List.dropWhile_append, if_neg]
    intro hNone
    rw [List.isEmpty_iff.mp hNone] at hEnd
    cases hEnd
  rw [foldedLine?, hBlanks, newline?_append hEnd rest,
    Option.map_some, skipBreaks_append hSome hWhole]

namespace TakesRuns

variable {quote : Char}
variable {scan :
  Nat → List Char → Option (List Char × List Char)}

/- A run of quotes is read again with more behind it. -/
theorem reads
    {fuel : Nat}
    {cs text left rest : List Char}
    (hRuns : TakesRuns quote scan)
    (hNil : ∀ fuel, scan fuel [] = none)
    (hLeft : left ≠ [])
    (hScan : scan (fuel + 1) (quote :: cs) = some (text, left))
    (hMore :
      ∀ {cs text},
        scan fuel cs = some (text, left) →
          Reads scan (cs ++ rest) text (left ++ rest)) :
    Reads scan (quote :: cs ++ rest) text (left ++ rest) := by
  have hSplit :
      quote :: cs =
        List.replicate (runLength quote cs + 1) quote ++
          behindRun quote cs := by
    rw [List.replicate_succ, List.cons_append,
      replicate_append_behindRun]
  have hHead (hSome : behindRun quote cs ≠ []) :
      (behindRun quote cs ++ rest).head? ≠ some quote := by
    rw [head?_append_of_ne_nil hSome]
    exact head?_behindRun quote cs
  rw [hRuns, quotesOf] at hScan
  rw [hSplit, List.append_assoc]
  by_cases hFew : runLength quote cs + 1 < 3
  · rw [if_pos hFew] at hScan
    rcases exists_of_andThen hScan with ⟨more, hRest, rfl⟩
    apply hRuns.inside (Nat.le_of_lt_succ hFew) _ (hMore hRest)
    apply hHead
    intro hNone
    rw [hNone, hNil] at hRest
    cases hRest
  · rw [if_neg hFew] at hScan
    by_cases hMany : runLength quote cs + 1 ≤ 5
    · rw [if_pos hMany] at hScan
      cases hScan
      have hExtra : runLength quote cs + 1 - 3 ≤ 2 := by omega
      have hClosing := hRuns.closing hExtra (hHead hLeft)
      rw [Nat.sub_add_cancel (Nat.le_of_not_lt hFew)]
        at hClosing
      exact hClosing
    · rw [if_neg hMany] at hScan
      cases hScan

end TakesRuns

/- A line end is read as a line feed. -/
theorem basicLines?_newline
    {cs input : List Char}
    (hEnd : newline? cs = some input)
    (fuel : Nat) :
    basicLines? (fuel + 1) cs =
      andThen ['\n'] (basicLines? fuel input) := by
  unfold newline? at hEnd
  split at hEnd
  · cases hEnd
    rfl
  · cases hEnd
    rfl
  · cases hEnd

theorem literalLines?_newline
    {cs input : List Char}
    (hEnd : newline? cs = some input)
    (fuel : Nat) :
    literalLines? (fuel + 1) cs =
      andThen ['\n'] (literalLines? fuel input) := by
  unfold newline? at hEnd
  split at hEnd
  · cases hEnd
    rfl
  · cases hEnd
    rfl
  · cases hEnd

/- What begins with a line end is read as what follows. -/
theorem Reads.newline
    {scan :
      Nat → List Char → Option (List Char × List Char)}
    {cs input text rest : List Char}
    (hReads : Reads scan input text rest)
    (hEnd : newline? cs = some input)
    (hScan :
      ∀ fuel,
        scan (fuel + 1) cs =
          andThen ['\n'] (scan fuel input)) :
    Reads scan cs ('\n' :: text) rest := by
  intro fuel hFuel
  have hShorter := length_newline? hEnd
  cases fuel with
  | zero => cases hFuel
  | succ fuel =>
      rw [hScan, hReads fuel (by omega)]
      rfl

/- A folded line is read as what follows it. -/
theorem Reads.basicLines_folded
    {cs input text rest : List Char}
    (hReads : Reads basicLines? input text rest)
    (hFolded : foldedLine? cs = some input) :
    Reads basicLines? ('\\' :: cs) text rest := by
  intro fuel hFuel
  have hShorter := length_foldedLine? hFolded
  cases fuel with
  | zero => cases hFuel
  | succ fuel =>
      rw [List.length_cons] at hFuel
      simp only [basicLines?, hFolded]
      exact hReads fuel (by omega)

/- Nothing is read from half a line end. -/
theorem basicLines?_half (fuel : Nat) :
    basicLines? fuel ['\r'] = none := by
  cases fuel with
  | zero => rfl
  | succ fuel => rfl

theorem basicLines?_nil (fuel : Nat) :
    basicLines? fuel [] = none := by
  cases fuel with
  | zero => rfl
  | succ fuel => rfl

theorem literalLines?_nil (fuel : Nat) :
    literalLines? fuel [] = none := by
  cases fuel with
  | zero => rfl
  | succ fuel => rfl

/- A string with escapes is read up to its last quotes. -/
theorem reads_of_basicLines?
    {fuel : Nat}
    {cs text left : List Char}
    (hBody : basicLines? fuel cs = some (text, left))
    (hLeft : left ≠ [])
    (rest : List Char) :
    Reads basicLines? (cs ++ rest) text (left ++ rest) := by
  induction fuel generalizing cs text with
  | zero => cases hBody
  | succ fuel ih =>
      rw [basicLines?.eq_def] at hBody
      split at hBody
      case h_1 => cases hBody
      case h_2 => cases hBody
      case h_3 hCase =>
        cases hCase
        apply
          takesRuns_basicLines.reads basicLines?_nil hLeft
            hBody
        exact ih
      case h_4 hCase =>
        cases hCase
        split at hBody
        · rename_i hFolded
          apply (ih hBody).basicLines_folded
          apply foldedLine?_append hFolded
          · rintro rfl
            rw [basicLines?_nil] at hBody
            cases hBody
          · rintro rfl
            rw [basicLines?_half] at hBody
            cases hBody
        · split at hBody
          · rename_i hEscape
            rcases exists_of_andThen hBody with
              ⟨more, hMore, rfl⟩
            rcases spells_of_escape? hEscape true with
              ⟨code, rfl, hSpells⟩
            have hReads := (ih hMore).basicLines_cons hSpells
            simp only [List.cons_append, List.append_assoc]
              at hReads ⊢
            exact hReads
          · cases hBody
      case h_5 hQuote hBackslash hCase =>
        cases hCase
        split at hBody
        · rename_i hEnd
          rcases exists_of_andThen hBody with
            ⟨more, hMore, rfl⟩
          have hMoreEnd := newline?_append hEnd rest
          exact
            (ih hMore).newline hMoreEnd
              (basicLines?_newline hMoreEnd)
        · split at hBody
          · rename_i hPlain
            rcases exists_of_andThen hBody with
              ⟨more, hMore, rfl⟩
            exact
              (ih hMore).basicLines_cons
                (.plain hPlain hQuote hBackslash)
          · cases hBody

theorem reads_of_literalLines?
    {fuel : Nat}
    {cs text left : List Char}
    (hBody : literalLines? fuel cs = some (text, left))
    (hLeft : left ≠ [])
    (rest : List Char) :
    Reads literalLines? (cs ++ rest) text (left ++ rest) := by
  induction fuel generalizing cs text with
  | zero => cases hBody
  | succ fuel ih =>
      rw [literalLines?.eq_def] at hBody
      split at hBody
      case h_1 => cases hBody
      case h_2 => cases hBody
      case h_3 hCase =>
        cases hCase
        apply
          takesRuns_literalLines.reads literalLines?_nil hLeft
            hBody
        exact ih
      case h_4 hQuote hCase =>
        cases hCase
        split at hBody
        · rename_i hEnd
          rcases exists_of_andThen hBody with
            ⟨more, hMore, rfl⟩
          have hMoreEnd := newline?_append hEnd rest
          exact
            (ih hMore).newline hMoreEnd
              (literalLines?_newline hMoreEnd)
        · split at hBody
          · rename_i hPlain
            rcases exists_of_andThen hBody with
              ⟨more, hMore, rfl⟩
            exact
              (ih hMore).literalLines_cons (.inr hPlain) hQuote
          · cases hBody

------------------------------------------------------------
-- Strings
------------------------------------------------------------

/- What is no line end does not become one. -/
theorem newline?_append_eq_none
    {cs : List Char}
    (hNone : newline? cs = none)
    (hSome : cs ≠ [])
    (hWhole : cs ≠ ['\r'])
    (rest : List Char) :
    newline? (cs ++ rest) = none := by
  cases cs with
  | nil => exact absurd rfl hSome
  | cons c cs =>
      unfold newline?
      split
      · rename_i hCase
        cases (List.cons.inj hCase).1
        cases hNone
      · rename_i hCase
        rcases List.cons.inj hCase with ⟨rfl, hMore⟩
        cases cs with
        | nil => exact absurd rfl hWhole
        | cons d cs =>
            cases (List.cons.inj hMore).1
            cases hNone
      · rfl

theorem skipNewline_append
    {cs : List Char}
    (hSome : cs ≠ [])
    (hWhole : cs ≠ ['\r'])
    (rest : List Char) :
    skipNewline (cs ++ rest) = skipNewline cs ++ rest := by
  cases hEnd : newline? cs with
  | none =>
      rw [skipNewline, skipNewline, hEnd,
        newline?_append_eq_none hEnd hSome hWhole]
      rfl
  | some left =>
      rw [skipNewline, skipNewline, hEnd,
        newline?_append hEnd]
      rfl

theorem length_skipNewline (cs : List Char) :
    (skipNewline cs).length ≤ cs.length := by
  cases hEnd : newline? cs with
  | none =>
      rw [skipNewline, hEnd]
      exact Nat.le_refl _
  | some left =>
      rw [skipNewline, hEnd]
      exact Nat.le_of_lt (length_newline? hEnd)

/- A string on one line does not turn into one of several. -/
theorem string?_append_of_line
    {quote : Char}
    {body text left : List Char}
    (hQuote : quote = '"' ∨ quote = '\'')
    (hSingle : ∀ more, body ≠ quote :: quote :: more)
    (hLine : lineString? (quote :: body) = some (text, left))
    (hLeft : left ≠ [])
    (rest : List Char) :
    string? (quote :: body ++ rest) =
      some (text, left ++ rest) := by
  rw [List.cons_append, string?_of_line]
  · exact lineString?_append hLine rest
  · intro more hSame
    match body with
    | [] =>
        rcases hQuote with rfl | rfl
        · cases hLine
        · cases hLine
    | [c] =>
        cases (List.cons.inj hSame).1
        apply hLeft
        rcases hQuote with rfl | rfl
        · cases hLine
          rfl
        · cases hLine
          rfl
    | c :: d :: body =>
        rcases List.cons.inj hSame with ⟨rfl, hMore⟩
        cases (List.cons.inj hMore).1
        exact hSingle body rfl

/-
  A string of any kind is read whatever follows it, if
  something did follow it.
-/
theorem string?_append
    {cs text left : List Char}
    (hString : string? cs = some (text, left))
    (hLeft : left ≠ [])
    (rest : List Char) :
    string? (cs ++ rest) = some (text, left ++ rest) := by
  unfold string? at hString
  split at hString
  · rename_i cs
    have hReads := reads_of_basicLines? hString hLeft rest
    rw [← skipNewline_append] at hReads
    · exact
        hReads _ (Nat.lt_succ_of_le (length_skipNewline _))
    · rintro rfl
      cases hString
    · rintro rfl
      cases hString
  · rename_i cs
    have hReads := reads_of_literalLines? hString hLeft rest
    rw [← skipNewline_append] at hReads
    · exact
        hReads _ (Nat.lt_succ_of_le (length_skipNewline _))
    · rintro rfl
      cases hString
    · rintro rfl
      cases hString
  · rename_i hDouble hSingle
    rcases lineString?_cons hString with
      ⟨quote, body, rfl, hQuote⟩
    apply string?_append_of_line hQuote _ hString hLeft
    rintro more rfl
    rcases hQuote with rfl | rfl
    · exact hDouble more rfl
    · exact hSingle more rfl

end Toml

end FrameLink
