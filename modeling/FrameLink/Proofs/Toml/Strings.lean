import FrameLink.Proofs.Toml.Escapes

/-
  Strings that are written are read again.

  Whatever a string holds, and in whichever of the four ways
  it is written, reading it at the end of a line gives it back
  and leaves that line end (`Toml.string?_writeString`).

  Runs of quotes are what the styles over several lines have
  to be careful with.  A run that has been written in part is
  kept in front of what follows, so that the induction is on
  the characters that are left.

  Key definitions include:
    * `Toml.TakesRuns`
-/

------------------------------------------------------------
-- Runs of Quotes
------------------------------------------------------------

namespace FrameLink

namespace Toml

/- A run of a character ends where another begins. -/
theorem run_replicate
    {quote : Char}
    {cs : List Char}
    (hHead : cs.head? ≠ some quote)
    (n : Nat) :
    runLength quote (List.replicate n quote ++ cs) = n ∧
      behindRun quote (List.replicate n quote ++ cs) = cs := by
  have hAll :
      ∀ c ∈ List.replicate n quote, (c == quote) = true := by
    intro c hMember
    rw [List.eq_of_mem_replicate hMember]
    exact beq_self_eq_true quote
  unfold runLength behindRun
  rw [List.takeWhile_append_of_pos hAll,
    List.dropWhile_append_of_pos hAll]
  cases cs with
  | nil => simp
  | cons c cs =>
      have hOther : ¬(c == quote) = true := by
        intro hSame
        exact hHead (congrArg some (eq_of_beq hSame))
      simp [hOther]

/- How a scanner over several lines takes runs of a quote. -/
def TakesRuns
    (quote : Char)
    (scan :
      Nat → List Char → Option (List Char × List Char)) :
    Prop :=
  ∀ fuel cs,
    scan (fuel + 1) (quote :: cs) =
      match quotesOf (runLength quote cs + 1) with
      | .inside n =>
          andThen (List.replicate n quote)
            (scan fuel (behindRun quote cs))
      | .closing n =>
          some (List.replicate n quote, behindRun quote cs)
      | .tooMany => none

theorem takesRuns_basicLines : TakesRuns '"' basicLines? :=
  fun _ _ => rfl

theorem takesRuns_literalLines :
    TakesRuns '\'' literalLines? :=
  fun _ _ => rfl

namespace TakesRuns

variable {quote : Char}
variable {scan :
  Nat → List Char → Option (List Char × List Char)}

/- Up to two quotes belong to the string. -/
theorem inside
    {n : Nat}
    {input text rest : List Char}
    (hRuns : TakesRuns quote scan)
    (hFew : n ≤ 2)
    (hHead : input.head? ≠ some quote)
    (hReads : Reads scan input text rest) :
    Reads scan (List.replicate n quote ++ input)
      (List.replicate n quote ++ text) rest := by
  cases n with
  | zero => exact hReads
  | succ n =>
      intro fuel hFuel
      cases fuel with
      | zero => cases hFuel
      | succ fuel =>
          rcases run_replicate hHead n with ⟨hLength, hBehind⟩
          have hRest : scan fuel input = some (text, rest) := by
            apply hReads
            simp only [List.length_append,
              List.length_replicate] at hFuel
            omega
          rw [List.replicate_succ, List.cons_append, hRuns,
            hLength, hBehind, quotesOf,
            if_pos (Nat.lt_succ_of_le hFew)]
          simp only [hRest, andThen, List.replicate_succ]

/- Three more quotes close the string. -/
theorem closing
    {n : Nat}
    {rest : List Char}
    (hRuns : TakesRuns quote scan)
    (hFew : n ≤ 2)
    (hHead : rest.head? ≠ some quote) :
    Reads scan (List.replicate (n + 3) quote ++ rest)
      (List.replicate n quote) rest := by
  intro fuel hFuel
  cases fuel with
  | zero => cases hFuel
  | succ fuel =>
      rcases run_replicate hHead (n + 2) with
        ⟨hLength, hBehind⟩
      rw [List.replicate_succ, List.cons_append, hRuns,
        hLength, hBehind, quotesOf,
        if_neg (Nat.not_lt.mpr (Nat.le_add_left 3 n)),
        if_pos (Nat.add_le_add_right hFew 3)]
      rfl

end TakesRuns

/- A run that has been passed counts. -/
theorem le_longestRun
    (quote : Char)
    (n : Nat)
    (cs : List Char) :
    n ≤ longestRun quote n cs := by
  induction cs generalizing n with
  | nil => exact Nat.le_refl n
  | cons c cs ih =>
      rw [longestRun]
      split
      · exact Nat.le_trans (Nat.le_succ n) (ih (n + 1))
      · exact Nat.le_max_left _ _

/- Where a character is, there is a run of it. -/
theorem longestRun_of_mem
    {quote : Char}
    {cs : List Char}
    (hMember : quote ∈ cs)
    (n : Nat) :
    0 < longestRun quote n cs := by
  induction cs generalizing n with
  | nil => cases hMember
  | cons c cs ih =>
      rw [longestRun]
      split
      · exact
          Nat.lt_of_lt_of_le (Nat.succ_pos n)
            (le_longestRun quote (n + 1) cs)
      · rename_i hOther
        rcases List.mem_cons.mp hMember with hSame | hLater
        · exact absurd hSame.symm hOther
        · exact
            Nat.lt_of_lt_of_le (ih hLater 0)
              (Nat.le_max_right _ _)

theorem replicate_append_cons
    (n : Nat)
    (quote : Char)
    (cs : List Char) :
    List.replicate n quote ++ quote :: cs =
      List.replicate (n + 1) quote ++ cs := by
  rw [List.replicate_succ', List.append_assoc]
  rfl

------------------------------------------------------------
-- Strings over Several Lines
------------------------------------------------------------

/- A character is read among lines as it was written. -/
theorem Reads.basicLines_cons
    {c : Char}
    {written input text rest : List Char}
    (hReads : Reads basicLines? input text rest)
    (hSpells : Spells true c written) :
    Reads basicLines? (written ++ input) (c :: text) rest := by
  intro fuel hFuel
  cases fuel with
  | zero => cases hFuel
  | succ fuel =>
      cases hSpells with
      | plain hPlain hQuote hBackslash =>
          have hRest :=
            hReads fuel (Nat.lt_of_succ_lt_succ hFuel)
          rcases ne_of_isPlain hPlain with ⟨hFeed, hReturn⟩
          rw [List.singleton_append, basicLines?]
          · simp only [newline?_of_ne hFeed hReturn, hPlain,
              hRest, andThen, if_true]
            rfl
          · exact hQuote
          · exact hBackslash
      | lineEnd _ hFeed =>
          have hRest :=
            hReads fuel (Nat.lt_of_succ_lt_succ hFuel)
          subst hFeed
          change andThen ['\n'] (basicLines? fuel input) = _
          rw [hRest]
          rfl
      | escaped hFolded hEscape =>
          have hRest :
              basicLines? fuel input = some (text, rest) := by
            apply hReads
            simp only [List.cons_append, List.length_cons,
              List.length_append] at hFuel
            omega
          simp only [List.cons_append, basicLines?, hFolded,
            hEscape, hRest]
          rfl

/-
  So is everything that is written over several lines.  The
  quotes in front are those just written.
-/
theorem reads_basicLines
    {n : Nat}
    (hFew : n ≤ 2)
    {rest : List Char}
    (hHead : rest.head? ≠ some '"')
    (cs : List Char) :
    Reads basicLines?
      (List.replicate n '"' ++
        (writeBody true n cs ++ ('"' :: '"' :: '"' :: rest)))
      (List.replicate n '"' ++ cs) rest := by
  induction cs generalizing n with
  | nil =>
      have hClosing :=
        takesRuns_basicLines.closing hFew hHead
      rw [writeBody, List.nil_append, List.append_nil,
        replicate_append_cons, replicate_append_cons,
        replicate_append_cons]
      exact hClosing
  | cons c cs ih =>
      have hInside {written : List Char}
          (hSpells : Spells true c written) :
          Reads basicLines?
            (List.replicate n '"' ++
              (written ++
                (writeBody true 0 cs ++
                  ('"' :: '"' :: '"' :: rest))))
            (List.replicate n '"' ++ (c :: cs)) rest := by
        rcases hSpells.head with
          ⟨first, more, hWritten, hFirst, _⟩
        apply takesRuns_basicLines.inside hFew
        · rw [hWritten]
          exact fun hSame => hFirst (Option.some.inj hSame)
        · exact (ih (Nat.zero_le 2)).basicLines_cons hSpells
      by_cases hQuote : c = '"'
      · subst hQuote
        rw [writeBody]
        split
        · rename_i hMore
          rw [List.cons_append, replicate_append_cons,
            replicate_append_cons]
          apply ih
          simp only [Bool.true_and, decide_eq_true_eq] at hMore
          exact hMore
        · exact hInside (spells_quote true)
      · rw [writeBody]
        · rw [List.append_assoc]
          exact hInside (spells_writeChar hQuote true)
        · exact hQuote

/- Without escapes every character stands for itself. -/
theorem Reads.literalLines_cons
    {c : Char}
    {input text rest : List Char}
    (hReads : Reads literalLines? input text rest)
    (hShown : c = '\n' ∨ isPlain c = true)
    (hQuote : c ≠ '\'') :
    Reads literalLines? (c :: input) (c :: text) rest := by
  intro fuel hFuel
  cases fuel with
  | zero => cases hFuel
  | succ fuel =>
      have hRest := hReads fuel (Nat.lt_of_succ_lt_succ hFuel)
      rw [literalLines?]
      · rcases hShown with rfl | hPlain
        · simp only [newline?, hRest]
          rfl
        · rcases ne_of_isPlain hPlain with ⟨hFeed, hReturn⟩
          simp only [newline?_of_ne hFeed hReturn, hPlain,
            hRest, andThen, if_true]
          rfl
      · exact hQuote

theorem reads_literalLines
    {n : Nat}
    (hFew : n ≤ 2)
    {cs rest : List Char}
    (hHead : rest.head? ≠ some '\'')
    (hShown : ∀ c ∈ cs, c = '\n' ∨ isPlain c = true)
    (hRuns : longestRun '\'' n cs ≤ 2) :
    Reads literalLines?
      (List.replicate n '\'' ++
        (cs ++ ('\'' :: '\'' :: '\'' :: rest)))
      (List.replicate n '\'' ++ cs) rest := by
  induction cs generalizing n with
  | nil =>
      have hClosing :=
        takesRuns_literalLines.closing hFew hHead
      rw [List.nil_append, List.append_nil,
        replicate_append_cons, replicate_append_cons,
        replicate_append_cons]
      exact hClosing
  | cons c cs ih =>
      have hRest :
          ∀ d ∈ cs, d = '\n' ∨ isPlain d = true :=
        fun d hMember =>
          hShown d (List.mem_cons_of_mem c hMember)
      rw [longestRun] at hRuns
      by_cases hQuote : c = '\''
      · subst hQuote
        rw [if_pos rfl] at hRuns
        rw [List.cons_append, replicate_append_cons,
          replicate_append_cons]
        apply ih _ hRest hRuns
        exact Nat.le_trans (le_longestRun _ _ _) hRuns
      · rw [if_neg hQuote] at hRuns
        apply takesRuns_literalLines.inside hFew
        · exact fun hSame => hQuote (Option.some.inj hSame)
        · have hLater : longestRun '\'' 0 cs ≤ 2 :=
            Nat.le_trans (Nat.le_max_right _ _) hRuns
          apply Reads.literalLines_cons
          · exact ih (Nat.zero_le 2) hRest hLater
          · exact hShown c List.mem_cons_self
          · exact hQuote

------------------------------------------------------------
-- Styles
------------------------------------------------------------

/- Nothing in the string has to be escaped. -/
theorem shown_of_needsEscape
    {cs : List Char}
    (hControls : cs.any needsEscape = false) :
    ∀ c ∈ cs, c = '\n' ∨ isPlain c = true := by
  intro c hMember
  apply isPlain_of_needsEscape
  exact
    Bool.eq_false_iff.mpr
      (List.any_eq_false.mp hControls c hMember)

/- What is written between single quotes on one line. -/
theorem shown_of_literal
    {cs : List Char}
    (hStyle : styleOf cs = .literal) :
    ∀ c ∈ cs, isPlain c = true ∧ c ≠ '\'' := by
  simp only [styleOf] at hStyle
  split at hStyle
  · cases hStyle
  · split at hStyle
    · rename_i hLiteral
      simp only [Bool.and_eq_true, Bool.not_eq_true',
        beq_iff_eq] at hLiteral
      rcases hLiteral with ⟨⟨hControls, hSingles⟩, hLine⟩
      intro c hMember
      constructor
      · rcases shown_of_needsEscape hControls c hMember with
          rfl | hPlain
        · rw [List.contains_iff_mem.mpr hMember] at hLine
          cases hLine
        · exact hPlain
      · rintro rfl
        exact
          absurd hSingles
            (Nat.ne_of_gt (longestRun_of_mem hMember 0))
    · split at hStyle
      · cases hStyle
      · split at hStyle
        · cases hStyle
        · split at hStyle
          · cases hStyle
          · cases hStyle

/- What is written between three single quotes. -/
theorem shown_of_literalLines
    {cs : List Char}
    (hStyle : styleOf cs = .literalLines) :
    (∀ c ∈ cs, c = '\n' ∨ isPlain c = true) ∧
      longestRun '\'' 0 cs ≤ 2 := by
  simp only [styleOf] at hStyle
  split at hStyle
  · cases hStyle
  · split at hStyle
    · cases hStyle
    · split at hStyle
      · cases hStyle
      · split at hStyle
        · rename_i hLiteral
          simp only [Bool.and_eq_true, Bool.not_eq_true',
            decide_eq_true_eq] at hLiteral
          exact ⟨shown_of_needsEscape hLiteral.1, hLiteral.2⟩
        · split at hStyle
          · cases hStyle
          · cases hStyle

------------------------------------------------------------
-- Strings
------------------------------------------------------------

/- Two quotes that no third follows open one line. -/
theorem string?_of_line
    {quote : Char}
    {cs : List Char}
    (hSingle : ∀ more, cs ≠ quote :: quote :: more) :
    string? (quote :: cs) = lineString? (quote :: cs) := by
  unfold string?
  split
  · rename_i hEq
    cases hEq
    exact absurd rfl (hSingle _)
  · rename_i hEq
    cases hEq
    exact absurd rfl (hSingle _)
  · rfl

/- A closing quote before a line end is the only one. -/
theorem closed_ne
    {quote : Char}
    {body : List Char}
    (hQuote : quote ≠ '\n')
    (hBody : body.head? ≠ some quote)
    (rest more : List Char) :
    body ++ quote :: '\n' :: rest ≠ quote :: quote :: more := by
  cases body with
  | nil =>
      intro hSame
      cases hSame
      exact hQuote rfl
  | cons c body =>
      intro hSame
      exact hBody (congrArg some (List.cons.inj hSame).1)

theorem head?_lineEnd
    {quote : Char}
    (hQuote : quote ≠ '\n')
    (rest : List Char) :
    ('\n' :: rest).head? ≠ some quote :=
  fun hSame => hQuote (Option.some.inj hSame).symm

/- A string that does not begin with a line end is whole. -/
theorem skipNewline_openingLine
    {cs body : List Char}
    (hBody :
      '\n' ∉ cs →
        ∃ c more,
          body = c :: more ∧ c ≠ '\n' ∧ c ≠ '\r') :
    skipNewline (openingLine cs ++ body) = body := by
  unfold openingLine
  split
  · rfl
  · rename_i hNone
    rcases hBody (fun hMember =>
      hNone (List.contains_iff_mem.mpr hMember)) with
      ⟨c, more, rfl, hFeed, hReturn⟩
    rw [List.nil_append, skipNewline,
      newline?_of_ne hFeed hReturn]
    rfl

/- A string without escapes is read over several lines. -/
theorem string?_literalLines
    {cs : List Char}
    (hShown : ∀ c ∈ cs, c = '\n' ∨ isPlain c = true)
    (hRuns : longestRun '\'' 0 cs ≤ 2)
    (rest : List Char) :
    string?
        ('\'' :: '\'' :: '\'' ::
          (openingLine cs ++
            (cs ++ '\'' :: '\'' :: '\'' :: '\n' :: rest))) =
      some (cs, '\n' :: rest) := by
  have hReads :=
    reads_literalLines (Nat.zero_le 2)
      (head?_lineEnd (by decide) rest) hShown hRuns
  rw [string?, skipNewline_openingLine]
  · apply hReads
    simp only [List.replicate_zero, List.nil_append,
      List.length_append]
    omega
  · intro hNone
    cases cs with
    | nil => exact ⟨'\'', _, rfl, by decide, by decide⟩
    | cons c cs =>
        rcases hShown c List.mem_cons_self with rfl | hPlain
        · exact absurd List.mem_cons_self hNone
        · exact ⟨c, _, rfl, ne_of_isPlain hPlain⟩

/- A string with escapes is read over several lines. -/
theorem string?_basicLines
    (cs rest : List Char) :
    string?
        ('"' :: '"' :: '"' ::
          (openingLine cs ++
            (writeBody true 0 cs ++
              '"' :: '"' :: '"' :: '\n' :: rest))) =
      some (cs, '\n' :: rest) := by
  have hReads :=
    reads_basicLines (Nat.zero_le 2)
      (head?_lineEnd (by decide) rest) cs
  rw [string?, skipNewline_openingLine]
  · apply hReads
    simp only [List.replicate_zero, List.nil_append,
      List.length_append]
    omega
  · intro hNone
    cases cs with
    | nil => exact ⟨'"', _, rfl, by decide, by decide⟩
    | cons c cs =>
        by_cases hQuote : c = '"'
        · subst hQuote
          exact ⟨'"', _, rfl, by decide, by decide⟩
        · rcases (spells_writeChar hQuote true).head with
            ⟨first, more, hWritten, _, hFirst⟩
          have hFeed : c ≠ '\n' := by
            rintro rfl
            exact hNone List.mem_cons_self
          rw [writeBody, hWritten]
          · exact ⟨first, _, rfl, hFirst hFeed⟩
          · exact hQuote

/- A string without escapes is read on one line. -/
theorem string?_literal
    {cs : List Char}
    (hShown : ∀ c ∈ cs, isPlain c = true ∧ c ≠ '\'')
    (rest : List Char) :
    string? ('\'' :: (cs ++ '\'' :: '\n' :: rest)) =
      some (cs, '\n' :: rest) := by
  rw [string?_of_line]
  · exact literalBody?_append hShown ('\n' :: rest)
  · apply closed_ne (by decide)
    intro hSame
    have hMember := List.mem_of_head? hSame
    exact (hShown _ hMember).2 rfl

/- A string with escapes is read on one line. -/
theorem string?_basic
    (cs rest : List Char) :
    string?
        ('"' :: (writeBody false 0 cs ++ '"' :: '\n' :: rest)) =
      some (cs, '\n' :: rest) := by
  rw [string?_of_line]
  · exact
      reads_basicBody cs ('\n' :: rest) _ (Nat.lt_succ_self _)
  · apply closed_ne (by decide)
    cases cs with
    | nil => nofun
    | cons c cs =>
        by_cases hQuote : c = '"'
        · subst hQuote
          intro hSame
          exact absurd (Option.some.inj hSame) (by decide)
        · rcases (spells_writeChar hQuote false).head with
            ⟨first, more, hWritten, hFirst, _⟩
          rw [writeBody, hWritten]
          · exact fun hSame => hFirst (Option.some.inj hSame)
          · exact hQuote

/-
  Every string is read as it was written, at the end of a
  line.
-/
theorem string?_writeString
    (cs rest : List Char) :
    string? (writeString cs ++ '\n' :: rest) =
      some (cs, '\n' :: rest) := by
  unfold writeString
  split
  case h_1 =>
    simp only [List.cons_append, List.append_assoc,
      List.nil_append]
    exact string?_basic cs rest
  case h_2 hStyle =>
    simp only [List.cons_append, List.append_assoc,
      List.nil_append]
    exact string?_literal (shown_of_literal hStyle) rest
  case h_3 =>
    simp only [List.cons_append, List.append_assoc,
      List.nil_append]
    exact string?_basicLines cs rest
  case h_4 hStyle =>
    rcases shown_of_literalLines hStyle with ⟨hShown, hRuns⟩
    simp only [List.cons_append, List.append_assoc,
      List.nil_append]
    exact string?_literalLines hShown hRuns rest

end Toml

end FrameLink
