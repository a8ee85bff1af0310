import FrameLink.Proofs.Toml.Quotes
import FrameLink.Proofs.Toml.Values

/-
  Scalars are read on a line of their own.

  No number, date or time runs beyond the end of its line, so
  what its reader makes of a line does not depend on the lines
  that follow (`Toml.Stops`, `Toml.StopsWith`).  Strings do
  not end there, but at their quotes.

  So whatever text is read as a scalar where nothing follows
  its line is read as that scalar in every document
  (`Toml.IsLiteral.written`).

  Key definitions include:
    * `Toml.Stops`, `Toml.StopsWith`
    * `Toml.IsLiteral`
-/

------------------------------------------------------------
-- Readers of a Line
------------------------------------------------------------

namespace FrameLink

namespace Toml

open Text (after? digit?)

/- A reader leaves a line end and what follows it. -/
def Stops (read : List Char → Option (List Char)) : Prop :=
  ∀ cs rest,
    read (cs ++ '\n' :: rest) =
      (read cs).map (· ++ '\n' :: rest)

/- A reader that yields something leaves it as well. -/
def StopsWith
    {α : Type}
    (read : List Char → Option (α × List Char)) : Prop :=
  ∀ cs rest,
    read (cs ++ '\n' :: rest) =
      (read cs).map
        (fun found => (found.1, found.2 ++ '\n' :: rest))

theorem bind_of_map
    {α β : Type}
    {first changed : Option α}
    {next : α → Option β}
    {add : α → α}
    {more : β → β}
    (hFirst : changed = first.map add)
    (hNext : ∀ a, next (add a) = (next a).map more) :
    changed.bind next = (first.bind next).map more := by
  rw [hFirst]
  cases first with
  | none => rfl
  | some a => exact hNext a

/- A word does not begin where its line ends. -/
theorem append_ne
    (word : List Char)
    {cs : List Char}
    (hFeed : '\n' ∉ word)
    (hOther : ∀ more, cs ≠ word ++ more)
    (rest more : List Char) :
    cs ++ '\n' :: rest ≠ word ++ more := by
  induction word generalizing cs with
  | nil => exact absurd rfl (hOther cs)
  | cons c word ih =>
      intro hSame
      cases cs with
      | nil =>
          apply hFeed
          rw [(List.cons.inj hSame).1]
          exact List.mem_cons_self
      | cons d cs =>
          rcases List.cons.inj hSame with ⟨rfl, hMore⟩
          refine ih ?_ ?_ hMore
          · exact fun hMember =>
              hFeed (List.mem_cons_of_mem d hMember)
          · rintro more rfl
            exact hOther more rfl

/- A character is found before the end of the line. -/
theorem after?_stops
    {c : Char}
    (hFeed : c ≠ '\n') :
    Stops (after? c) := by
  intro cs rest
  cases cs with
  | nil => exact if_neg (Ne.symm hFeed)
  | cons d cs =>
      simp only [List.cons_append, after?]
      split
      · rfl
      · rfl

------------------------------------------------------------
-- Dates and Times
------------------------------------------------------------

/- A number of two digits stands on one line. -/
theorem twoDigits?_stops
    (least most : Nat) :
    StopsWith (twoDigits? least most) := by
  intro cs rest
  match cs with
  | [] =>
      cases rest with
      | nil => rfl
      | cons _ _ => rfl
  | [a] =>
      change (digit? 10 a).bind _ = none
      cases digit? 10 a with
      | none => rfl
      | some _ => rfl
  | a :: b :: cs =>
      simp only [List.cons_append, twoDigits?]
      cases digit? 10 a with
      | none => rfl
      | some _ =>
          cases digit? 10 b with
          | none => rfl
          | some _ =>
              dsimp only [Option.bind_eq_bind, Option.bind_some]
              split
              · rfl
              · rfl

theorem year?_stops : StopsWith year? := by
  intro cs rest
  match cs with
  | [] =>
      match rest with
      | [] => rfl
      | [_] => rfl
      | [_, _] => rfl
      | _ :: _ :: _ :: _ => rfl
  | [a] =>
      match rest with
      | [] => rfl
      | [_] => rfl
      | _ :: _ :: _ =>
          change (digit? 10 a).bind _ = none
          cases digit? 10 a with
          | none => rfl
          | some _ => rfl
  | [a, b] =>
      match rest with
      | [] => rfl
      | _ :: _ =>
          change (digit? 10 a).bind _ = none
          cases digit? 10 a with
          | none => rfl
          | some _ =>
              change (digit? 10 b).bind _ = none
              cases digit? 10 b with
              | none => rfl
              | some _ => rfl
  | [a, b, c] =>
      change (digit? 10 a).bind _ = none
      cases digit? 10 a with
      | none => rfl
      | some _ =>
          change (digit? 10 b).bind _ = none
          cases digit? 10 b with
          | none => rfl
          | some _ =>
              change (digit? 10 c).bind _ = none
              cases digit? 10 c with
              | none => rfl
              | some _ => rfl
  | a :: b :: c :: d :: cs =>
      simp only [List.cons_append, year?]
      cases digit? 10 a with
      | none => rfl
      | some _ =>
          cases digit? 10 b with
          | none => rfl
          | some _ =>
              cases digit? 10 c with
              | none => rfl
              | some _ =>
                  cases digit? 10 d with
                  | none => rfl
                  | some _ => rfl

theorem date?_stops : Stops date? := by
  intro cs rest
  unfold date?
  apply bind_of_map (year?_stops cs rest)
  rintro ⟨year, cs⟩
  apply bind_of_map (after?_stops (by decide) cs rest)
  intro cs
  apply bind_of_map (twoDigits?_stops 1 12 cs rest)
  rintro ⟨month, cs⟩
  apply bind_of_map (after?_stops (by decide) cs rest)
  intro cs
  apply
    bind_of_map (twoDigits?_stops 1 (daysIn year month) cs rest)
  rintro ⟨day, cs⟩
  rfl

/- Digits end at the end of the line. -/
theorem dropWhile_isDigit_append
    (cs rest : List Char) :
    (cs ++ '\n' :: rest).dropWhile Char.isDigit =
      cs.dropWhile Char.isDigit ++ '\n' :: rest := by
  rw [List.dropWhile_append]
  split
  · rename_i hNone
    rw [List.isEmpty_iff.mp hNone]
    rfl
  · rfl

theorem fraction?_stops : Stops fraction? := by
  intro cs rest
  fun_cases fraction? cs with
  | case1 c cs hDigit =>
      simp only [List.cons_append, fraction?, hDigit, if_true,
        dropWhile_isDigit_append, Option.map_some]
  | case2 c cs hDigit =>
      simp only [List.cons_append, fraction?, hDigit]
      rfl
  | case3 => rfl
  | case4 cs hMore hAlone =>
      have hPoint : ∀ more, cs ≠ '.' :: more := by
        rintro more rfl
        cases more with
        | nil => exact hAlone rfl
        | cons c more => exact hMore c more rfl
      have hBehind := append_ne ['.'] (by decide) hPoint rest
      rw [fraction?]
      · rfl
      · exact fun c more => hBehind (c :: more)
      · exact hBehind []

theorem time?_stops : Stops time? := by
  intro cs rest
  unfold time?
  apply bind_of_map (twoDigits?_stops 0 23 cs rest)
  rintro ⟨_, cs⟩
  apply bind_of_map (after?_stops (by decide) cs rest)
  intro cs
  apply bind_of_map (twoDigits?_stops 0 59 cs rest)
  rintro ⟨_, cs⟩
  apply bind_of_map (after?_stops (by decide) cs rest)
  intro cs
  apply bind_of_map (twoDigits?_stops 0 60 cs rest)
  rintro ⟨_, cs⟩
  exact fraction?_stops cs rest

theorem offsetBody?_stops : Stops offsetBody? := by
  intro cs rest
  unfold offsetBody?
  apply bind_of_map (twoDigits?_stops 0 23 cs rest)
  rintro ⟨_, cs⟩
  apply bind_of_map (after?_stops (by decide) cs rest)
  intro cs
  apply bind_of_map (twoDigits?_stops 0 59 cs rest)
  rintro ⟨_, cs⟩
  rfl

theorem offset?_stops : Stops offset? := by
  intro cs rest
  fun_cases offset? cs with
  | case1 => rfl
  | case2 => rfl
  | case3 cs => exact offsetBody?_stops cs rest
  | case4 cs => exact offsetBody?_stops cs rest
  | case5 cs hUpper hLower hPlus hMinus =>
      rw [offset?]
      · rfl
      · exact append_ne ['Z'] (by decide) hUpper rest
      · exact append_ne ['z'] (by decide) hLower rest
      · exact append_ne ['+'] (by decide) hPlus rest
      · exact append_ne ['-'] (by decide) hMinus rest

theorem behindDate?_stops : Stops behindDate? := by
  intro cs rest
  fun_cases behindDate? cs with
  | case1 cs =>
      exact
        bind_of_map (time?_stops cs rest)
          (fun cs => offset?_stops cs rest)
  | case2 cs =>
      exact
        bind_of_map (time?_stops cs rest)
          (fun cs => offset?_stops cs rest)
  | case3 c cs hDigit =>
      simp only [List.cons_append, behindDate?, hDigit, if_true]
      exact
        bind_of_map (time?_stops (c :: cs) rest)
          (fun cs => offset?_stops cs rest)
  | case4 c cs hDigit =>
      simp only [List.cons_append, behindDate?, hDigit]
      rfl
  | case5 cs hUpper hLower hMore =>
      by_cases hAlone : cs = [' ']
      · subst hAlone
        rfl
      · have hSpace : ∀ more, cs ≠ ' ' :: more := by
          rintro more rfl
          cases more with
          | nil => exact hAlone rfl
          | cons c more => exact hMore c more rfl
        have hBehind := append_ne [' '] (by decide) hSpace rest
        rw [behindDate?]
        · rfl
        · exact append_ne ['T'] (by decide) hUpper rest
        · exact append_ne ['t'] (by decide) hLower rest
        · exact fun c more => hBehind (c :: more)

theorem dateTime?_stops : Stops dateTime? := by
  intro cs rest
  rw [dateTime?, dateTime?, date?_stops]
  cases date? cs with
  | none => exact time?_stops cs rest
  | some cs => exact behindDate?_stops cs rest

------------------------------------------------------------
-- Numbers
------------------------------------------------------------

theorem moreDigits?_stops (base : Nat) :
    StopsWith (moreDigits? base) := by
  -- An underscore stands before a digit, or all alone.
  have hOther (c : Char) (cs : List Char)
      (hMore : ∀ d ds, c = '_' → cs = d :: ds → False)
      (hAlone : c = '_' → cs = [] → False) :
      c ≠ '_' := by
    intro hSame
    cases cs with
    | nil => exact hAlone hSame rfl
    | cons d cs => exact hMore d cs hSame rfl
  intro cs rest
  fun_induction moreDigits? base cs with
  | case1 => rfl
  | case2 c cs d hDigit ih =>
      simp only [List.cons_append, moreDigits?, hDigit, ih,
        Option.map_map]
      rfl
  | case3 c cs hDigit =>
      simp only [List.cons_append, moreDigits?, hDigit,
        Option.map_none]
  | case4 => rfl
  | case5 c cs hMore hAlone d hDigit ih =>
      have hUnderscore := hOther c cs hMore hAlone
      rw [List.cons_append, moreDigits?]
      · simp only [hDigit, ih, Option.map_map]
        rfl
      · exact fun _ _ hSame _ => hUnderscore hSame
      · exact fun hSame _ => hUnderscore hSame
  | case6 c cs hMore hAlone hDigit =>
      have hUnderscore := hOther c cs hMore hAlone
      rw [List.cons_append, moreDigits?]
      · simp only [hDigit]
        rfl
      · exact fun _ _ hSame _ => hUnderscore hSame
      · exact fun hSame _ => hUnderscore hSame

theorem digits?_stops (base : Nat) :
    StopsWith (digits? base) := by
  intro cs rest
  cases cs with
  | nil => rfl
  | cons c cs =>
      simp only [List.cons_append, digits?]
      cases digit? base c with
      | none => rfl
      | some _ => exact moreDigits?_stops base (c :: cs) rest

/- A sign stands on one line. -/
theorem sign_append (cs rest : List Char) :
    sign (cs ++ '\n' :: rest) =
      ((sign cs).1, (sign cs).2 ++ '\n' :: rest) := by
  fun_cases sign cs with
  | case1 => rfl
  | case2 => rfl
  | case3 cs hMinus hPlus =>
      rw [sign]
      · exact append_ne ['-'] (by decide) hMinus rest
      · exact append_ne ['+'] (by decide) hPlus rest

theorem wholePart?_stops : StopsWith wholePart? := by
  intro cs rest
  fun_cases wholePart? cs with
  | case1 => rfl
  | case2 cs hZero =>
      rw [wholePart?]
      · exact digits?_stops 10 cs rest
      · exact append_ne ['0'] (by decide) hZero rest

theorem known_stops (known : Option Node) :
    StopsWith
      (fun cs => known.bind (fun node => some (node, cs))) := by
  intro cs rest
  cases known with
  | none => rfl
  | some _ => rfl

theorem prefixed?_stops (base : Nat) :
    StopsWith (prefixed? base) := by
  intro cs rest
  apply bind_of_map (digits?_stops base cs rest)
  rintro ⟨digits, cs⟩
  exact known_stops (integerOfDigits? false base digits) cs rest

theorem exponent?_stops : StopsWith exponent? := by
  intro cs rest
  simp only [exponent?, sign_append]
  apply bind_of_map (digits?_stops 10 _ rest)
  rintro ⟨digits, cs⟩
  rfl

theorem optionalExponent?_stops :
    StopsWith optionalExponent? := by
  intro cs rest
  fun_cases optionalExponent? cs with
  | case1 cs => exact exponent?_stops cs rest
  | case2 cs => exact exponent?_stops cs rest
  | case3 cs hLower hUpper =>
      rw [optionalExponent?]
      · rfl
      · exact append_ne ['e'] (by decide) hLower rest
      · exact append_ne ['E'] (by decide) hUpper rest

theorem behindWhole?_stops
    (negative : Bool)
    (whole : List Nat) :
    StopsWith (behindWhole? negative whole) := by
  have hPower (cs rest : List Char) :
      ((exponent? (cs ++ '\n' :: rest)).bind
        (fun found =>
          (decimalOf? negative whole found.1).bind
            (fun node => some (node, found.2)))) =
        ((exponent? cs).bind
          (fun found =>
            (decimalOf? negative whole found.1).bind
              (fun node => some (node, found.2)))).map
          (fun found =>
            (found.1, found.2 ++ '\n' :: rest)) := by
    apply bind_of_map (exponent?_stops cs rest)
    rintro ⟨power, cs⟩
    exact known_stops (decimalOf? negative whole power) cs rest
  intro cs rest
  fun_cases behindWhole? negative whole cs with
  | case1 cs =>
      apply bind_of_map (digits?_stops 10 cs rest)
      rintro ⟨places, cs⟩
      apply bind_of_map (optionalExponent?_stops cs rest)
      rintro ⟨power, cs⟩
      exact known_stops (decimalOf? negative _ _) cs rest
  | case2 cs => exact hPower cs rest
  | case3 cs => exact hPower cs rest
  | case4 cs hPoint hLower hUpper =>
      rw [behindWhole?]
      · exact
          known_stops (integerOfDigits? negative 10 whole) cs
            rest
      · exact append_ne ['.'] (by decide) hPoint rest
      · exact append_ne ['e'] (by decide) hLower rest
      · exact append_ne ['E'] (by decide) hUpper rest

theorem special?_stops (negative : Bool) :
    StopsWith (special? negative) := by
  intro cs rest
  fun_cases special? negative cs with
  | case1 => rfl
  | case2 => rfl
  | case3 cs hInfinite hNone =>
      rw [special?]
      · rfl
      · exact
          append_ne ['i', 'n', 'f'] (by decide) hInfinite rest
      · exact append_ne ['n', 'a', 'n'] (by decide) hNone rest

theorem signed?_stops : StopsWith signed? := by
  intro cs rest
  simp only [signed?, sign_append, wholePart?_stops _ rest]
  cases wholePart? (sign cs).2 with
  | none => exact special?_stops _ _ rest
  | some found => exact behindWhole?_stops _ _ _ rest

/- A number of any kind leaves the line end behind it. -/
theorem number?_stops : StopsWith number? := by
  intro cs rest
  fun_cases number? cs with
  | case1 cs => exact prefixed?_stops 16 cs rest
  | case2 cs => exact prefixed?_stops 8 cs rest
  | case3 cs => exact prefixed?_stops 2 cs rest
  | case4 cs hHex hOctal hBinary =>
      rw [number?]
      · exact signed?_stops cs rest
      · exact append_ne ['0', 'x'] (by decide) hHex rest
      · exact append_ne ['0', 'o'] (by decide) hOctal rest
      · exact append_ne ['0', 'b'] (by decide) hBinary rest

theorem boolean?_stops : StopsWith boolean? := by
  intro cs rest
  fun_cases boolean? cs with
  | case1 => rfl
  | case2 => rfl
  | case3 cs hTrue hFalse =>
      rw [boolean?]
      · rfl
      · exact
          append_ne ['t', 'r', 'u', 'e'] (by decide) hTrue rest
      · exact
          append_ne ['f', 'a', 'l', 's', 'e'] (by decide)
            hFalse rest

------------------------------------------------------------
-- Literals
------------------------------------------------------------

theorem numberOrDate?_stops : StopsWith numberOrDate? := by
  intro cs rest
  rw [numberOrDate?, numberOrDate?, dateTime?_stops]
  cases dateTime? cs with
  | none => exact number?_stops cs rest
  | some _ => rfl

/- A text that is read as a scalar on a line of its own. -/
def IsLiteral (node : Node) (text : List Char) : Prop :=
  scalar? (text ++ ['\n']) = some (node, ['\n'])

/- What no number begins with is read as none. -/
theorem numberOrDate?_eq_none
    {c : Char}
    (hDigit : digit? 10 c = none)
    (hSign : c ≠ '-' ∧ c ≠ '+')
    (hSpecial : c ≠ 'i' ∧ c ≠ 'n')
    (cs : List Char) :
    numberOrDate? (c :: cs) = none := by
  have hTwo (least most : Nat) :
      twoDigits? least most (c :: cs) = none := by
    cases cs with
    | nil => rfl
    | cons d cs =>
        rw [twoDigits?, hDigit]
        rfl
  have hYear : year? (c :: cs) = none := by
    unfold year?
    split
    · rename_i hCase
      cases (List.cons.inj hCase).1
      rw [hDigit]
      rfl
    · rfl
  have hZero : c ≠ '0' := by
    rintro rfl
    cases hDigit
  have hDate : dateTime? (c :: cs) = none := by
    rw [dateTime?, date?, hYear]
    change time? (c :: cs) = none
    rw [time?, hTwo]
    rfl
  have hNumber : number? (c :: cs) = signed? (c :: cs) := by
    rw [number?]
    · exact fun _ hSame => hZero (List.cons.inj hSame).1
    · exact fun _ hSame => hZero (List.cons.inj hSame).1
    · exact fun _ hSame => hZero (List.cons.inj hSame).1
  have hWhole : wholePart? (c :: cs) = none := by
    rw [wholePart?, digits?, hDigit]
    exact fun _ hSame => hZero (List.cons.inj hSame).1
  have hNoSign : sign (c :: cs) = (false, c :: cs) := by
    rw [sign]
    · exact fun _ hSame => hSign.1 (List.cons.inj hSame).1
    · exact fun _ hSame => hSign.2 (List.cons.inj hSame).1
  rw [numberOrDate?, hDate, hNumber, signed?, hNoSign]
  simp only [hWhole]
  rw [special?]
  · exact fun _ hSame => hSpecial.1 (List.cons.inj hSame).1
  · exact fun _ hSame => hSpecial.2 (List.cons.inj hSame).1

/- Blanks and opening brackets begin no scalar. -/
theorem scalar?_eq_none
    {c : Char}
    (hOther : c ∈ [' ', '\t', '[', '\x7b'])
    (cs : List Char) :
    scalar? (c :: cs) = none := by
  simp only [List.mem_cons, List.not_mem_nil, or_false]
    at hOther
  rcases hOther with rfl | rfl | rfl | rfl
  · exact numberOrDate?_eq_none rfl (by decide) (by decide) cs
  · exact numberOrDate?_eq_none rfl (by decide) (by decide) cs
  · exact numberOrDate?_eq_none rfl (by decide) (by decide) cs
  · exact numberOrDate?_eq_none rfl (by decide) (by decide) cs

/- What is read on a line by itself is read on any line. -/
theorem StopsWith.onLine
    {α : Type}
    {read : List Char → Option (α × List Char)}
    {a : α}
    {text : List Char}
    (hStops : StopsWith read)
    (hRead : read (text ++ ['\n']) = some (a, ['\n']))
    (rest : List Char) :
    read (text ++ '\n' :: rest) = some (a, '\n' :: rest) := by
  rw [hStops] at hRead
  rcases Option.map_eq_some_iff.mp hRead with
    ⟨⟨b, left⟩, hFound, hSame⟩
  rcases Prod.mk.inj hSame with ⟨rfl, hLeft⟩
  have hNone : left ++ ['\n'] = [] ++ ['\n'] := hLeft
  cases List.append_cancel_right hNone
  rw [hStops, hFound]
  rfl

/- The first character tells what kind of scalar is read. -/
theorem scalar?_kind (c : Char) :
    (c = '"' ∨ c = '\'') ∨
      ∃ read,
        StopsWith read ∧
          ∀ cs, scalar? (c :: cs) = read (c :: cs) := by
  by_cases hQuote : c = '"' ∨ c = '\''
  · exact .inl hQuote
  · rw [not_or] at hQuote
    right
    by_cases hTrue : c = 't'
    · subst hTrue
      exact ⟨boolean?, boolean?_stops, fun _ => rfl⟩
    · by_cases hFalse : c = 'f'
      · subst hFalse
        exact ⟨boolean?, boolean?_stops, fun _ => rfl⟩
      · refine
          ⟨numberOrDate?, numberOrDate?_stops, fun cs => ?_⟩
        rw [scalar?]
        · exact cons_ne_cons hQuote.1 cs
        · exact cons_ne_cons hQuote.2 cs
        · exact cons_ne_cons hTrue cs
        · exact cons_ne_cons hFalse cs

namespace IsLiteral

variable {node : Node} {text : List Char}

/- A literal begins with no blank and no opening bracket. -/
theorem cons (hLiteral : IsLiteral node text) :
    ∃ c cs,
      text = c :: cs ∧ c ∉ [' ', '\t', '[', '\x7b'] := by
  unfold IsLiteral at hLiteral
  cases text with
  | nil => cases hLiteral
  | cons c cs =>
      refine ⟨c, cs, rfl, fun hOther => ?_⟩
      rw [List.cons_append, scalar?_eq_none hOther] at hLiteral
      cases hLiteral

/- A literal is read as the same scalar on any line. -/
theorem onLine
    (hLiteral : IsLiteral node text)
    (rest : List Char) :
    scalar? (text ++ '\n' :: rest) =
      some (node, '\n' :: rest) := by
  rcases hLiteral.cons with ⟨c, cs, rfl, _⟩
  unfold IsLiteral at hLiteral
  rcases scalar?_kind c with hQuote | ⟨read, hStops, hSame⟩
  · rw [List.cons_append, scalar?_of_quote hQuote]
      at hLiteral ⊢
    rcases Option.map_eq_some_iff.mp hLiteral with
      ⟨⟨s, left⟩, hFound, hSays⟩
    rcases Prod.mk.inj hSays with ⟨rfl, rfl⟩
    have hMore := string?_append hFound (by decide) rest
    simp only [List.cons_append, List.append_assoc,
      List.nil_append] at hMore
    rw [hMore]
    rfl
  · have hRead :
        read (c :: cs ++ ['\n']) = some (node, ['\n']) :=
      (hSame (cs ++ ['\n'])).symm.trans hLiteral
    rw [List.cons_append, hSame]
    exact hStops.onLine hRead rest

/- A literal is what can be written for the scalar. -/
theorem written
    (hLiteral : IsLiteral node text) :
    Written node text := by
  rcases hLiteral.cons with ⟨c, cs, rfl, hOther⟩
  simp only [List.mem_cons, List.not_mem_nil, or_false,
    not_or] at hOther
  rcases hOther with ⟨hSpace, hTab, hArray, hTable⟩
  constructor
  case opens =>
    refine ⟨c, cs, rfl, ?_⟩
    simp only [isBlank, Bool.or_eq_false_iff,
      beq_eq_false_iff_ne]
    exact ⟨hSpace, hTab⟩
  case reads =>
    intro depth rest
    exact
      value?_of_scalar? hArray hTable (hLiteral.onLine rest)
        depth

end IsLiteral

/- What can be written for a node is a literal of it. -/
theorem Written.isLiteral
    {node : Node}
    {text : List Char}
    (hWritten : Written node text) :
    IsLiteral node text := by
  rcases hWritten.reads 0 [] with ⟨span, hValue⟩
  unfold value? at hValue
  split at hValue
  · cases hValue
  · cases hValue
  · unfold IsLiteral
    cases hScalar : scalar? (text ++ ['\n']) with
    | none =>
        rw [hScalar] at hValue
        cases hValue
    | some found =>
        rcases found with ⟨read, left⟩
        rw [hScalar] at hValue
        cases hValue
        rfl

end Toml

end FrameLink
