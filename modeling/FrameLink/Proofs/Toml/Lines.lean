import FrameLink.Proofs.Toml.Quotes
import FrameLink.Proofs.Toml.Values
import FrameLink.Toml.Document
import Mathlib.Data.List.Forall2

/-
  Lines that are written are read again.

  A part of a document is a header with assignments below it,
  one on each line.  Parts with blank lines between them are
  read as sections that say the same, wherever their keys and
  values come to stand (`Toml.readsLines_document`).  A key
  can be written as it is, or as a string.

  Key definitions include:
    * `Toml.IsBareName`, `Toml.IsKey`
    * `Toml.Assignment`, `Toml.Assignment.IsPair`
    * `Toml.Part`, `Toml.Part.IsSection`
    * `Toml.ReadsLines`
-/

------------------------------------------------------------
-- Assignments
------------------------------------------------------------

namespace FrameLink

namespace Toml

/- A key and a node, with what is written for each. -/
structure Assignment where
  name : String
  key : List Char
  node : Node
  written : List Char

/- A key can be written as it is. -/
def IsBareName (name : String) : Prop :=
  name.toList ≠ [] ∧ ∀ c ∈ name.toList, isBare c = true

/- Whether a name can be written so can be computed. -/
theorem isBareName_of_all
    {name : String}
    (hAll :
      (!name.toList.isEmpty && name.toList.all isBare) = true) :
    IsBareName name := by
  rw [Bool.and_eq_true, Bool.not_eq_true', List.all_eq_true]
    at hAll
  refine ⟨?_, hAll.2⟩
  intro hNone
  rw [hNone] at hAll
  cases hAll.1

/- A name is written as it is, or as a string on one line. -/
inductive IsKey (name : String) : List Char → Prop where
  | bare
      (hBare : IsBareName name) :
      IsKey name name.toList
  | quoted
      {key : List Char}
      (hString : lineString? key = some (name.toList, [])) :
      IsKey name key

namespace Assignment

/- An assignment on a line of its own. -/
def text (a : Assignment) : List Char :=
  a.key ++ ' ' :: '=' :: ' ' :: (a.written ++ ['\n'])

/- An assignment as it has to be written. -/
structure IsProper (a : Assignment) : Prop where
  key : IsKey a.name a.key
  written : Written a.node a.written

/- A whole number is given. -/
def whole (name : String) (n : Nat) : Assignment :=
  ⟨name, name.toList, .integer n, Nat.toDigits 10 n⟩

/- A text is given. -/
def word (name s : String) : Assignment :=
  ⟨name, name.toList, .text s, writeString s.toList⟩

/- A boolean is given. -/
def flag (name : String) (b : Bool) : Assignment :=
  ⟨name, name.toList, .boolean b, (toString b).toList⟩

/- The pair says what the assignment does. -/
structure IsPair (a : Assignment) (pair : Pair) : Prop where
  path : pair.path = []
  name : pair.key.name = a.name
  node : pair.item.node = a.node

theorem whole_isProper
    {name : String}
    {n : Nat}
    (hBare : IsBareName name)
    (hFits : n < Nat.pow 2 63) :
    (whole name n).IsProper :=
  ⟨.bare hBare, written_integer hFits⟩

theorem word_isProper
    {name : String}
    (hBare : IsBareName name)
    (s : String) :
    (word name s).IsProper :=
  ⟨.bare hBare, written_text s⟩

theorem flag_isProper
    {name : String}
    (hBare : IsBareName name)
    (b : Bool) :
    (flag name b).IsProper :=
  ⟨.bare hBare, written_boolean b⟩

end Assignment

theorem ne_of_isBare
    {c d : Char}
    (hBare : isBare c = true)
    (hOther : isBare d = false) :
    c ≠ d := by
  rintro rfl
  rw [hBare] at hOther
  cases hOther

theorem cons_ne_of_isBare
    {c d : Char}
    (hBare : isBare c = true)
    (hOther : isBare d = false)
    (cs ds : List Char) :
    c :: cs ≠ d :: ds :=
  cons_ne_cons (ne_of_isBare hBare hOther) cs ds

/- A bare name begins with a character of its own. -/
theorem IsBareName.cons
    {name : String}
    (hBare : IsBareName name) :
    ∃ c more,
      name.toList = c :: more ∧ isBare c = true := by
  cases hName : name.toList with
  | nil => exact absurd hName hBare.1
  | cons c more =>
      refine ⟨c, more, rfl, hBare.2 c ?_⟩
      rw [hName]
      exact List.mem_cons_self

/- There are no blanks before what begins with none. -/
theorem skipBlanks_cons
    {c : Char}
    (hBlank : isBlank c = false)
    (cs : List Char) :
    skipBlanks (c :: cs) = c :: cs :=
  List.dropWhile_cons_of_neg (ne_true_of_eq_false hBlank)

/- A bare name is one part of a key. -/
theorem keyPart?_of_isBareName
    {name : String}
    {c : Char}
    (hBare : IsBareName name)
    (hEnd : isBare c = false)
    (rest : List Char) :
    ∃ span,
      keyPart? (name.toList ++ c :: rest) =
        some (⟨name, span⟩, c :: rest) := by
  have hPart :
      barePart? (name.toList ++ c :: rest) =
        some (name.toList, c :: rest) := by
    have hStop : ¬isBare c = true := ne_true_of_eq_false hEnd
    unfold barePart?
    rw [List.takeWhile_append_of_pos hBare.2,
      List.dropWhile_append_of_pos hBare.2,
      List.takeWhile_cons_of_neg hStop,
      List.dropWhile_cons_of_neg hStop, List.append_nil]
    exact if_neg (by simpa using hBare.1)
  rcases hBare.cons with ⟨d, more, hName, hFirst⟩
  rw [hName, List.cons_append] at hPart ⊢
  rw [keyPart?]
  · simp only [hPart, ← hName, String.ofList_toList]
    exact ⟨_, rfl⟩
  · exact cons_ne_of_isBare hFirst (by decide) _
  · exact cons_ne_of_isBare hFirst (by decide) _

/- What a line begins with that does not begin with a key. -/
def lineMarks : List Char :=
  [' ', '\t', '#', '\n', '\r', '[']

/- Blanks are among these. -/
theorem isBlank_of_notMem
    {c : Char}
    (hMark : c ∉ lineMarks) :
    isBlank c = false := by
  rw [isBlank, Bool.or_eq_false_iff, beq_eq_false_iff_ne,
    beq_eq_false_iff_ne]
  constructor
  · rintro rfl
    exact hMark (by decide)
  · rintro rfl
    exact hMark (by decide)

/- A key begins with none of them. -/
theorem IsKey.cons
    {name : String}
    {key : List Char}
    (hKey : IsKey name key) :
    ∃ c more, key = c :: more ∧ c ∉ lineMarks := by
  cases hKey with
  | bare hBare =>
      rcases hBare.cons with ⟨c, more, hName, hFirst⟩
      refine ⟨c, more, hName, fun hMark => ?_⟩
      have hMarks :
          lineMarks.all (fun mark => !isBare mark) = true := by
        decide
      have hNot := List.all_eq_true.mp hMarks c hMark
      rw [hFirst] at hNot
      cases hNot
  | quoted hString =>
      rcases lineString?_cons hString with
        ⟨quote, more, rfl, hQuote⟩
      refine ⟨quote, more, rfl, ?_⟩
      rcases hQuote with rfl | rfl
      · decide
      · decide

/- A key is one part of a path. -/
theorem keyPart?_of_isKey
    {name : String}
    {key : List Char}
    {c : Char}
    (hKey : IsKey name key)
    (hEnd : isBare c = false)
    (rest : List Char) :
    ∃ span,
      keyPart? (key ++ c :: rest) =
        some (⟨name, span⟩, c :: rest) := by
  cases hKey with
  | bare hBare => exact keyPart?_of_isBareName hBare hEnd rest
  | quoted hString =>
      rcases lineString?_cons hString with
        ⟨quote, more, rfl, hQuote⟩
      have hPart := lineString?_append hString (c :: rest)
      rw [List.cons_append] at hPart ⊢
      refine
        ⟨spanOf (quote :: (more ++ c :: rest)) (c :: rest), ?_⟩
      rcases hQuote with rfl | rfl
      · simp only [keyPart?, hPart, String.ofList_toList]
        rfl
      · simp only [keyPart?, hPart, String.ofList_toList]
        rfl

/- A key is read up to what follows. -/
theorem key?_of_isKey
    {name : String}
    {key : List Char}
    {c : Char}
    {rest : List Char}
    (hKey : IsKey name key)
    (hEnd : isBare c = false)
    (hDot : (skipBlanks (c :: rest)).head? ≠ some '.') :
    ∃ span,
      key? (key ++ c :: rest) =
        some (([], ⟨name, span⟩), skipBlanks (c :: rest)) := by
  rcases keyPart?_of_isKey hKey hEnd rest with ⟨span, hPart⟩
  rcases hKey.cons with ⟨d, more, hFirst, hMark⟩
  have hParts :
      keyParts? (78 + 1) (key ++ c :: rest) =
        some ([⟨name, span⟩], skipBlanks (c :: rest)) := by
    rw [keyParts?, hFirst, List.cons_append,
      skipBlanks_cons (isBlank_of_notMem hMark),
      ← List.cons_append, ← hFirst, hPart]
    simp only
    split
    · rename_i hSame
      rw [hSame] at hDot
      exact absurd rfl hDot
    · rfl
  refine ⟨span, ?_⟩
  unfold key?
  rw [show depthLimit - 1 = 78 + 1 from rfl, hParts]
  rfl

/- An assignment is read as a pair that says the same. -/
theorem Assignment.IsProper.pair?
    {a : Assignment}
    (hProper : a.IsProper)
    (depth : Nat)
    (rest : List Char) :
    ∃ pair,
      Toml.pair? (value? depth) (a.text ++ rest) =
          some (pair, '\n' :: rest) ∧
        a.IsPair pair := by
  rcases hProper.written with
    ⟨⟨first, more, hWritten, hBlank⟩, hReads⟩
  rcases hReads depth rest with ⟨valueSpan, hValue⟩
  have hText :
      a.text ++ rest =
        a.key ++
          ' ' :: '=' :: ' ' :: (a.written ++ '\n' :: rest) := by
    simp only [Assignment.text, List.append_assoc,
      List.cons_append, List.nil_append]
  have hSkip :
      skipBlanks (' ' :: (a.written ++ '\n' :: rest)) =
        a.written ++ '\n' :: rest := by
    rw [hWritten]
    exact skipBlanks_cons hBlank _
  have hKey :
      ∃ span,
        key?
            (a.key ++
              ' ' :: '=' :: ' ' ::
                (a.written ++ '\n' :: rest)) =
          some (([], ⟨a.name, span⟩),
            '=' :: ' ' :: (a.written ++ '\n' :: rest)) := by
    apply key?_of_isKey hProper.key (by decide)
    intro hSame
    exact absurd (Option.some.inj hSame) (by decide)
  rcases hKey with ⟨keySpan, hKey⟩
  refine ⟨⟨[], ⟨a.name, keySpan⟩, ⟨valueSpan, a.node⟩⟩, ?_, ?_⟩
  · rw [hText, Toml.pair?, hKey]
    change
      (value? depth
          (skipBlanks (' ' :: (a.written ++ '\n' :: rest)))).bind
          _ =
        _
    rw [hSkip, hValue]
    rfl
  · exact ⟨rfl, rfl, rfl⟩

theorem Assignment.IsProper.text_cons
    {a : Assignment}
    (hProper : a.IsProper) :
    ∃ c more, a.text = c :: more ∧ c ∉ lineMarks := by
  rcases hProper.key.cons with ⟨c, more, hKey, hMark⟩
  rw [Assignment.text, hKey, List.cons_append]
  exact ⟨c, _, rfl, hMark⟩

theorem Assignment.IsProper.line?
    {a : Assignment}
    (hProper : a.IsProper)
    (rest : List Char) :
    ∃ pair,
      Toml.line? (a.text ++ rest) = some (.pair pair, rest) ∧
        a.IsPair pair := by
  rcases hProper.pair? nesting rest with ⟨pair, hPair, hSays⟩
  rcases hProper.text_cons with ⟨c, more, hText, hMark⟩
  simp only [lineMarks, List.mem_cons, List.not_mem_nil,
    or_false, not_or] at hMark
  rcases hMark with ⟨_, _, hHash, hFeed, hReturn, hBracket⟩
  refine ⟨pair, ?_, hSays⟩
  rw [hText, List.cons_append] at hPair ⊢
  rw [Toml.line?]
  · rw [hPair]
    rfl
  · exact cons_ne_cons hHash _
  · exact cons_ne_cons hFeed _
  · exact cons_ne_cons hReturn _
  · exact fun _ => cons_ne_cons hBracket _ ('[' :: _)
  · exact cons_ne_cons hBracket _

------------------------------------------------------------
-- Parts
------------------------------------------------------------

/- A header with assignments below it. -/
structure Part where
  name : String
  assignments : List Assignment

namespace Part

/- The header of a part on a line of its own. -/
def header (part : Part) : List Char :=
  '[' :: (part.name.toList ++ [']', '\n'])

/- A part, line after line. -/
def text (part : Part) : List Char :=
  part.header ++ part.assignments.flatMap Assignment.text

/- A part as it has to be written. -/
structure IsProper (part : Part) : Prop where
  bare : IsBareName part.name
  each : ∀ a ∈ part.assignments, a.IsProper

/- The section says what the part does. -/
structure IsSection (part : Part) (s : Section) : Prop where
  single : s.repeated = false
  path : s.path = []
  name : s.key.name = part.name
  pairs :
    List.Forall₂ Assignment.IsPair part.assignments s.pairs

end Part

/- The header of a part is read as that. -/
theorem Part.IsProper.line?
    {part : Part}
    (hProper : part.IsProper)
    (rest : List Char) :
    ∃ keySpan span,
      Toml.line? (part.header ++ rest) =
        some
          (.header false [] ⟨part.name, keySpan⟩ span,
            rest) := by
  have hKey :
      ∃ span,
        key? (part.name.toList ++ ']' :: '\n' :: rest) =
          some (([], ⟨part.name, span⟩),
            ']' :: '\n' :: rest) := by
    apply key?_of_isKey (.bare hProper.bare) (by decide)
    intro hSame
    exact absurd (Option.some.inj hSame) (by decide)
  rcases hKey with ⟨keySpan, hKey⟩
  rcases hProper.bare.cons with ⟨c, more, hName, hBare⟩
  have hText :
      part.header ++ rest =
        '[' :: c :: (more ++ ']' :: '\n' :: rest) := by
    simp only [Part.header, hName, List.cons_append,
      List.append_assoc, List.nil_append]
  rw [hName, List.cons_append] at hKey
  refine
    ⟨keySpan, spanOf (part.header ++ rest) ('\n' :: rest), ?_⟩
  rw [hText, Toml.line?]
  · rw [headerBody?, hKey]
    rfl
  · exact cons_ne_of_isBare hBare (by decide) _

------------------------------------------------------------
-- Documents
------------------------------------------------------------

/- With any bound beyond the text its lines are read. -/
def ReadsLines (text : List Char) (lines : List Line) : Prop :=
  ∀ fuel, text.length < fuel → lines? fuel text = some lines

theorem readsLines_nil : ReadsLines [] [] := by
  intro fuel hFuel
  cases fuel with
  | zero => cases hFuel
  | succ fuel => rfl

/- One more line is read before others. -/
theorem ReadsLines.cons
    {front rest : List Char}
    {line : Line}
    {lines : List Line}
    (hReads : ReadsLines rest lines)
    (hOpens :
      ∃ c more, front = c :: more ∧ isBlank c = false)
    (hLine : line? (front ++ rest) = some (line, rest)) :
    ReadsLines (front ++ rest) (line :: lines) := by
  intro fuel hFuel
  rcases hOpens with ⟨c, more, rfl, hBlank⟩
  cases fuel with
  | zero => cases hFuel
  | succ fuel =>
      have hRest : lines? fuel rest = some lines := by
        apply hReads
        simp only [List.cons_append, List.length_cons,
          List.length_append] at hFuel
        omega
      have hSkip :
          skipBlanks (c :: more ++ rest) = c :: more ++ rest :=
        skipBlanks_cons hBlank _
      rw [lines?, hSkip]
      simp only [List.cons_append] at hLine ⊢
      simp only [hLine, hRest, Option.map_some]

/- Assignments are read as pairs that say the same. -/
theorem readsLines_assignments
    {assignments : List Assignment}
    (hProper : ∀ a ∈ assignments, a.IsProper)
    {rest : List Char}
    {lines : List Line}
    (hReads : ReadsLines rest lines) :
    ∃ pairs,
      List.Forall₂ Assignment.IsPair assignments pairs ∧
        ReadsLines
          (assignments.flatMap Assignment.text ++ rest)
          (pairs.map Line.pair ++ lines) := by
  induction assignments with
  | nil => exact ⟨[], .nil, hReads⟩
  | cons a assignments ih =>
      have hFirst := hProper a List.mem_cons_self
      rcases ih (fun b hMember =>
        hProper b (List.mem_cons_of_mem a hMember)) with
        ⟨pairs, hPairs, hLines⟩
      rcases hFirst.line?
        (assignments.flatMap Assignment.text ++ rest) with
        ⟨pair, hLine, hPair⟩
      refine ⟨pair :: pairs, .cons hPair hPairs, ?_⟩
      rw [List.flatMap_cons, List.append_assoc]
      apply hLines.cons _ hLine
      rcases hFirst.text_cons with ⟨c, more, hText, hMark⟩
      exact ⟨c, more, hText, isBlank_of_notMem hMark⟩

/- A part is read as a header with pairs below it. -/
theorem readsLines_part
    {part : Part}
    (hProper : part.IsProper)
    {rest : List Char}
    {lines : List Line}
    (hReads : ReadsLines rest lines) :
    ∃ keySpan span pairs,
      List.Forall₂ Assignment.IsPair part.assignments pairs ∧
        ReadsLines (part.text ++ rest)
          (.header false [] ⟨part.name, keySpan⟩ span ::
            (pairs.map Line.pair ++ lines)) := by
  rcases readsLines_assignments hProper.each hReads with
    ⟨pairs, hPairs, hLines⟩
  rcases hProper.line?
    (part.assignments.flatMap Assignment.text ++ rest) with
    ⟨keySpan, span, hHeader⟩
  refine ⟨keySpan, span, pairs, hPairs, ?_⟩
  rw [Part.text, List.append_assoc]
  exact hLines.cons ⟨'[', _, rfl, rfl⟩ hHeader

/- Pairs that come before other lines come first. -/
theorem sections_pairs
    (pairs : List Pair)
    (lines : List Line) :
    sections (pairs.map Line.pair ++ lines) =
      (pairs ++ (sections lines).1, (sections lines).2) := by
  induction pairs with
  | nil => rfl
  | cons pair pairs ih =>
      rw [List.map_cons, List.cons_append, sections, ih]
      rfl

/- Parts with a blank line between any two. -/
def document : List Part → List Char
  | [] => []
  | [part] => part.text
  | part :: parts => part.text ++ '\n' :: document parts

/- The lines of parts make sections that say the same. -/
theorem readsLines_document
    {parts : List Part}
    (hProper : ∀ part ∈ parts, part.IsProper) :
    ∃ lines found,
      ReadsLines (document parts) lines ∧
        sections lines = ([], found) ∧
          List.Forall₂ Part.IsSection parts found := by
  induction parts with
  | nil => exact ⟨[], [], readsLines_nil, rfl, .nil⟩
  | cons part parts ih =>
      rcases ih (fun other hMember =>
        hProper other (List.mem_cons_of_mem part hMember)) with
        ⟨lines, found, hReads, hFound, hSections⟩
      -- Only what comes behind the part differs for the last.
      have hBehind :
          ∃ rest others,
            document (part :: parts) = part.text ++ rest ∧
              ReadsLines rest others ∧
                sections others = ([], found) := by
        cases parts with
        | nil =>
            refine
              ⟨[], [], (List.append_nil _).symm,
                readsLines_nil, ?_⟩
            cases hSections
            rfl
        | cons other parts =>
            exact
              ⟨_, .blank :: lines, rfl,
                hReads.cons ⟨'\n', [], rfl, rfl⟩ rfl, hFound⟩
      rcases hBehind with
        ⟨rest, others, hText, hOthers, hRest⟩
      rcases readsLines_part
        (hProper part List.mem_cons_self) hOthers with
        ⟨keySpan, span, pairs, hPairs, hLines⟩
      refine
        ⟨_, ⟨false, [], ⟨part.name, keySpan⟩, span, pairs⟩ ::
            found,
          hText ▸ hLines, ?_, .cons ?_ hSections⟩
      · rw [sections, sections_pairs, hRest]
        simp only [List.append_nil]
      · exact ⟨rfl, rfl, rfl, hPairs⟩

end Toml

end FrameLink
