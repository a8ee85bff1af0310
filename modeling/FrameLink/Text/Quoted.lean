import FrameLink.Text.Visible

/-
  Quoted text, as it stands inside a message.

  A text is put between double quotes.  A quote, a backslash,
  a tab, a line break and the zero character have short
  escapes; any other character that would not be seen is
  written by its code point in hexadecimal.

  Key definitions include:
    * `Text.quoteChar`
    * `Text.quote`
-/

------------------------------------------------------------
-- Quoting
------------------------------------------------------------

namespace FrameLink

namespace Text

/- Lower-case hexadecimal digits, without leading zeros. -/
def hex (n : Nat) : String :=
  String.ofList (Nat.toDigits 16 n)

/- One character of a quoted text. -/
def quoteChar (c : Char) : String :=
  match c with
  | '\x00' => "\\0"
  | '\t' => "\\t"
  | '\r' => "\\r"
  | '\n' => "\\n"
  | '\\' => "\\\\"
  | '"' => "\\\""
  | c =>
      if isVisible c then
        c.toString
      else
        "\\u\x7b" ++ hex c.toNat ++ "\x7d"

/- A text between double quotes. -/
def quote (s : String) : String :=
  "\"" ++ String.join (s.toList.map quoteChar) ++ "\""

end Text

end FrameLink
