/-
**What stands between the parts of a TOML document.**

* `blanks` — spaces and tabs.
* `newline` — a newline, with or without a carriage return before it.
* `comment` — from a number sign to the end of the line; control characters other than tab are refused.
* `gap` — any of these, as they may stand inside an array.
* `lineEnd` — what may follow on a line after its content.
-/

import SinglePath.Text.Reader

namespace SinglePath.Toml

open Text (Reader)
open Text.Reader

/-- Whether a character may stand in a comment. -/
def isCommentChar (c : Char) : Bool :=
  c == '\t' || (0x20 ≤ c.toNat && c.toNat ≠ 0x7F)

/-- Spaces and tabs. -/
def blanks : Reader Unit := do
  discard (run fun c => c == ' ' || c == '\t')

/-- The end of a line. -/
def newline : Reader Unit :=
  exactly '\n' <|> word "\r\n"

/-- A comment, up to the end of its line. -/
def comment : Reader Unit := do
  exactly '#'
  discard (run isCommentChar)

/-- Blanks, newlines and comments that end with their lines. -/
def gap : Reader Unit := do
  blanks
  discard (many (do
    (newline <|> (do comment; newline))
    blanks))

/-- The rest of a line after its content: blanks, a comment, and the end of the line or of the text. -/
def lineEnd : Reader Unit := do
  blanks
  discard (perhaps comment)
  newline <|> atEnd

end SinglePath.Toml
