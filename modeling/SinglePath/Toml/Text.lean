/-
**TOML strings.**

* `basicString` and `literalString` — on one line, between quotes or apostrophes; escapes only between
  quotes.
* `longBasicString` and `longLiteralString` — between three quotes or apostrophes, over several lines. A
  newline right after the opening is dropped, line endings become newlines, and a backslash at the
  end of a line joins it with the next text.
* `string` — any of the four.
-/

import SinglePath.Toml.Blank

namespace SinglePath.Toml

open Text (Reader)
open Text.Reader

/-- Whether a character may stand in a string: no control character other than tab. -/
def isPlain (c : Char) : Bool :=
  isCommentChar c

/-- The value of a hexadecimal digit. -/
def hexValue (c : Char) : Nat :=
  if c.isDigit then c.toNat - '0'.toNat
  else if 'a'.toNat ≤ c.toNat then c.toNat - 'a'.toNat + 10
  else c.toNat - 'A'.toNat + 10

/-- Whether a character is a hexadecimal digit. -/
def isHexDigit (c : Char) : Bool :=
  c.isDigit || ('a' ≤ c && c ≤ 'f') || ('A' ≤ c && c ≤ 'F')

/-- A character given by `count` hexadecimal digits of its code point. -/
def codePoint (count : Nat) : Reader Char := do
  let digits ← times isHexDigit count
  let code := digits.foldl (fun value c => 16 * value + hexValue c) 0
  if code.isValidChar then return Char.ofNat code else failure

/-- An escaped character, from the backslash on. -/
def escaped : Reader Char := do
  exactly '\\'
  match ← one fun _ => true with
  | 'b' => return '\x08'
  | 't' => return '\t'
  | 'n' => return '\n'
  | 'f' => return '\x0c'
  | 'r' => return '\r'
  | '"' => return '"'
  | '\\' => return '\\'
  | 'u' => codePoint 4
  | 'U' => codePoint 8
  | _ => failure

/-- A string between quotes. -/
def basicString : Reader String := do
  exactly '"'
  let content ← many (run1 (fun c => isPlain c && c ≠ '"' && c ≠ '\\') <|> (do return [← escaped]))
  exactly '"'
  return String.ofList content.flatten

/-- A string between apostrophes. -/
def literalString : Reader String := do
  exactly '\''
  let content ← run fun c => isPlain c && c ≠ '\''
  exactly '\''
  return String.ofList content

/-- A backslash at the end of a line, with all blanks and newlines after it. -/
def joinedLines : Reader Unit := do
  exactly '\\'
  blanks
  newline
  blanks
  discard (many (do newline; blanks))

/-- One or two quotation marks inside a long string: a third one would close it. -/
def innerMarks (mark : Char) : Reader (List Char) := do
  let marks ← run1 (· == mark)
  if marks.length < 3 then return marks else failure

/-- The end of a long string: three marks, and up to two marks of its content before them. -/
def closing (mark : Char) : Reader (List Char) := fun text =>
  let count := (text.takeWhile (· == mark)).length
  if count < 3 then none
  else
    let inner := min (count - 3) 2
    some (List.replicate inner mark, text.drop (inner + 3))

/-- A long string: its opening, pieces of content, and its end. -/
def longString (mark : Char) (piece : Reader (List Char)) : Reader String := do
  word (String.ofList [mark, mark, mark])
  discard (perhaps newline)
  let content ← many (piece <|> innerMarks mark)
  return String.ofList (content.flatten ++ (← closing mark))

/-- A line ending inside a long string. -/
def lineBreak : Reader (List Char) := do
  newline
  return ['\n']

/-- A string between three quotes. -/
def longBasicString : Reader String :=
  longString '"'
    (run1 (fun c => isPlain c && c ≠ '"' && c ≠ '\\') <|> lineBreak <|>
      (do joinedLines; return []) <|> (do return [← escaped]))

/-- A string between three apostrophes. -/
def longLiteralString : Reader String :=
  longString '\'' (run1 (fun c => isPlain c && c ≠ '\'') <|> lineBreak)

/-- A string of any of the four forms. -/
def string : Reader String :=
  longBasicString <|> basicString <|> longLiteralString <|> literalString

end SinglePath.Toml
