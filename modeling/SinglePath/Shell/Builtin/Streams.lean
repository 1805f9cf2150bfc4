/-
**Built-in commands that write and read.**

* `printf`, `echo` — write arguments, by a format or with blanks between them.
* `read` — reads a line into variables.
-/

import SinglePath.Shell.Builtin.Options
import SinglePath.Shell.Field
import SinglePath.Shell.Format

namespace SinglePath.Shell

open Text (Bytes)

/-- Writes arguments by a format. -/
def printf (arguments : List Bytes) : Action Nat := do
  match ← operands arguments with
  | [] => fail "usage: printf format [arg ...]".toList
  | format :: arguments =>
    let writer := Format.render format arguments
    print writer.text
    for complaint in writer.complaints.reverse do
      complain complaint
    match writer.fault with
    | some complaint => fail complaint
    | none => return statusOf writer.complaints.isEmpty

/-- What `echo` writes for arguments, given whether the newline at the end is left out. An escaped `c`
ends all output. -/
def echoText (silent : Bool) : List Bytes → Bytes
  | [] => if silent then [] else ['\n']
  | first :: rest =>
    let (text, ended) := Format.unescape first
    if ended then text
    else
      match rest with
      | [] => if silent then text else text ++ ['\n']
      | _ => text ++ ' ' :: echoText silent rest

/-- Writes arguments with blanks between them and a newline after them. -/
def echo (arguments : List Bytes) : Action Nat := do
  match arguments with
  | ['-', 'n'] :: rest => print (echoText true rest)
  | all => print (echoText false all)
  return 0

/-- A line of input under way. -/
structure InputLine where
  /-- The characters with whether each was escaped, the latest first. -/
  chars : List (Char × Bool) := []
  /-- Whether a backslash has just been read that escapes what comes next. -/
  escaping : Bool := false
  /-- Whether a newline ended the line. -/
  complete : Bool := false

/-- Reads one more character; a backslash escapes the next one unless the line is raw. A character of code
zero does not count. -/
def InputLine.step (raw : Bool) (line : InputLine) (c : Char) : InputLine :=
  if c == border then line
  else if line.escaping then
    { line with escaping := false, chars := if c == '\n' then line.chars else (c, true) :: line.chars }
  else if c == '\\' && !raw then { line with escaping := true }
  else if c == '\n' then { line with complete := true }
  else { line with chars := (c, false) :: line.chars }

/-- Reads a line, in at most `fuel` pieces. -/
def readLine (raw : Bool) : Nat → InputLine → Action InputLine
  | 0, line => return line
  | fuel + 1, line => do
    match ← takeLine 0 with
    | .text text =>
      let line := text.foldl (InputLine.step raw) line
      if line.complete then return line else readLine raw fuel line
    | .ended | .interrupted => return line

/-- Reads a line of the input into variables. Its status is one if the input ends before the line. -/
def read (arguments : List Bytes) : Action Nat := do
  let (found, names) ← options "r" arguments "p"
  if names.isEmpty then fail "arg count".toList
  let line ← readLine (found.any (·.1 == 'r')) readingPatience {}
  let values := readFields (← self).separators names.length line.chars.reverse
  for (name, value) in names.zip values do
    assignVariable (← requireName name) value
  return statusOf line.complete

end SinglePath.Shell
