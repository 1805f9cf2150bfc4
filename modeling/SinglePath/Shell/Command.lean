/-
**Commands of shell scripts.**

* `Part` — a part of a word: plain text, the value of a parameter, a number computed, or the output of
  a command. Every part knows whether it stands in quotes.
* `Redirect` — what a descriptor is to stand for.
* `Command` — a simple command, or commands put together.

A here-document stands apart from the command that reads it: the command only knows its index.
-/

import SinglePath.Shell.Basic

namespace SinglePath.Shell

open Text (Bytes)

/-- What a dollar sign can ask for. -/
inductive Parameter where
  /-- A variable. -/
  | named (name : String)
  /-- An argument; the path of the script has index zero. -/
  | positional (index : Nat)
  /-- All arguments, each on its own. -/
  | all
  /-- All arguments in one text. -/
  | joined
  /-- How many arguments there are. -/
  | count
  /-- The status of the latest command. -/
  | status
  /-- The number of the process. -/
  | process
  /-- The number of the latest background process. -/
  | background
  /-- The options that are set. -/
  | options
  deriving DecidableEq, Repr

/-- How a file is opened. -/
inductive Opening where
  | read
  /-- The file is emptied first. -/
  | write
  /-- The file is emptied first, also where files are protected from that. -/
  | overwrite
  /-- Everything goes to the end of the file. -/
  | append
  | readWrite
  deriving DecidableEq, Repr

/-- How text is kept from having a meaning of its own. -/
inductive Quoting where
  /-- Not at all. -/
  | plain
  /-- By quotes around it. -/
  | quotes
  /-- By a backslash before each character. -/
  | escape
  deriving DecidableEq, Repr

/-- Quotes, if there are any. -/
def Quoting.ofBool (quoted : Bool) : Quoting :=
  if quoted then .quotes else .plain

mutual

/-- A part of a word. -/
inductive Part where
  | literal (quoting : Quoting) (text : Bytes)
  /-- Quotes stood here. Even if they hold nothing, the word is not empty. -/
  | mark
  | parameter (quoted : Bool) (which : Parameter) (use : Use)
  | arithmetic (quoted : Bool) (expression : List Part)
  | output (quoted : Bool) (body : Option Command)
  /-- A use of a parameter that makes no sense. -/
  | nonsense
  /-- Nothing after it counts. -/
  | stop

/-- What is done with the value of a parameter. With `orEmpty`, an empty value counts as no value. -/
inductive Use where
  /-- The value itself. -/
  | value
  /-- The length of the value. -/
  | length
  /-- Another text where there is no value. -/
  | fallback (orEmpty : Bool) (text : List Part)
  /-- Another text where there is no value, which becomes the value. -/
  | assign (orEmpty : Bool) (text : List Part)
  /-- Another text where there is a value. -/
  | instead (orEmpty : Bool) (text : List Part)
  /-- A complaint where there is no value. -/
  | require (orEmpty : Bool) (complaint : List Part)
  /-- The value without what a pattern matches at its start or its end. -/
  | strip (atStart longest : Bool) (pattern : List Part)

/-- What a descriptor is to stand for. -/
inductive Redirect where
  | file (descriptor : Nat) (opening : Opening) (target : List Part)
  /-- The same as another descriptor, or nothing after a dash. -/
  | duplicate (descriptor : Nat) (target : List Part)
  /-- A here-document, by its index. -/
  | document (descriptor : Nat) (index : Nat)

/-- A command. Where a complaint may name a line, the command knows its line. -/
inductive Command where
  /-- Assignments, words and redirections. -/
  | simple (line : Nat) (assignments : List (List Part)) (words : List (List Part))
      (redirects : List Redirect)
  | sequence (items : List Command)
  /-- The second command runs if the first succeeds. -/
  | both (first second : Command)
  /-- The second command runs if the first fails. -/
  | either (first second : Command)
  | negated (body : Command)
  /-- Each command reads what the one before it writes. -/
  | pipeline (background : Bool) (items : List Command)
  /-- A body that nobody waits for. -/
  | background (line : Nat) (body : Command)
  /-- A body for each of some words, or for each argument. -/
  | forEach (line : Nat) (name : String) (words : Option (List (List Part))) (body : Command)
  /-- A body as long as a condition succeeds, or as long as it fails. -/
  | repeated (untilSuccess : Bool) (condition body : Command)
  | branch (condition accepted : Command) (rejected : Option Command)
  /-- The body of the first case with a pattern that matches a word. -/
  | select (line : Nat) (word : List Part) (cases : List (List (List Part) × Option Command))
  /-- A body with redirections. -/
  | group (line : Nat) (body : Command) (redirects : List Redirect)
  /-- A body that cannot change the variables of the script. -/
  | subshell (line : Nat) (body : Command) (redirects : List Redirect)
  /-- The definition of a function. -/
  | define (name : String) (body : Command)

end

/-- A word. -/
abbrev Word := List Part

/-- The text of a word in which nothing is expanded. -/
def Word.text (word : Word) : Bytes :=
  word.flatMap fun
    | .literal _ text => text
    | _ => []

/-- The text of a word that has neither quotes nor expansions. -/
def Word.plain? : Word → Option Bytes
  | [.literal .plain text] => some text
  | _ => none

/-- Whether a part is not the end of what counts. -/
def Part.counts : Part → Bool
  | .stop => false
  | _ => true

/-- Divides a word where what counts ends, if it does before the word does. -/
def Word.divide? (word : Word) : Option (Word × Word) :=
  if word.all Part.counts then none else some (word.takeWhile Part.counts, (word.dropWhile Part.counts).tail)

/-- Whether a word has the form of an assignment: a name and an equals sign, neither of them quoted. -/
def Word.isAssignment : Word → Bool
  | .literal .plain text :: _ => (assignment? text).isSome
  | _ => false

/-- Adds a part at the end of a reversed word; text joins the text before it. -/
def Word.add (reversed : Word) : Part → Word
  | .literal quoting text =>
    match reversed with
    | .literal quotingBefore before :: rest =>
      if quotingBefore == quoting then .literal quoting (before ++ text) :: rest
      else .literal quoting text :: reversed
    | _ => .literal quoting text :: reversed
  | part => part :: reversed

end SinglePath.Shell
