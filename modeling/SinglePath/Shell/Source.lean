/-
**The text of a script, as it is read.**

* `Source` — what is left of a text, the line that is read, and what was read last.
* `Token` — what a text consists of: words, operators, and the ends of lines.
* `SyntaxError` — a complaint about a text, with its line.
* `peek`, `peekJoined`, `advance` — the next character. A backslash at the end of a line joins the next
  line to it.
* `Source.replace` — reads the value of an alias in place of its name. An alias is not replaced within
  its own value.

A text may be known only in part. Whoever reads up to the end of the known part leaves a note about it,
so that the command can be read again once there is more.
-/

import SinglePath.Shell.Command

namespace SinglePath.Shell

open Text (Bytes)

/-- What a text consists of. -/
inductive Token where
  | ending
  | newline
  | semicolon
  | ampersand
  | both
  | either
  | pipe
  | opening
  | closing
  | caseEnd
  | word
  | redirect
  | keyword (text : String)
  deriving DecidableEq, Repr

/-- A token in words. -/
def Token.name : Token → String
  | .ending => "end of file"
  | .newline => "newline"
  | .semicolon => "\";\""
  | .ampersand => "\"&\""
  | .both => "\"&&\""
  | .either => "\"||\""
  | .pipe => "\"|\""
  | .opening => "\"(\""
  | .closing => "\")\""
  | .caseEnd => "\";;\""
  | .word => "word"
  | .redirect => "redirection"
  | .keyword text => "\"" ++ text ++ "\""

/-- The words that put commands together. -/
def keywords : List String :=
  ["!", "case", "do", "done", "elif", "else", "esac", "fi", "for", "if", "in", "then", "until", "while",
   "\x7b", "\x7d"]

/-- Whether a token ends a list of commands. -/
def Token.endsList : Token → Bool
  | .ending | .closing | .caseEnd => true
  | .keyword text => ["do", "done", "elif", "else", "esac", "fi", "then", "\x7d"].contains text
  | _ => false

/-- What a redirection does, before its target is read. -/
inductive Arrow where
  | file (opening : Opening)
  | duplicate
  | document (stripsTabs : Bool)
  deriving DecidableEq, Repr

/-- A here-document that begins at the next line. -/
structure Awaited where
  index : Nat
  /-- The line that ends it. -/
  delimiter : Bytes
  /-- Whether parameters and commands in it are expanded. -/
  expands : Bool
  /-- Whether tabs at the start of its lines are dropped. -/
  stripsTabs : Bool

/-- The text after an alias, while the value of the alias is being read. -/
structure Interrupted where
  /-- The alias. -/
  name : String
  rest : Bytes
  /-- The aliases whose values had just ended. -/
  ended : List String
  /-- Whether the value of the alias ends with a blank. -/
  blank : Bool

/-- A text that is being read. -/
structure Source where
  rest : Bytes
  /-- What comes after `rest`, if that belongs to the value of an alias. -/
  outer : List Interrupted := []
  /-- The aliases whose values ended just before the next character. They are still in use. -/
  ended : List String := []
  /-- Whether the end of what is known of the text was seen. -/
  starved : Bool := false
  line : Nat := 1
  /-- The latest token. -/
  latest : Token := .newline
  /-- Whether the latest token is to be read again. -/
  pushed : Bool := false
  /-- The latest word. -/
  word : Word := []
  /-- Whether a part of the latest word is quoted. -/
  quoted : Bool := false
  /-- The latest redirection: its descriptor and what it does. -/
  arrow : Nat × Arrow := (0, .duplicate)
  /-- Whether a dollar sign stands for itself. -/
  plainDollars : Bool := false
  awaited : List Awaited := []
  /-- The here-documents read so far. -/
  documents : List (Nat × Word) := []
  nextDocument : Nat := 0
  aliases : List (String × Bytes) := []
  /-- Whether the value of an alias ended with a blank just now, so that the next word may be one too. -/
  afterAlias : Bool := false

/-- A complaint about a text. -/
structure SyntaxError where
  line : Nat
  message : String

/-- Reads a part of a text. -/
abbrev Reading (α : Type) := EStateM SyntaxError Source α

/-- Complains about a text. -/
def refuse {α : Type} (message : String) : Reading α := do
  throw ⟨(← get).line, message⟩

/-- Complains about the latest token. -/
def unexpected {α : Type} (expected : Option Token) : Reading α := do
  let latest := (← get).latest.name
  refuse (latest ++ " unexpected" ++
    expected.elim "" fun token => " (expecting " ++ token.name ++ ")")

/-! ### Characters -/

/-- Goes on after the values of aliases that have ended. -/
def Source.resume (s : Source) : List Interrupted → Source
  | [] => { s with outer := [] }
  | first :: others =>
    let after := { s with
      rest := first.rest
      ended := first.name :: first.ended
      afterAlias := s.afterAlias || first.blank }
    if first.rest.isEmpty then after.resume others else { after with outer := others }

/-- Makes the next character the first one of what is left, if there is any. -/
def Source.settle (s : Source) : Source :=
  if s.rest.isEmpty then
    let s := s.resume s.outer
    if s.rest.isEmpty then { s with starved := true } else s
  else s

/-- Whether an alias is not to be replaced now. -/
def Source.uses (s : Source) (name : String) : Bool :=
  s.ended.contains name || s.outer.any fun text => text.name = name || text.ended.contains name

/-- Reads the value of an alias next. -/
def Source.replace (s : Source) (name : String) (value : Bytes) : Source :=
  if value.isEmpty then s
  else
    let blank := match value.getLast? with
      | some c => c == ' ' || c == '\t'
      | none => false
    { s with rest := value, outer := ⟨name, s.rest, s.ended, blank⟩ :: s.outer, ended := [] }

/-- Puts text that belongs to aliases and what comes after it together. -/
def Source.flatten (s : Source) : Source :=
  match s.outer with
  | [] => s
  | outer => { s with rest := s.rest ++ outer.flatMap (·.rest), outer := [] }

/-- Adds more of the text. -/
def Source.extend (s : Source) (more : Bytes) : Source :=
  match s.outer.reverse with
  | [] => { s with rest := s.rest ++ more }
  | last :: others => { s with outer := ({ last with rest := last.rest ++ more } :: others).reverse }

/-- What is left of the text itself, without the values of aliases. -/
def Source.remaining (s : Source) : Bytes :=
  (s.outer.getLast?).elim s.rest Interrupted.rest

/-- The next character. -/
def peek : Reading (Option Char) := do
  modify Source.settle
  return (← get).rest.head?

/-- Drops the next character. -/
def advance : Reading Unit :=
  modify fun s => { s with rest := s.rest.tail, ended := [] }

/-- Begins the next line. -/
def nextLine : Reading Unit :=
  modify fun s => { s with line := s.line + 1 }

/-- A text without the joined line ends at its start, and how many there were. -/
def dropJoins : Bytes → Nat → Bytes × Nat
  | '\\' :: '\n' :: rest, count => dropJoins rest (count + 1)
  | rest, count => (rest, count)

/-- The next character, after joining lines. -/
def peekJoined : Reading (Option Char) := do
  modify Source.settle
  modify fun s =>
    match s.rest with
    | ['\\'] =>
      match s.outer with
      | [] => { s with starved := true }
      | _ => s.flatten
    | _ => s
  modify fun s =>
    match s.rest with
    | '\\' :: '\n' :: _ =>
      let (rest, count) := dropJoins s.rest 0
      Source.settle { s with rest, line := s.line + count, ended := [] }
    | _ => s
  return (← get).rest.head?

/-- Takes as many characters of a kind as there are, joining lines, at most `fuel`. -/
def takeJoined (kind : Char → Bool) : Nat → Reading Bytes
  | 0 => return []
  | fuel + 1 => do
    match ← peekJoined with
    | some c =>
      if kind c then
        advance
        return c :: (← takeJoined kind fuel)
      else return []
    | none => return []

/-- Takes the characters up to one that does not belong to a run. -/
def takeRun (belongs : Char → Bool) : Reading Bytes := do
  let s ← get
  let run := s.rest.takeWhile belongs
  if run.isEmpty then return []
  set { s with rest := s.rest.drop run.length, ended := [] }
  return run

/-- Reads the latest token again at the next turn. -/
def pushBack : Reading Unit :=
  modify fun s => { s with pushed := true }

/-- Sets the latest token. -/
def found (token : Token) : Reading Token := do
  modify fun s => { s with latest := token }
  return token

/-- Whether a line begins with a delimiter and has nothing after it; returns what stands after the
line. -/
def afterDelimiter? (delimiter text : Bytes) : Option Bytes :=
  if delimiter.isPrefixOf text then
    match text.drop delimiter.length with
    | [] => some []
    | '\n' :: rest => some rest
    | _ => none
  else none

/-- Drops the tabs at the start of a line if they do not count, and the line itself if it ends a
here-document; whether it does. -/
def atDelimiter (delimiter : Bytes) (stripsTabs : Bool) : Reading Bool := do
  modify Source.flatten
  if stripsTabs then
    modify fun s => { s with rest := s.rest.dropWhile (· == '\t') }
  modify fun s => if s.rest.contains '\n' then s else { s with starved := true }
  let s ← get
  match afterDelimiter? delimiter s.rest with
  | some rest =>
    set { s with rest, line := s.line + 1 }
    return true
  | none => return s.rest.isEmpty

/-- Takes the text up to a quote, at most `fuel` pieces of it, which end at the end of a line or of the value
of an alias. With a delimiter, a line that ends a
here-document ends it also here; `none` if there is no quote. -/
def takeQuoted (delimiter : Option (Bytes × Bool)) : Nat → Bytes → Reading (Option Bytes)
  | 0, _ => return none
  | fuel + 1, before => do
    let text := before ++ (← takeRun fun c => c ≠ '\'' && c ≠ '\n')
    match ← peek with
    | none => return none
    | some c =>
      advance
      if c == '\'' then return some text
      else if c ≠ '\n' then takeQuoted delimiter fuel (text ++ [c])
      else
        nextLine
        let ended ← match delimiter with
          | some (delimiter, stripsTabs) => atDelimiter delimiter stripsTabs
          | none => pure false
        if ended then return none else takeQuoted delimiter fuel (text ++ [c])

/-- A here-document whose text stands for itself, up to its delimiter. -/
def plainDocument (delimiter : Bytes) (stripsTabs : Bool) : Nat → Bytes → Reading Bytes
  | 0, reversed => return reversed.reverse
  | fuel + 1, reversed => do
    if ← atDelimiter delimiter stripsTabs then return reversed.reverse
    else
      let line ← takeRun (· ≠ '\n')
      match ← peek with
      | none => return (line.reverse ++ reversed).reverse
      | some _ =>
        advance
        nextLine
        plainDocument delimiter stripsTabs fuel ('\n' :: (line.reverse ++ reversed))

end SinglePath.Shell
