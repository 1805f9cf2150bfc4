/-
**Expansions: from words to texts.**

* `expandPart` — what a part of a word stands for. The output of commands comes from outside.
* `expandText` — a word as one text; `expandPattern` — as a pattern; `expandFields` — as arguments.
* `pathNames` — the paths that a pattern matches, in the order of their bytes.
-/

import SinglePath.Shell.Arithmetic
import SinglePath.Shell.Field
import SinglePath.Shell.Pattern
import SinglePath.Shell.Sight

namespace SinglePath.Shell

open Text (Bytes)

/-! ### Home directories -/

/-- The directory that a tilde and a name stand for. -/
def homeOf? (p : Process) (name : Bytes) : Option Bytes :=
  if name.isEmpty then p.lookup "HOME" else Files.users.lookup name

/-- Whether a character ends the name after a tilde. In assignments a colon does, too. -/
def endsHome (assigning : Bool) (c : Char) : Bool :=
  c == '/' || (assigning && c == ':')

/-- Replaces a tilde at the start of a text, given whether the word ends with the text. -/
def replaceTilde (p : Process) (assigning atEnd : Bool) : Bytes → Option (Bytes × Bytes)
  | '~' :: rest =>
    let name := rest.takeWhile (!endsHome assigning ·)
    let after := rest.drop name.length
    if after.isEmpty && !atEnd then none else (homeOf? p name).map fun home => (home, after)
  | _ => none

/-- A word with the tilde at its start replaced. -/
def replaceLeading (p : Process) : Word → Word
  | .literal .plain text :: rest =>
    match replaceTilde p false rest.isEmpty text with
    | some (home, after) => .literal .quotes home :: .literal .plain after :: rest
    | none => .literal .plain text :: rest
  | word => word

/-- The tildes of an assigned value replaced, in texts of at most `fuel` characters: those at the start
of the value and after each colon. -/
def replaceAll (p : Process) : Nat → Bool → Word → Word
  | 0, _, word => word
  | _, _, [] => []
  | fuel + 1, mayStart, .literal .plain text :: rest =>
    match if mayStart then replaceTilde p true rest.isEmpty text else none with
    | some (home, after) => .literal .quotes home :: replaceAll p fuel false (.literal .plain after :: rest)
    | none =>
      let before := text.takeWhile (· ≠ ':')
      match text.drop before.length with
      | colon :: after =>
        .literal .plain (before ++ [colon]) :: replaceAll p fuel true (.literal .plain after :: rest)
      | [] => .literal .plain text :: replaceAll p fuel (mayStart && text.isEmpty) rest
  | fuel + 1, _, part :: rest => part :: replaceAll p fuel false rest

/-- An assignment with the tildes of its value replaced. -/
def replaceAssigned (p : Process) : Word → Word
  | .literal .plain text :: rest =>
    let name := text.takeWhile (· ≠ '=')
    let value := text.drop (name.length + 1)
    .literal .plain (name ++ ['=']) ::
      replaceAll p (2 * text.length + rest.length + 2) true
        (if value.isEmpty then rest else .literal .plain value :: rest)
  | word => word

/-! ### Parameters -/

/-- How a parameter is written. -/
def Parameter.text : Parameter → Bytes
  | .named name => name.toList
  | .positional index => .ofNat index
  | .all => ['@']
  | .joined => ['*']
  | .count => ['#']
  | .status => ['?']
  | .process => ['$']
  | .background => ['!']
  | .options => ['-']

/-- Where a word is expanded. -/
structure Context where
  /-- Whether the result may be several arguments. -/
  full : Bool := false
  /-- Whether the word is what stands for a parameter, so that also its plain text is divided. -/
  substitute : Bool := false

/-- A text that an expansion gave. -/
def given (quoted : Bool) (text : Bytes) : Run :=
  .text (.ofBool quoted) (if quoted then .whole else .separators) text

/-- The value of a parameter as a stretch of a word. All arguments are kept apart where there may be
several. -/
def valueRun? (p : Process) (context : Context) (quoted : Bool) (which : Parameter) : Option Run :=
  let apart := match which with
    | .all => context.full
    | .joined => context.full && !quoted
    | _ => false
  if apart then
    if quoted then
      if p.arguments.isEmpty then some (.text .quotes .whole [])
      else some (.text .quotes .borders (Bytes.join [border] p.arguments))
    else
      let separator := if (p.lookup "IFS").isSome then border else ' '
      some (.text .plain .separators (Bytes.join [separator] p.arguments))
  else (p.value? which).map (given quoted)

/-- The characters of a stretch. -/
def Run.chars : Run → Bytes
  | .text _ _ chars => chars
  | .mark => []

/-- Complains about a parameter that has no value. -/
def failUnset {α : Type} (which : Parameter) (message : Bytes) : Action α :=
  fail (which.text ++ ": ".toList ++ message)

/-- Sets the variable of a parameter. -/
def assignParameter (which : Parameter) (value : Bytes) : Action Unit :=
  match which with
  | .named name => assignVariable name value
  | _ => fail (which.text ++ ": bad variable name".toList)

/-- The value of an arithmetic expression, whose assignments are carried out. -/
def calculate (expression : Bytes) : Action Bytes := do
  let p ← self
  let complaint (what : String) : Bytes :=
    "arithmetic expression: ".toList ++ what.toList ++ ": \"".toList ++ expression ++ ['"']
  let result := Arithmetic.evaluate p.lookup expression
  for (name, number) in result.assigned do
    assignVariable name (.ofInt number)
  match result.value with
  | .ok value => return .ofInt value
  | .error (.expecting what) => fail (complaint ("expecting " ++ what))
  | .error .divisionByZero => fail (complaint "division by zero")
  | .error (.illegalNumber text) => fail ("Illegal number: ".toList ++ text)
  | .error .quotientTooGreat => throw (.ended (.killed 8))

/-- A text without what a pattern matches at its start or its end. Where arguments stand apart in the
text, the pattern is matched with the first one only. A search from the right then steps back through the
first argument while it steps back through all of them; when the first one is used up it goes on through
the text of the pattern, and through the arguments themselves. -/
def stripApart (atStart longest : Bool) (pattern text : Bytes) : Bytes :=
  let steps := parsePattern pattern
  let first := text.takeWhile (· ≠ border)
  let found (holds : Nat → Bool) : Option Nat := (List.range (text.length + 1)).find? holds
  if first.length = text.length then stripMatch atStart longest steps text
  else
    match atStart, longest with
    | true, false => text.drop (first.length - (stripMatch true false steps first).length)
    | false, true => (found fun position =>
        position ≤ first.length && matchesAll steps (first.drop position)).elim text text.take
    | true, true =>
      let holds (back : Nat) : Bool :=
        if back ≤ first.length then matchesAll steps (first.take (first.length - back))
        else
          let left := pattern.length - (back - first.length - 1)
          matchesAll (parsePattern (pattern.take left)) first
      (found holds).elim text fun back => text.drop (text.length - back)
    | false, false =>
      let behind := text ++ border :: pattern ++ border :: first
      let holds (back : Nat) : Bool :=
        matchesAll steps ((behind.drop (behind.length - back)).takeWhile (· ≠ border))
      (found holds).elim text fun back => text.take (text.length - back)

/-- What a part of a word stands for, in words that are nested at most `fuel` deep. The output of a
command comes from `capture`. -/
def expandPart (capture : Option Command → Action Bytes) : Nat → Context → Part → Action (List Run)
  | 0, _, _ => throw .exhausted
  | fuel + 1, context, part => do
    let text (word : Word) : Action Bytes := do
      let runs ← (replaceLeading (← self) word).mapM (expandPart capture fuel {})
      return joined runs.flatten
    let substitute (word : Word) : Action (List Run) := do
      let runs ← (replaceLeading (← self) word).mapM
        (expandPart capture fuel { context with substitute := true })
      return runs.flatten
    match part with
    | .literal quoting chars =>
      return [.text quoting (if context.substitute && quoting = .plain then .separators else .whole) chars]
    | .mark => return [.mark]
    | .stop => return []
    | .nonsense => fail "Bad substitution".toList
    | .arithmetic quoted expression =>
      let runs ← expression.mapM (expandPart capture fuel {})
      return [given quoted (← calculate (joined runs.flatten))]
    | .output quoted body => return [given quoted (← capture body)]
    | .parameter quoted which use =>
      let value := valueRun? (← self) context quoted which
      let isMissing (orEmpty : Bool) : Bool :=
        match value with
        | none => true
        | some run => orEmpty && run.chars.isEmpty
      let required : Action Run := do
        match value with
        | some run => return run
        | none =>
          if (← self).has 'u' then failUnset which "parameter not set".toList
          else return given quoted []
      match use with
      | .value => return [← required]
      | .length =>
        let _ ← required
        return [given quoted (.ofNat (((← self).value? which).getD []).length)]
      | .fallback orEmpty word => if isMissing orEmpty then substitute word else return [← required]
      | .instead orEmpty word => if isMissing orEmpty then return [given quoted []] else substitute word
      | .assign orEmpty word =>
        if isMissing orEmpty then
          assignParameter which (← text word)
          return (valueRun? (← self) context quoted which).toList
        else return [← required]
      | .require orEmpty word =>
        if isMissing orEmpty then
          if word.isEmpty then
            failUnset which (if orEmpty then "parameter not set or null" else "parameter not set").toList
          else failUnset which (← text word)
        else return [← required]
      | .strip atStart longest word =>
        let run ← required
        let runs ← (replaceLeading (← self) word).mapM (expandPart capture fuel {})
        let pattern := patternText (stretches runs.flatten)
        match run with
        | .text quoting division chars =>
          return [.text quoting division (stripApart atStart longest pattern chars)]
        | .mark => return [.mark]

/-- How deep words may be nested. -/
def depthLimit : Nat := 1000

/-- What a word stands for. -/
def expandRuns (capture : Option Command → Action Bytes) (context : Context) (word : Word) :
    Action (List Run) := do
  return (← (word.takeWhile Part.counts).mapM (expandPart capture depthLimit context)).flatten

/-- A word as one text. -/
def expandText (capture : Option Command → Action Bytes) (word : Word) : Action Bytes := do
  return joined (← expandRuns capture {} (replaceLeading (← self) word))

/-- An assignment as one text. -/
def expandAssignment (capture : Option Command → Action Bytes) (word : Word) : Action Bytes := do
  return joined (← expandRuns capture {} (replaceAssigned (← self) (word.takeWhile Part.counts)))

/-- A word as a pattern. -/
def expandPattern (capture : Option Command → Action Bytes) (word : Word) : Action (List Glob) := do
  return patternOf (stretches (← expandRuns capture {} (replaceLeading (← self) word)))

/-! ### Paths that a pattern matches -/

/-- Whether a character is special in patterns unless it is quoted. -/
def isSpecial (c : Char) : Bool :=
  c == '*' || c == '?' || c == '['

/-- Whether a set whose first character is the first one of a text is closed in it. -/
def isClosed : Bytes → Bool
  | [] => false
  | '\\' :: _ :: rest | _ :: rest => rest.head? = some ']' || isClosed rest

/-- Whether a piece of a path is a pattern: it has a special character that is not after a backslash, and
a set in it is closed. -/
def isPattern : Bytes → Bool
  | [] => false
  | '\\' :: _ :: rest => isPattern rest
  | '[' :: rest => isClosed (if rest.head? = some '!' then rest.tail else rest) || isPattern rest
  | c :: rest => isSpecial c || isPattern rest

/-- The text of a pattern without special characters. -/
def unescaped : Bytes → Bytes
  | [] => []
  | '\\' :: c :: rest => c :: unescaped rest
  | c :: rest => c :: unescaped rest

/-- Divides the text of a pattern at its slashes, given what was read of the first piece, reversed. -/
def patternPieces : Bytes → Bytes → List Bytes
  | current, [] => [current.reverse]
  | current, '/' :: rest => current.reverse :: patternPieces [] rest
  | current, '\\' :: '/' :: rest => current.reverse :: patternPieces [] rest
  | current, '\\' :: c :: rest => patternPieces (c :: '\\' :: current) rest
  | current, c :: rest => patternPieces (c :: current) rest

/-- The names in a directory, with those of the directory itself and the one above it. -/
def namesIn (view : Files.View) (path : Bytes) : List Bytes :=
  let path : Bytes := if path.isEmpty then ['.'] else path
  match view.find path with
  | .ok (place, .directory) => ['.'] :: ['.', '.'] :: view.children place
  | _ => []

/-- The paths that begin as given and go on as the pieces of a pattern say. A name that begins with a
dot is matched only by a pattern that does. -/
def matchingPaths (view : Files.View) : Bytes → List Bytes → List Bytes
  | _, [] => []
  | before, piece :: rest =>
    let next (name : Bytes) : List Bytes :=
      match rest with
      | [] => [before ++ name]
      | _ => matchingPaths view (before ++ name ++ ['/']) rest
    if isPattern piece then
      let pattern := parsePattern piece
      let hidden := match pattern with
        | .exact '.' :: _ => true
        | _ => false
      let names := (namesIn view before).filter fun name =>
        (hidden || name.head? ≠ some '.') && matchesAll pattern name
      names.flatMap next
    else
      let name := unescaped piece
      if rest.isEmpty then (if (view.find (before ++ name)).isOk then [before ++ name] else [])
      else next name

/-- The arguments that an argument gives when it is taken as a pattern for paths: those that it
matches, or itself. -/
def pathNames (s : State) (stretches : List Stretch) : List Bytes :=
  let plain := stretches.flatMap Prod.snd
  if s.self.has 'f' || !(stretches.any fun (quoting, chars) => quoting = .plain && chars.any isSpecial) then
    [plain]
  else
    let pieces := patternPieces [] (patternText stretches)
    if !pieces.any isPattern then [plain]
    else
      match (matchingPaths s.view [] pieces).mergeSort Bytes.le with
      | [] => [plain]
      | found => found

/-- A word as arguments. -/
def expandFields (capture : Option Command → Action Bytes) (word : Word) : Action (List Bytes) := do
  let runs ← expandRuns capture { full := true } (replaceLeading (← self) word)
  let s ← get
  return (fields s.self.separators runs).flatMap (pathNames s)

end SinglePath.Shell
