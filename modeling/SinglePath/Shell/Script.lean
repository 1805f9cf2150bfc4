/-
**Reading scripts, command by command.**

* `next` — the next command of a script, and the text after it. A script is read no further than the
  line that ends the command, so that what comes before a mistake runs.
* `parseText` — a text in which only parameters, numbers and commands are expanded.

The grammar has one function for each of its forms. All of them take the fuel that bounds how often
they call each other.
-/

import SinglePath.Shell.Source

namespace SinglePath.Shell

open Text (Bytes)

/-- What is looked for in a token. -/
structure Checks where
  /-- Skip the ends of lines. -/
  newlines : Bool := false
  keywords : Bool := false
  aliases : Bool := false

/-- Where a command may start. -/
def Checks.start : Checks :=
  { keywords := true, aliases := true }

/-- Where a command may start, maybe on a later line. -/
def Checks.startBelow : Checks :=
  { newlines := true, keywords := true, aliases := true }

/-- The text that a word or something like a word belongs to. -/
inductive Around where
  /-- Commands. -/
  | script
  /-- A here-document with its delimiter. -/
  | document (delimiter : Bytes) (stripsTabs : Bool)
  /-- A text of its own. -/
  | text
  deriving DecidableEq, Repr

/-- Where a part of a word stands. -/
inductive Place where
  /-- In a word, outside of quotes, or in a text without commands. -/
  | plain
  /-- In braces, outside of quotes. -/
  | braces
  /-- In double quotes. -/
  | quotes
  /-- In braces that stand in double quotes, and there maybe in quotes once more. -/
  | quotedBraces (inner : Bool)
  /-- In an arithmetic expression, within some parentheses of its own. -/
  | arithmetic (depth : Nat)
  deriving DecidableEq, Repr

/-- Where a part stands, and in what text. -/
structure Position where
  place : Place
  around : Around := .script

namespace Position

/-- The same text, at another place. -/
def moveTo (p : Position) (place : Place) : Position :=
  { p with place }

/-- Whether text is quoted here. -/
def isQuoted (p : Position) : Bool :=
  match p.place with
  | .plain => p.around ≠ .script
  | .braces => false
  | _ => true

/-- How text is quoted here. -/
def quoting (p : Position) : Quoting :=
  .ofBool p.isQuoted

/-- Whether a closing brace ends something here. -/
def isBraced (p : Position) : Bool :=
  match p.place with
  | .braces | .quotedBraces _ => true
  | _ => false

/-- Whether a double quote stands for itself here. -/
def isPlainQuote (p : Position) : Bool :=
  match p.place with
  | .plain => p.around ≠ .script
  | .arithmetic _ => true
  | _ => false

/-- Whether a character after a backslash keeps the backslash. -/
def keepsBackslash (p : Position) (c : Char) : Bool :=
  p.isQuoted && c ≠ '\\' && c ≠ Char.ofNat 0x60 && c ≠ '$' &&
    (c ≠ '"' || p.place = .plain) && (c ≠ '\x7d' || !p.isBraced)

/-- Whether a character has no meaning of its own here. -/
def isPlain (p : Position) (c : Char) : Bool :=
  c ≠ '\n' && c ≠ '\\' && c ≠ '"' && c ≠ '$' && c ≠ Char.ofNat 0x60 &&
    match p.place with
    | .plain => p.around ≠ .script || !" \t<>();&|'".toList.contains c
    | .braces => c ≠ '\'' && c ≠ '\x7d'
    | .quotedBraces _ => c ≠ '\x7d'
    | .arithmetic _ => c ≠ '(' && c ≠ ')'
    | .quotes => true

/-- What is missing if the text ends here. -/
def missing? (p : Position) : Option String :=
  match p.place with
  | .plain => none
  | .arithmetic _ => some "Missing '))'"
  | .braces => some "Missing '\x7d'"
  | .quotes | .quotedBraces _ =>
    some (if p.around = .script then "Unterminated quoted string" else "Missing '\x7d'")

/-- Where the word of a parameter's use stands; a pattern has quotes of its own. -/
def ofUse (p : Position) (isPattern : Bool) : Position :=
  p.moveTo (if isPattern || !p.isQuoted then .braces else .quotedBraces false)

end Position

/-- The special parameter that a character stands for. -/
def special? : Char → Option Parameter
  | '@' => some .all
  | '*' => some .joined
  | '#' => some .count
  | '?' => some .status
  | '$' => some .process
  | '!' => some .background
  | '-' => some .options
  | c => if c.isDigit then some (.positional (c.toNat - '0'.toNat)) else none

/-- The operator after a parameter in braces. -/
inductive Operator where
  | value
  | length
  | fallback (orEmpty : Bool)
  | assign (orEmpty : Bool)
  | instead (orEmpty : Bool)
  | require (orEmpty : Bool)
  | strip (atStart longest : Bool)
  /-- The value, and then what stands before the next closing brace. -/
  | followed
  | nonsense
  deriving DecidableEq, Repr

/-- The use that an operator and a word make. -/
def Operator.use? (word : Word) : Operator → Option Use
  | .value => some .value
  | .length => some .length
  | .fallback orEmpty => some (.fallback orEmpty word)
  | .assign orEmpty => some (.assign orEmpty word)
  | .instead orEmpty => some (.instead orEmpty word)
  | .require orEmpty => some (.require orEmpty word)
  | .strip atStart longest => some (.strip atStart longest word)
  | .followed | .nonsense => none

/-- Reads the operator after a parameter in braces. -/
def readOperator : Reading Operator := do
  let simple (orEmpty : Bool) (c : Option Char) : Operator := match c with
    | some '-' => .fallback orEmpty
    | some '+' => .instead orEmpty
    | some '?' => .require orEmpty
    | some '=' => .assign orEmpty
    | _ => .nonsense
  match ← peekJoined with
  | some '\x7d' =>
    advance
    return .value
  | some ':' =>
    advance
    let c ← peekJoined
    advance
    return if c == some '\x7d' then .followed else simple true c
  | some c =>
    advance
    if c == '%' || c == '#' then
      if (← peekJoined) == some c then
        advance
        return .strip (c == '#') true
      else return .strip (c == '#') false
    else return simple false (some c)
  | none => return .nonsense

/-- Reads a name or the digits of an index. -/
def readNamed (fuel : Nat) (c : Char) : Reading Parameter := do
  if c.isDigit then return .positional (digitsValue 10 (← takeJoined Char.isDigit fuel))
  else return .named (String.ofList (← takeJoined isNameChar fuel))

/-- Reads a parameter in braces and the operator after it. If there is no sense in it the parameter
does not matter. -/
def readBraced (fuel : Nat) : Reading (Parameter × Operator) := do
  match ← peekJoined with
  | none => return (.count, .nonsense)
  | some '\x7d' => return (.count, .nonsense)
  | some '#' =>
    advance
    match ← peekJoined with
    | some c =>
      if isNameChar c then
        let parameter ← readNamed fuel c
        if (← peekJoined) == some '\x7d' then return (parameter, .length)
        else return (parameter, .nonsense)
      else if c == '\x7d' then return (.count, ← readOperator)
      else
        let before ← get
        advance
        if (← peekJoined) == some '\x7d' then
          match special? c with
          | some parameter => return (parameter, .length)
          | none => return (.count, .nonsense)
        else
          set before
          return (.count, ← readOperator)
    | none => return (.count, .nonsense)
  | some c =>
    if isNameChar c then
      let parameter ← readNamed fuel c
      return (parameter, ← readOperator)
    else
      advance
      match special? c with
      | some parameter => return (parameter, ← readOperator)
      | none => return (.count, .nonsense)

/-- The text in backquotes, up to the one that closes it. A backslash before a backslash, a dollar
sign or a backquote goes away, and so does one before a double quote within quotes. -/
def readBackquoted (quoted : Bool) : Nat → Bytes → Reading Bytes
  | 0, _ => refuse "EOF in backquote substitution"
  | fuel + 1, reversed => do
    match ← peekJoined with
    | none => refuse "EOF in backquote substitution"
    | some c =>
      advance
      if c == Char.ofNat 0x60 then return reversed.reverse
      else if c == '\\' then
        match ← peek with
        | none => readBackquoted quoted fuel ('\\' :: reversed)
        | some escaped =>
          advance
          if escaped == '\\' || escaped == '$' || escaped == Char.ofNat 0x60 ||
              (quoted && escaped == '"') then
            readBackquoted quoted fuel (escaped :: reversed)
          else readBackquoted quoted fuel (escaped :: '\\' :: reversed)
      else
        if c == '\n' then nextLine
        readBackquoted quoted fuel (c :: reversed)

/-- Whether a list of commands ends at the end of a line, has at least one command, or may be empty. -/
inductive ListKind where
  | line
  | required
  | optional
  deriving DecidableEq, Repr

/-- Commands one after another. -/
def Command.ofList : List Command → Option Command
  | [] => none
  | [command] => some command
  | commands => some (.sequence commands)

/-- A command that nobody waits for. -/
def Command.inBackground (line : Nat) : Command → Command
  | .pipeline _ items => .pipeline true items
  | command => .background line command

/-- The built-in commands that no function may be named after. -/
def specialBuiltins : List String :=
  [".", ":", "break", "continue", "eval", "exec", "exit", "export", "local", "readonly", "return", "set",
   "shift", "times", "trap", "unset"]

/-- The parts of a simple command, each list with the latest first. -/
structure SimpleParts where
  assignments : List Word := []
  words : List Word := []
  redirects : List Redirect := []

/-- A simple command. -/
def SimpleParts.command (line : Nat) (parts : SimpleParts) : Command :=
  .simple line parts.assignments.reverse parts.words.reverse parts.redirects.reverse

/-- A part with a word of its own. If what counts ends in the word, what stands after that comes after the
part, and nothing counts after that. -/
def partsWith (word : Word) (part : Word → Part) : Word :=
  match word.divide? with
  | none => [part word]
  | some (before, after) => part before :: after ++ [.stop]

/-- Reads the operator of a redirection, whose first character is next. -/
def readArrow (descriptor : Option Nat) : Reading Unit := do
  let first ← peekJoined
  advance
  let second ← peekJoined
  let (usual, arrow, length) : Nat × Arrow × Nat ← match first, second with
    | some '>', some '>' => pure (1, .file .append, 1)
    | some '>', some '|' => pure (1, .file .overwrite, 1)
    | some '>', some '&' => pure (1, .duplicate, 1)
    | some '>', _ => pure (1, .file .write, 0)
    | _, some '&' => pure (0, .duplicate, 1)
    | _, some '>' => pure (0, .file .readWrite, 1)
    | _, some '<' =>
      advance
      if (← peekJoined) == some '-' then pure (0, .document true, 1)
      else pure (0, .document false, 0)
    | _, _ => pure (0, .file .read, 0)
  if length = 1 then advance
  modify fun s => { s with arrow := (descriptor.getD usual, arrow) }

/-- Skips a comment, in at most `fuel` pieces. -/
def skipComment : Nat → Reading Unit
  | 0 => return
  | fuel + 1 => do
    let _ ← takeRun (· ≠ '\n')
    match ← peek with
    | some '\n' | none => return
    | some _ => skipComment fuel

/-- Skips blanks and a comment before a token, at most `fuel` of them. -/
def skipBlanks : Nat → Reading Unit
  | 0 => return
  | fuel + 1 => do
    match ← peekJoined with
    | some '#' =>
      skipComment fuel
      skipBlanks fuel
    | some c =>
      if c == ' ' || c == '\t' then
        advance
        skipBlanks fuel
    | none => return

mutual

/-- Reads the parts of a word or of something in it; the latest part comes first. -/
def readParts : Nat → Position → Word → Reading Word
  | 0, _, word => return word
  | fuel + 1, here, word => do
    let stop : Reading Word := do
      match here.missing? with
      | some message => refuse message
      | none => return word
    match ← peekJoined with
    | none => stop
    | some c =>
      if here.isPlain c then
        let run ← takeRun here.isPlain
        readParts fuel here (word.add (.literal here.quoting run))
      else if c == '\n' then
        if here.place = .plain && here.around = .script then return word
        else
          advance
          nextLine
          let word := word.add (.literal here.quoting ['\n'])
          match here.around with
          | .document delimiter stripsTabs =>
            let _ ← peekJoined
            if ← atDelimiter delimiter stripsTabs then
              match here.missing? with
              | some message => refuse message
              | none => return word
            else readParts fuel here word
          | _ => readParts fuel here word
      else if c == '\\' then
        advance
        modify fun s => { s with quoted := true }
        match ← peek with
        | none => readParts fuel here (word.add (.literal .escape ['\\']))
        | some escaped =>
          advance
          readParts fuel here (word.add
            (.literal .escape (if here.keepsBackslash escaped then ['\\', escaped] else [escaped])))
      else if c == '$' then
        advance
        readParts fuel here ((← readDollar fuel here).foldl Word.add word)
      else if c == Char.ofNat 0x60 then
        advance
        if (← get).plainDollars then readParts fuel here (word.add (.literal here.quoting [c]))
        else
          let text ← readBackquoted here.isQuoted fuel []
          let outer ← get
          set { outer with rest := text, outer := [], ended := [], line := 1, pushed := false, awaited := [] }
          let body ← readList fuel .optional true []
          modify fun s => { outer with documents := s.documents, nextDocument := s.nextDocument }
          readParts fuel here (word.add (.output here.isQuoted body))
      else if c == '"' then
        advance
        match here.place with
        | .quotes => return word
        | .quotedBraces inner =>
          modify fun s => { s with quoted := true }
          readParts fuel (here.moveTo (.quotedBraces (!inner))) (word.add .mark)
        | _ =>
          if here.isPlainQuote then readParts fuel here (word.add (.literal .quotes [c]))
          else
            let quoted ← readParts fuel (here.moveTo .quotes) []
            modify fun s => { s with quoted := true }
            match quoted with
            | [.parameter true .all .value] => readParts fuel here (quoted ++ word)
            | _ => readParts fuel here (quoted ++ word.add .mark)
      else if c == '\'' then
        advance
        let delimiter := match here.around with
          | .document delimiter stripsTabs => some (delimiter, stripsTabs)
          | _ => none
        match ← takeQuoted delimiter fuel [] with
        | none => refuse (if here.around = .script then "Unterminated quoted string" else "Missing '\x7d'")
        | some text =>
          modify fun s => { s with quoted := true }
          readParts fuel here ((word.add .mark).add (.literal .quotes text))
      else if c == '\x7d' then
        advance
        match here.place with
        | .quotedBraces true => readParts fuel here (word.add (.literal .quotes [c]))
        | _ => return word
      else
        match here.place with
        | .arithmetic depth =>
          advance
          if c == '(' then
            readParts fuel (here.moveTo (.arithmetic (depth + 1))) (word.add (.literal .quotes [c]))
          else if depth = 0 then
            if (← peekJoined) == some ')' then
              advance
              return word
            else readParts fuel here (word.add (.literal .quotes [c]))
          else readParts fuel (here.moveTo (.arithmetic (depth - 1))) (word.add (.literal .quotes [c]))
        | _ => return word

/-- Reads what stands after a dollar sign. -/
def readDollar : Nat → Position → Reading Word
  | 0, _ => return [.nonsense]
  | fuel + 1, here => do
    let quoted := here.isQuoted
    let plain : Word := [.literal here.quoting ['$']]
    match ← peekJoined with
    | none => return plain
    | some c =>
      if (← get).plainDollars then return plain
      else if c == '(' then
        advance
        if (← peekJoined) == some '(' then
          advance
          let expression ← readParts fuel (here.moveTo (.arithmetic 0)) []
          return partsWith expression.reverse (.arithmetic quoted)
        else
          let outer ← get
          set { outer with pushed := false, awaited := [] }
          let body ← readList fuel .optional true []
          if (← readToken fuel {}) ≠ .closing then unexpected (some .closing)
          -- A here-document that has not begun before the parenthesis is empty.
          modify fun s =>
            { s with
              documents := s.awaited.map (fun awaited => (awaited.index, [])) ++ s.documents
              awaited := outer.awaited
              quoted := outer.quoted
              pushed := false }
          return [.output quoted body]
      else if c == '\x7b' then
        advance
        let (parameter, operator) ← readBraced fuel
        let value : Part := .parameter quoted parameter .value
        if operator = .value then return [value]
        else
          let word := (← readParts fuel
            (here.ofUse (match operator with | .strip .. => true | _ => false)) []).reverse
          if operator = .followed then return value :: word ++ [.stop]
          else
            return partsWith word fun word =>
              (operator.use? word).elim .nonsense (.parameter quoted parameter)
      else if isNameStart c then
        return [.parameter quoted (.named (String.ofList (← takeJoined isNameChar fuel))) .value]
      else
        match special? c with
        | some parameter =>
          advance
          return [.parameter quoted parameter .value]
        | none => return plain

/-- Reads the here-documents that begin at this line. -/
def readDocuments : Nat → Reading Unit
  | 0 => return
  | fuel + 1 => do
    match (← get).awaited with
    | [] => return
    | first :: rest =>
      modify fun s => { s with awaited := rest }
      let quoted := (← get).quoted
      let word ←
        if first.expands then
          let _ ← peekJoined
          if ← atDelimiter first.delimiter first.stripsTabs then pure []
          else readParts fuel ⟨.plain, .document first.delimiter first.stripsTabs⟩ []
        else
          let text ← plainDocument first.delimiter first.stripsTabs fuel []
          pure [.literal .quotes text]
      modify fun s => { s with documents := (first.index, word.reverse) :: s.documents, quoted }
      readDocuments fuel

/-- Reads a token as it stands. -/
def readRaw : Nat → Reading Token
  | 0 => found .ending
  | fuel + 1 => do
    let s ← get
    if s.pushed then
      set { s with pushed := false }
      return s.latest
    skipBlanks fuel
    match ← peekJoined with
    | none => found .ending
    | some c =>
      let twice (token double : Token) : Reading Token := do
        advance
        if (← peekJoined) == some c then
          advance
          found double
        else found token
      if c == '\n' then
        advance
        nextLine
        found .newline
      else if c == '&' then twice .ampersand .both
      else if c == '|' then twice .pipe .either
      else if c == ';' then twice .semicolon .caseEnd
      else if c == '(' then
        advance
        found .opening
      else if c == ')' then
        advance
        found .closing
      else
        modify fun s => { s with quoted := false }
        let word := (← readParts fuel ⟨.plain, .script⟩ []).reverse
        let isArrow := match ← peek with
          | some c => c == '<' || c == '>'
          | none => false
        let plain := !(← get).quoted && isArrow
        match word with
        | [] =>
          if plain then
            readArrow none
            found .redirect
          else
            modify fun s => { s with word }
            found .word
        | [.literal .plain [digit]] =>
          if plain && digit.isDigit then
            readArrow (some (digit.toNat - '0'.toNat))
            found .redirect
          else
            modify fun s => { s with word }
            found .word
        | _ =>
          modify fun s => { s with word }
          found .word

/-- Reads a token, and looks in it for what may stand there. -/
def readToken : Nat → Checks → Reading Token
  | 0, _ => found .ending
  | fuel + 1, checks => do
    let token ← readRaw fuel
    if checks.newlines && token = .newline then
      readDocuments fuel
      readToken fuel checks
    else
      let s ← get
      let checks := { checks with aliases := checks.aliases || s.afterAlias }
      set { s with afterAlias := false }
      match token, s.quoted, s.word.plain? with
      | .word, false, some text =>
        let name := String.ofList text
        if checks.keywords && keywords.contains name then found (.keyword name)
        else
          match if checks.aliases && !s.uses name then s.aliases.lookup name else none with
          | some value =>
            modify fun s => s.replace name value
            readToken fuel checks
          | none => return token
      | _, _, _ => return token

/-- Reads commands one after another; the latest comes first. -/
def readList : Nat → ListKind → Bool → List Command → Reading (Option Command)
  | 0, _, _, _ => refuse "Too long"
  | fuel + 1, kind, atStart, items => do
    let result := Command.ofList items.reverse
    let finish : Reading (Option Command) := do
      readDocuments fuel
      return result
    let token ← readToken fuel { Checks.start with newlines := kind ≠ .line }
    if token = .newline then finish
    else if token = .ending then
      let _ ← finish
      pushBack
      let _ ← found .ending
      return result
    else
      pushBack
      if kind ≠ .line && token.endsList && !(kind = .required && atStart) then return result
      else
        let line := (← get).line
        let command ← readAndOr fuel none
        let after ← readToken fuel {}
        let items := (if after = .ampersand then command.inBackground line else command) :: items
        if after = .newline || after = .ending then
          pushBack
          readList fuel kind false items
        else if after = .ampersand || after = .semicolon then readList fuel kind false items
        else if kind = .line then unexpected none
        else
          pushBack
          return Command.ofList items.reverse

/-- Reads commands of which each depends on the status of those before it. -/
def readAndOr : Nat → Option (Bool × Command) → Reading Command
  | 0, _ => refuse "Too long"
  | fuel + 1, before => do
    let command ← readPipeline fuel
    let joined := match before with
      | none => command
      | some (true, first) => .both first command
      | some (false, first) => .either first command
    let token ← readToken fuel {}
    if token = .both || token = .either then
      -- The next command may stand on a later line.
      let _ ← readToken fuel Checks.startBelow
      pushBack
      readAndOr fuel (some (token = .both, joined))
    else
      pushBack
      return joined

/-- Reads commands of which each reads what the one before it writes. -/
def readPipeline : Nat → Reading Command
  | 0 => refuse "Too long"
  | fuel + 1 => do
    let negated := (← readToken fuel {}) = .keyword "!"
    if negated then
      let _ ← readToken fuel Checks.start
    pushBack
    let first ← readCommand fuel
    let rest ← readPiped fuel []
    let body : Command := if rest.isEmpty then first else .pipeline false (first :: rest)
    return if negated then .negated body else body

/-- Reads the commands after the first one of a pipeline; the latest comes first. -/
def readPiped : Nat → List Command → Reading (List Command)
  | 0, _ => refuse "Too long"
  | fuel + 1, items => do
    if (← readToken fuel {}) = .pipe then
      let _ ← readToken fuel Checks.startBelow
      pushBack
      readPiped fuel ((← readCommand fuel) :: items)
    else
      pushBack
      return items.reverse

/-- Reads a list of commands that a keyword ends. -/
def readBody : Nat → Reading Command
  | 0 => refuse "Too long"
  | fuel + 1 => do
    match ← readList fuel .required true [] with
    | some body => return body
    | none => return .sequence []

/-- Reads a token that has to stand here. -/
def readExpected : Nat → Token → Reading Unit
  | 0, _ => refuse "Too long"
  | fuel + 1, expected => do
    if (← readToken fuel {}) ≠ expected then unexpected (some expected)

/-- Reads a condition with its body, and what follows them up to the end. -/
def readBranch : Nat → Reading Command
  | 0 => refuse "Too long"
  | fuel + 1 => do
    let condition ← readBody fuel
    readExpected fuel (.keyword "then")
    let accepted ← readBody fuel
    match ← readToken fuel {} with
    | .keyword "elif" => return .branch condition accepted (some (← readBranch fuel))
    | .keyword "else" =>
      let rejected ← readBody fuel
      readExpected fuel (.keyword "fi")
      return .branch condition accepted (some rejected)
    | _ =>
      pushBack
      readExpected fuel (.keyword "fi")
      return .branch condition accepted none

/-- Reads the patterns of a case, the first of which is the latest word. -/
def readPatterns : Nat → List Word → Reading (List Word)
  | 0, _ => refuse "Too long"
  | fuel + 1, patterns => do
    let patterns := (← get).word :: patterns
    match ← readToken fuel {} with
    | .pipe =>
      let _ ← readToken fuel {}
      readPatterns fuel patterns
    | .closing => return patterns.reverse
    | _ => unexpected (some .closing)

/-- Reads the cases of a selection; the latest comes first. -/
def readCases : Nat → List (List Word × Option Command) → Reading (List (List Word × Option Command))
  | 0, _ => refuse "Too long"
  | fuel + 1, cases => do
    let token ← readToken fuel { newlines := true, keywords := true }
    if token = .keyword "esac" then return cases.reverse
    else
      if token = .opening then
        let _ ← readToken fuel {}
      let patterns ← readPatterns fuel []
      let body ← readList fuel .optional true []
      let cases := (patterns, body) :: cases
      match ← readToken fuel { newlines := true, keywords := true } with
      | .keyword "esac" => return cases.reverse
      | .caseEnd => readCases fuel cases
      | _ => unexpected (some .caseEnd)

/-- Reads the words of a loop up to the end of the line. -/
def readWords : Nat → List Word → Reading (List Word)
  | 0, _ => refuse "Too long"
  | fuel + 1, words => do
    match ← readToken fuel {} with
    | .word => readWords fuel ((← get).word :: words)
    | .newline | .semicolon => return words.reverse
    | _ => unexpected none

/-- Reads a loop over words, after its keyword. -/
def readFor : Nat → Nat → Reading Command
  | 0, _ => refuse "Too long"
  | fuel + 1, line => do
    let token ← readToken fuel {}
    let s ← get
    match token, s.quoted, s.word.plain?.filter isName with
    | .word, false, some name =>
      let words ← match ← readToken fuel Checks.startBelow with
        | .keyword "in" =>
          pure (some (← readWords fuel []))
        | .semicolon => pure none
        | _ =>
          pushBack
          pure none
      if (← readToken fuel Checks.startBelow) ≠ .keyword "do" then unexpected (some (.keyword "do"))
      let body ← readBody fuel
      readExpected fuel (.keyword "done")
      return .forEach line (String.ofList name) words body
    | _, _, _ => refuse "Bad for loop variable"

/-- Reads the target of a redirection. -/
def readRedirect : Nat → Reading Redirect
  | 0 => refuse "Too long"
  | fuel + 1 => do
    let (descriptor, arrow) := (← get).arrow
    let isDocument := match arrow with
      | .document _ => true
      | _ => false
    modify fun s => { s with plainDollars := isDocument }
    let token ← readToken fuel {}
    modify fun s => { s with plainDollars := false }
    if token ≠ .word then unexpected none
    let s ← get
    match arrow with
    | .file opening => return .file descriptor opening s.word
    | .duplicate => return .duplicate descriptor s.word
    | .document stripsTabs =>
      set { s with
        awaited := s.awaited ++ [Awaited.mk s.nextDocument s.word.text (!s.quoted) stripsTabs]
        nextDocument := s.nextDocument + 1 }
      return .document descriptor s.nextDocument

/-- Reads redirections after a command; the latest comes first. -/
def readRedirects : Nat → List Redirect → Reading (List Redirect)
  | 0, _ => refuse "Too long"
  | fuel + 1, redirects => do
    if (← readToken fuel (if redirects.isEmpty then Checks.start else {})) = .redirect then
      readRedirects fuel ((← readRedirect fuel) :: redirects)
    else
      pushBack
      return redirects.reverse

/-- Reads one command. -/
def readCommand : Nat → Reading Command
  | 0 => refuse "Too long"
  | fuel + 1 => do
    let line := (← get).line
    let redirected (body : Command) : Reading Command := do
      match ← readRedirects fuel [] with
      | [] => return body
      | redirects => return .group line body redirects
    match ← readToken fuel {} with
    | .keyword "if" => redirected (← readBranch fuel)
    | .keyword "while" => redirected (← readLoop fuel false)
    | .keyword "until" => redirected (← readLoop fuel true)
    | .keyword "for" => redirected (← readFor fuel line)
    | .keyword "case" =>
      if (← readToken fuel {}) ≠ .word then unexpected (some .word)
      let word := (← get).word
      if (← readToken fuel Checks.startBelow) ≠ .keyword "in" then
        unexpected (some (.keyword "in"))
      redirected (.select line word (← readCases fuel []))
    | .opening =>
      let body ← readBody fuel
      readExpected fuel .closing
      return .subshell line body (← readRedirects fuel [])
    | .keyword "\x7b" =>
      let body ← readBody fuel
      readExpected fuel (.keyword "\x7d")
      redirected body
    | .word | .redirect =>
      pushBack
      readSimple fuel line {} true
    | _ => unexpected none

/-- Reads a loop with a condition, after its keyword. -/
def readLoop : Nat → Bool → Reading Command
  | 0, _ => refuse "Too long"
  | fuel + 1, untilSuccess => do
    let condition ← readBody fuel
    readExpected fuel (.keyword "do")
    let body ← readBody fuel
    readExpected fuel (.keyword "done")
    return .repeated untilSuccess condition body

/-- Reads a simple command. Assignments stand before its other words. -/
def readSimple : Nat → Nat → SimpleParts → Bool → Reading Command
  | 0, _, _, _ => refuse "Too long"
  | fuel + 1, line, parts, mayAssign => do
    match ← readToken fuel { aliases := mayAssign } with
    | .word =>
      let word := (← get).word
      if mayAssign && word.isAssignment then
        readSimple fuel line { parts with assignments := word :: parts.assignments } true
      else readSimple fuel line { parts with words := word :: parts.words } false
    | .redirect =>
      let redirect ← readRedirect fuel
      readSimple fuel line { parts with redirects := redirect :: parts.redirects } mayAssign
    | .opening =>
      match parts with
      | ⟨[], [name], []⟩ =>
        readExpected fuel .closing
        match name.plain?.filter isName with
        | some text =>
          let name := String.ofList text
          if specialBuiltins.contains name then refuse "Bad function name"
          let _ ← readToken fuel Checks.startBelow
          pushBack
          return .define name (← readCommand fuel)
        | none => refuse "Bad function name"
      | _ =>
        pushBack
        return parts.command line
    | _ =>
      pushBack
      return parts.command line

end

/-- How much fuel reading a command takes at most. -/
def readingFuel : Nat := 1000000000000

/-- The next command of a text. -/
inductive Next where
  /-- There is none. -/
  | ended
  /-- A line without a command. -/
  | nothing
  | command (c : Command)

/-- Reads the next command of a text, up to the end of its line. -/
def next : Reading Next := do
  modify fun s => { s with pushed := false, awaited := [], afterAlias := false }
  match ← readList readingFuel .line true [] with
  | some command => return .command command
  | none => return if (← get).latest = .ending then .ended else .nothing

/-- Reads a text in which only parameters, numbers and commands are expanded. -/
def parseText : Reading Word := do
  return (← readParts readingFuel ⟨.plain, .text⟩ []).reverse

end SinglePath.Shell
