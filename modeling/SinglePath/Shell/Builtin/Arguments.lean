/-
**Built-in commands on the options and arguments of a script.**

* `set_`, `shift` — set options and arguments.
* `setOptions` — also reads the options of the shell itself.
* `getopts` — steps through the options of the script.
-/

import SinglePath.Shell.Builtin.Variables

namespace SinglePath.Shell

open Text (Bytes)

/-! ### Options of the shell -/

/-- The names of the options, with their letters. -/
def optionNames : List (String × Option Char) :=
  [("errexit", some 'e'), ("noglob", some 'f'), ("ignoreeof", some 'I'), ("interactive", some 'i'),
   ("monitor", some 'm'), ("noexec", some 'n'), ("stdin", some 's'), ("xtrace", some 'x'),
   ("verbose", some 'v'), ("vi", some 'V'), ("emacs", some 'E'), ("noclobber", some 'C'),
   ("allexport", some 'a'), ("notify", some 'b'), ("nounset", some 'u'), ("privileged", some 'p'),
   ("nolog", none), ("debug", none)]

/-- Sets an option or takes it away. -/
def setOption (value : Bool) (letter : Char) : Action Unit := do
  if !optionLetters.contains letter then fail ("Illegal option -".toList ++ [letter])
  modifySelf fun p =>
    let others := p.options.filter (· ≠ letter)
    -- There is only one way to edit lines.
    let others := match letter with
      | 'V' => others.filter (· ≠ 'E')
      | 'E' => others.filter (· ≠ 'V')
      | _ => others
    { p with options := if value then letter :: others else p.options.filter (· ≠ letter) }

/-- Lists the options. -/
def listOptions (readable : Bool) : Action Unit := do
  let p ← self
  if readable then print "Current option settings\n".toList
  for (name, letter) in optionNames do
    let isOn := letter.any p.has
    if readable then
      print (name.toList ++ List.replicate (16 - name.length) ' ' ++
        (if isOn then "on\n" else "off\n").toList)
    else print ((if isOn then "set -o " else "set +o ").toList ++ name.toList ++ ['\n'])

/-- Sets an option by its name. -/
def setNamedOption (value : Bool) (name : Bytes) : Action Unit := do
  match optionNames.lookup (String.ofList name) with
  | some (some letter) => setOption value letter
  | some none => pure ()
  | none => fail ("Illegal option -o ".toList ++ name)

/-- What options of the shell ask for. -/
structure OptionsRead where
  /-- The arguments after the options. -/
  rest : List Bytes
  /-- Whether a pair of hyphens ended the options. -/
  ended : Bool := false
  /-- Whether a command is to be read from an argument. -/
  hasCommand : Bool := false

/-- Sets the options that some letters stand for. -/
def setLetters (startup value : Bool) : Bytes → OptionsRead → Action OptionsRead
  | [], result => return result
  | c :: more, result => do
    if c == 'c' && startup then setLetters startup value more { result with hasCommand := true }
    else if c == 'l' && startup then setLetters startup value more result
    else if c == 'o' then
      match result.rest with
      | name :: rest =>
        setNamedOption value name
        setLetters startup value more { result with rest }
      | [] =>
        listOptions value
        setLetters startup value more result
    else
      setOption value c
      setLetters startup value more result

/-- Sets the options at the start of some arguments, at most `fuel` of them. -/
def setOptions (startup : Bool) : Nat → OptionsRead → Action OptionsRead
  | 0, result => return result
  | fuel + 1, result => do
    match result.rest with
    | ['-'] :: rest =>
      if !startup then
        modifySelf fun p => { p with options := p.options.filter fun c => c ≠ 'x' && c ≠ 'v' }
      return { result with rest }
    | ['-', '-'] :: rest => return { result with rest, ended := true }
    | ('-' :: letters) :: rest =>
      setOptions startup fuel (← setLetters startup true letters { result with rest })
    | ('+' :: letters) :: rest =>
      setOptions startup fuel (← setLetters startup false letters { result with rest })
    | _ => return result

/-- Takes back that jobs can be stopped and continued, if that was asked for: there is no terminal. -/
def refuseMonitor : Action Unit := do
  if (← self).has 'm' then
    complain "can't access tty; job control turned off".toList
    modifySelf fun p => { p with options := p.options.filter (· ≠ 'm') }

/-! ### Arguments -/

/-- Sets the arguments of the script. -/
def setArguments (arguments : List Bytes) : Action Unit :=
  modifySelf fun p => { p with arguments, optionIndex := 1, optionOffset := none }

/-- Sets options and arguments of the script, or lists its variables. -/
def set_ (arguments : List Bytes) : Action Nat := do
  if arguments.isEmpty then
    listVariables [] (·.value.isSome)
    return 0
  let result ← setOptions false (arguments.length + 1) { rest := arguments }
  refuseMonitor
  if !result.rest.isEmpty || result.ended then setArguments result.rest
  return 0

/-- Drops the first arguments of the script. -/
def shift (arguments : List Bytes) : Action Nat := do
  let count ← match arguments with
    | [] => pure 1
    | argument :: _ => numberArgument argument
  let p ← self
  if p.arguments.length < count then fail "can't shift that many".toList
  setArguments (p.arguments.drop count)
  return 0

/-! ### Options of the script -/

/-- What a specification says about an option. -/
inductive OptionKind where
  | unknown
  | plain
  /-- The option has a value. -/
  | valued
  deriving DecidableEq, Repr

/-- What a specification says about a letter. A colon after a letter belongs to it. -/
def optionKind (c : Char) : Bytes → OptionKind
  | [] => .unknown
  | [letter] => if letter == c then .plain else .unknown
  | letter :: ':' :: rest => if letter == c then .valued else optionKind c rest
  | letter :: other :: rest => if letter == c then .plain else optionKind c (other :: rest)

/-- One step through options: the letter, the value of the option, and where the next step begins. -/
structure OptionStep where
  letter : Char
  value : Option Bytes
  index : Nat
  offset : Option Nat
  ended : Bool := false
  complaint : Option Bytes := none

/-- Finds the next option among arguments. A specification that begins with a colon leaves complaints
to the script. -/
def nextOption (specification : Bytes) (arguments : List Bytes) (index : Nat) (offset : Option Nat) :
    OptionStep :=
  let current : Bytes := match offset with
    | some offset => if index ≤ 1 then [] else ((arguments[index - 2]?).getD []).drop offset
    | none => []
  let (letters, index) : Option Bytes × Nat :=
    if !current.isEmpty then (some current, index)
    else
      match arguments[index - 1]? with
      | some ('-' :: '-' :: []) => (none, index + 1)
      | some ('-' :: c :: more) => (some (c :: more), index + 1)
      | _ => (none, index)
  match letters with
  | none | some [] => { letter := '?', value := none, index, offset := none, ended := true }
  | some (c :: more) =>
    let silent := specification.head? = some ':'
    let length := ((arguments[index - 2]?).getD []).length
    let after : Option Nat := some (length - more.length)
    match optionKind c specification with
    | .unknown =>
      if silent then { letter := '?', value := some [c], index, offset := after }
      else
        { letter := '?', value := none, index, offset := after,
          complaint := some ("Illegal option -".toList ++ [c]) }
    | .valued =>
      if !more.isEmpty then { letter := c, value := some more, index, offset := none }
      else
        match arguments[index - 1]? with
        | some value => { letter := c, value := some value, index := index + 1, offset := none }
        | none =>
          if silent then { letter := ':', value := some [c], index, offset := after }
          else
            { letter := '?', value := none, index, offset := after,
              complaint := some ("No arg for -".toList ++ [c] ++ " option".toList) }
    | .plain => { letter := c, value := some [], index, offset := after }

/-- Steps through the options of the script, or of other arguments. After a mistake it starts again. -/
def getopts (arguments : List Bytes) : Action Nat := do
  match arguments with
  | specification :: name :: others =>
    let p ← self
    let searched := if others.isEmpty then p.arguments else others
    let fresh := searched.length + 1 < p.optionIndex
    let step := nextOption specification searched (if fresh then 1 else p.optionIndex)
      (if fresh then none else p.optionOffset)
    match step.complaint with
    | some complaint => complainPlainly complaint
    | none => pure ()
    let argumentSet ← succeeds do
      if !step.ended then
        match step.value with
        | some value => assignVariable "OPTARG" value
        | none => unsetVariable "OPTARG"
    let indexSet ← succeeds (assignVariable "OPTIND" (.ofNat step.index))
    let letterSet ← succeeds do
      assignVariable (← requireName name) [step.letter]
    if argumentSet && indexSet && letterSet then
      modifySelf fun p => { p with optionIndex := step.index, optionOffset := step.offset }
      return statusOf (!step.ended)
    else
      modifySelf fun p => { p with optionIndex := 1, optionOffset := none }
      throw .mistake
  | _ => fail "Usage: getopts optstring var [arg...]".toList

end SinglePath.Shell
