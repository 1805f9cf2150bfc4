/-
**Arguments of built-in commands.**

* `options` — the options at the start of some arguments, and the arguments after them.
* `requireName` — an argument that has to be the name of a variable.
* `quote` — a text as it can be read again.
-/

import SinglePath.Shell.Variables

namespace SinglePath.Shell

open Text (Bytes)

/-- A status for a truth value. -/
def statusOf (holds : Bool) : Nat :=
  if holds then 0 else 1

/-- The letters of one argument: those that take no value, and at last maybe one that does. -/
def optionLettersIn (allowed valued : List Char) : Bytes → List Bytes →
    Action (List (Char × Bytes) × List Bytes)
  | [], rest => return ([], rest)
  | c :: more, rest => do
    if valued.contains c then
      match more, rest with
      | [], [] => fail ("No arg for -".toList ++ [c] ++ " option".toList)
      | [], value :: rest => return ([(c, value)], rest)
      | value, rest => return ([(c, value)], rest)
    else if allowed.contains c then
      let (others, rest) ← optionLettersIn allowed valued more rest
      return ((c, []) :: others, rest)
    else fail ("Illegal option -".toList ++ [c])

/-- The options at the start of some arguments, each with its value, and the arguments after them. -/
def optionsOf (allowed valued : String) : Nat → List Bytes → Action (List (Char × Bytes) × List Bytes)
  | 0, arguments => return ([], arguments)
  | fuel + 1, arguments => do
    match arguments with
    | ['-', '-'] :: rest => return ([], rest)
    | ('-' :: c :: letters) :: rest =>
      let (found, rest) ← optionLettersIn allowed.toList valued.toList (c :: letters) rest
      let (others, rest) ← optionsOf allowed valued fuel rest
      return (found ++ others, rest)
    | _ => return ([], arguments)

/-- The options of a command and its other arguments. -/
def options (allowed : String) (arguments : List Bytes) (valued : String := "") :
    Action (List (Char × Bytes) × List Bytes) :=
  optionsOf allowed valued (arguments.length + 1) arguments

/-- The arguments of a command that has no options. -/
def operands (arguments : List Bytes) : Action (List Bytes) := do
  return (← options "" arguments).2

/-- Makes sure that a text is the name of a variable, up to an equals sign. -/
def requireName (text : Bytes) : Action String := do
  let name := text.takeWhile (· ≠ '=')
  if isName name then return String.ofList name else failName name

/-- Whether an action can be carried out without a mistake. -/
def succeeds (action : Action Unit) : Action Bool := do
  try
    action
    return true
  catch halt =>
    if halt = .mistake then return false else throw halt

/-! ### Quotes -/

/-- A text in quotes that keep all its characters, at most `fuel` pieces of it. -/
def quoteUpTo : Nat → Bytes → Bytes
  | 0, _ => []
  | fuel + 1, text =>
    let plain := text.takeWhile (· ≠ '\'')
    let rest := text.drop plain.length
    let quotes := rest.takeWhile (· == '\'')
    let after := rest.drop quotes.length
    '\'' :: plain ++ ['\''] ++
      (if quotes.isEmpty then [] else '"' :: quotes ++ ['"']) ++
      (if after.isEmpty then [] else quoteUpTo fuel after)

/-- A text in quotes that keep all its characters. -/
def quote (text : Bytes) : Bytes :=
  quoteUpTo (text.length + 1) text

end SinglePath.Shell
