/-
**Execution arguments: an input value and the exit code it must give.**

* `ExecutionArgument.parse` — reads `input=expected`. The text is divided at its first equals sign,
  the input must not be empty, and the expected exit code is a signed 32-bit number that may be
  padded with blanks.
* `ExecutionArgument.parseAll` — reads at least two arguments; the first bad one is reported.
* `ExecutionArgument.text` — writes an argument back.
-/

import SinglePath.Text.Blank
import SinglePath.Text.Decimal

namespace SinglePath

/-- An input value and the exit code that the program must give on it. -/
structure ExecutionArgument where
  /-- The value that the input symbol is bound to. -/
  input : String
  /-- The exit code that the program must give. -/
  expected : Int
  deriving DecidableEq, Repr, Inhabited

/-- Why execution arguments are refused. -/
inductive ArgumentError where
  /-- There is no equals sign. -/
  | missingSeparator (argument : String)
  /-- There is nothing before the equals sign. -/
  | emptyInput (argument : String)
  /-- What follows the equals sign is no exit code. -/
  | invalidExpected (argument value : String)
  /-- There are not enough arguments to compare executions. -/
  | tooFew (required found : Nat)
  deriving DecidableEq, Repr

/-- The error in words. -/
def ArgumentError.message : ArgumentError → String
  | .missingSeparator argument =>
    "execution argument '" ++ argument ++ "' is not of the form input=expected"
  | .emptyInput argument => "execution argument '" ++ argument ++ "' has an empty input value"
  | .invalidExpected argument value =>
    "execution argument '" ++ argument ++ "' has a non-integer expected exit code '" ++ value ++ "'"
  | .tooFew required found =>
    "must have at least " ++ Text.Decimal.ofNat required ++ " execution arguments but got " ++
      Text.Decimal.ofNat found

namespace ExecutionArgument

/-- The least exit code. -/
def leastCode : Int := -2147483648

/-- The greatest exit code. -/
def greatestCode : Int := 2147483647

/-- How many arguments it takes to compare executions. -/
def required : Nat := 2

/-- Divides a text at its first equals sign. -/
def divide? (cs : List Char) : Option (List Char × List Char) :=
  match cs.dropWhile (· ≠ '=') with
  | [] => none
  | _ :: value => some (cs.takeWhile (· ≠ '='), value)

/-- Reads one argument. -/
def parse (argument : String) : Except ArgumentError ExecutionArgument :=
  match divide? argument.toList with
  | none => .error (.missingSeparator argument)
  | some (input, value) =>
    if input.isEmpty then .error (.emptyInput argument)
    else
      match Text.Decimal.readInt? leastCode greatestCode (Text.trim (String.ofList value)) with
      | some expected => .ok ⟨String.ofList input, expected⟩
      | none => .error (.invalidExpected argument (String.ofList value))

/-- Reads all arguments; too few of them are refused before any is read. -/
def parseAll (arguments : List String) : Except ArgumentError (List ExecutionArgument) :=
  if arguments.length < required then .error (.tooFew required arguments.length)
  else arguments.mapM parse

/-- The argument as it is written. -/
def text (argument : ExecutionArgument) : String :=
  argument.input ++ "=" ++ Text.Decimal.ofInt argument.expected

end ExecutionArgument

end SinglePath
