/-
**The arguments of the command line.**

* `Invocation` — a check to be made, and how to report on it.
* `Request` — a check, or a wish for the help text or the version.
* `Request.parse` — reads the arguments from left to right; the first fault is reported.

Five single arguments are followed by at least two execution arguments. Options stand before or between
the single arguments, or right before the first execution argument. There a hyphen may also start a
value, unless the argument is a known option; after it every argument is a value. Two hyphens before
the first execution argument make values of all that follows.
-/

namespace SinglePath.CommandLine

/-- How the summary is written. -/
inductive ReportFormat where
  | human
  | machine
  deriving DecidableEq, Repr, Inhabited

/-- A check to be made. -/
structure Invocation where
  /-- A program in the directory of the compiler and the merger. -/
  marker : String
  /-- The source of the program. -/
  source : String
  /-- A source to be checked in its place, unless it is empty. -/
  substitute : String
  /-- Where the compiled program goes. -/
  compiled : String
  /-- The start routine. -/
  startRoutine : String
  /-- The execution arguments, as they were given. -/
  executions : List String
  /-- The file with the settings. -/
  settings : Option String
  /-- How the summary is written. -/
  report : ReportFormat
  /-- Whether to tell about every step. -/
  verbose : Bool
  deriving DecidableEq, Repr

/-- What the arguments ask for. -/
inductive Request where
  | check (invocation : Invocation)
  | help
  | version
  deriving DecidableEq, Repr

/-- Why arguments are refused. -/
inductive UsageError where
  | unknownOption (argument : String)
  | repeatedOption (option : String)
  | missingValue (option : String)
  | unexpectedValue (option : String)
  | invalidValue (option value : String)
  | emptyValue (name : String)
  | missingArguments
  deriving DecidableEq, Repr

/-- The error in words. -/
def UsageError.message : UsageError → String
  | .unknownOption argument => "unexpected argument '" ++ argument ++ "' found"
  | .repeatedOption option => "the argument '" ++ option ++ "' cannot be used multiple times"
  | .missingValue option => "a value is required for '" ++ option ++ "' but none was supplied"
  | .unexpectedValue option => "unexpected value for '" ++ option ++ "'; no more were expected"
  | .invalidValue option value => "invalid value '" ++ value ++ "' for '" ++ option ++ "'"
  | .emptyValue name => "a value is required for '" ++ name ++ "' but none was supplied"
  | .missingArguments => "required arguments were not provided"

/-! ### Kinds of arguments -/

/-- An option. -/
inductive Opt where
  | settings
  | report
  | verbose
  | help
  | version
  deriving DecidableEq, Repr

/-- The option as it is written. -/
def Opt.text : Opt → String
  | .settings => "--config"
  | .report => "--report"
  | .verbose => "--verbose"
  | .help => "--help"
  | .version => "--version"

/-- All options. -/
def Opt.all : List Opt := [.settings, .report, .verbose, .help, .version]

/-- What an argument looks like. -/
inductive Shape where
  /-- It can only be a value. -/
  | plain
  /-- Two hyphens alone. -/
  | divider
  /-- A known option, and the value that is written with it. -/
  | option (option : Opt) (value : Option String)
  /-- It starts like an option, but is none. -/
  | unknown
  deriving DecidableEq, Repr

/-- What an argument with two hyphens at its start looks like. -/
def longShape (argument : String) : Shape :=
  let text := argument.toList
  let written := text.takeWhile (· ≠ '=')
  match Opt.all.find? (·.text.toList = written) with
  | some found =>
    .option found
      (if written.length < text.length then some (String.ofList (text.drop (written.length + 1)))
       else none)
  | none => .unknown

/-- What letters after one hyphen ask for: the first of them decides. Where hyphens may start values,
all letters have to be known. -/
def lettersShape (lenient : Bool) (letters : List Char) : Shape :=
  if lenient && !letters.all (fun c => c == 'h' || c == 'V') then .unknown
  else match letters with
    | 'h' :: _ => .option .help none
    | 'V' :: _ => .option .version none
    | _ => .unknown

/-- What an argument looks like. -/
def shape (lenient : Bool) (argument : String) : Shape :=
  match argument.toList with
  | ['-'] => .plain
  | ['-', '-'] => .divider
  | '-' :: '-' :: _ => longShape argument
  | '-' :: letters => lettersShape lenient letters
  | _ => .plain

/-! ### Reading -/

/-- What was read so far. -/
structure Reading where
  /-- The values, in order. -/
  values : List String := []
  settings : Option String := none
  report : Option ReportFormat := none
  verbose : Bool := false
  /-- Whether all that follows is values. -/
  valuesOnly : Bool := false

/-- The single arguments that must not be empty, by their place. -/
def requiredNames : List (Nat × String) :=
  [(0, "<TOOL_MARKER>"), (1, "<SOURCE>"), (3, "<COMPILED>"), (4, "<START_ROUTINE>")]

/-- How many single arguments there are. -/
def singleCount : Nat := 5

/-- How many execution arguments there are at least. -/
def leastExecutions : Nat := 2

namespace Reading

/-- Whether the next value is the first execution argument. -/
def atFirstExecution (r : Reading) : Bool :=
  r.values.length == singleCount

/-- Whether the next argument is a value whatever it looks like. -/
def takesAnything (r : Reading) : Bool :=
  r.valuesOnly || singleCount < r.values.length

/-- Takes a value. -/
def addValue (r : Reading) (value : String) : Except UsageError Reading :=
  match requiredNames.lookup r.values.length with
  | some name =>
    if value.isEmpty then .error (.emptyValue name) else .ok { r with values := r.values ++ [value] }
  | none => .ok { r with values := r.values ++ [value] }

/-- Takes an option that takes a value, with its value. -/
def addOption (r : Reading) (option : Opt) (value : String) : Except UsageError Reading :=
  match option with
  | .settings =>
    if r.settings.isSome then .error (.repeatedOption option.text)
    else if value.isEmpty then .error (.emptyValue option.text)
    else .ok { r with settings := some value }
  | .report =>
    if r.report.isSome then .error (.repeatedOption option.text)
    else match value with
      | "human" => .ok { r with report := some .human }
      | "json" => .ok { r with report := some .machine }
      | _ => .error (.invalidValue option.text value)
  | _ => .error (.unexpectedValue option.text)

/-- The check that the arguments ask for. -/
def finish (r : Reading) : Except UsageError Request :=
  match r.values with
  | marker :: source :: substitute :: compiled :: startRoutine :: executions =>
    if executions.length < leastExecutions then .error .missingArguments
    else .ok (.check {
      marker, source, substitute, compiled, startRoutine, executions
      settings := r.settings
      report := r.report.getD .human
      verbose := r.verbose })
  | _ => .error .missingArguments

end Reading

/-- Whether an argument can be the value of the option before it. -/
def canBeValue (lenient : Bool) (argument : String) : Bool :=
  match shape lenient argument with
  | .plain => true
  | .unknown => lenient
  | .divider | .option .. => false

/-- Reads the arguments that are left. -/
def Reading.readRest (r : Reading) : List String → Except UsageError Request
  | [] => r.finish
  | argument :: rest =>
    if r.takesAnything then do (← r.addValue argument).readRest rest
    else match shape r.atFirstExecution argument with
      | .plain => do (← r.addValue argument).readRest rest
      | .divider => { r with valuesOnly := true }.readRest rest
      | .unknown =>
        if r.atFirstExecution then do (← r.addValue argument).readRest rest
        else .error (.unknownOption argument)
      | .option option (some value) => do (← r.addOption option value).readRest rest
      | .option .help none => .ok .help
      | .option .version none => .ok .version
      | .option .verbose none =>
        if r.verbose then .error (.repeatedOption argument)
        else { r with verbose := true }.readRest rest
      | .option option none =>
        match rest with
        | value :: after =>
          if canBeValue r.atFirstExecution value then do (← r.addOption option value).readRest after
          else .error (.missingValue option.text)
        | [] => .error (.missingValue option.text)

/-- Reads the arguments of the command line. -/
def Request.parse (arguments : List String) : Except UsageError Request :=
  Reading.readRest {} arguments

end SinglePath.CommandLine
