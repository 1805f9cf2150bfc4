/-
**A session: what the command prints and how it exits.**

* `Invocation.run` — loads the settings, reads the execution arguments, finds the tools and checks the
  matrix, in this order; the first fault ends the session.
* `Session` — all that was printed, the exit code, and the files left behind.
-/

import SinglePath.Check.Matrix
import SinglePath.CommandLine.Arguments
import SinglePath.Settings
import SinglePath.Summary.Human
import SinglePath.Summary.Machine
import SinglePath.Toolchain.Process

namespace SinglePath.CommandLine

/-- The help text. -/
def helpText : String :=
  String.intercalate "\n" [
    "Check single-path code generation for result correctness and input-independent execution",
    "",
    "Usage: spcheck [OPTIONS] <TOOL_MARKER> <SOURCE> <SUBSTITUTE> <COMPILED> <START_ROUTINE> <EXEC_ARGS> <EXEC_ARGS>...",
    "",
    "Arguments:",
    "  <TOOL_MARKER>               Any binary in the LLVM build directory; its directory is searched for the compiler and merger",
    "  <SOURCE>                    Source program to test",
    "  <SUBSTITUTE>                Substitute source tested instead of SOURCE; pass \"\" to test SOURCE",
    "  <COMPILED>                  Output path of the compiled object (overwritten per configuration)",
    "  <START_ROUTINE>             Object file of the start routine linked with the program",
    "  <EXEC_ARGS> <EXEC_ARGS>...  Execution arguments of the form input=expected-exit-code (at least two)",
    "",
    "Options:",
    "      --config <CONFIG>  Harness configuration file (TOML)",
    "      --report <REPORT>  Report format [default: human] [possible values: human, json]",
    "      --verbose          Print each configuration as it is checked",
    "  -h, --help             Print help",
    "  -V, --version          Print version",
    ""]

/-- The version text. -/
def versionText : String :=
  "spcheck 0.1.0\n"

/-- A finished session. -/
structure Session where
  /-- The exit code. -/
  exit : Nat
  /-- The standard output. -/
  output : String
  /-- The diagnostic output. -/
  errors : String
  /-- The files left behind. -/
  files : Files.Tree

/-- A session that ends with an error. -/
def Session.failed (told message : String) (files : Files.Tree) : Session :=
  { exit := 1, output := "", errors := told ++ "error: " ++ message ++ "\n", files }

namespace Invocation

/-- The directory of the compiler and the merger. -/
def toolDirectory (i : Invocation) : String :=
  match Files.Path.parent? i.marker with
  | some directory => if directory.isEmpty then "." else directory
  | none => "."

/-- The files of the program to be checked. -/
def program (i : Invocation) : Program where
  source := if i.substitute.isEmpty then i.source else i.substitute
  startRoutine := i.startRoutine
  compiled := i.compiled

/-- Why settings could not be loaded, with the cause of the fault at the end. -/
def settingsFault (path : String) (e : SettingsError) : String :=
  let message := "loading config " ++ path ++ ": " ++ e.message
  match e with
  | .unreadable _ cause => message ++ ": " ++ cause.message
  | _ => message

/-- The settings to be used. -/
def loadSettings (i : Invocation) (files : Files.Tree) : Except String Settings :=
  match i.settings with
  | some path => (Settings.load files path).mapError (settingsFault path)
  | none => .ok {}

/-- What has to be known before the first tool runs. -/
structure Plan where
  settings : Settings
  arguments : List ExecutionArgument
  paths : ToolPaths

/-- Loads the settings, reads the execution arguments and finds the tools. -/
def plan (i : Invocation) (searchPath : Option String) (files : Files.Tree) :
    Except String Plan := do
  let settings ← i.loadSettings files
  let arguments ← (ExecutionArgument.parseAll i.executions).mapError (·.message)
  let paths ← (discover files.isFile searchPath i.toolDirectory settings.tools).mapError (·.message)
  return { settings, arguments, paths }

/-- Tells where a tool is. -/
def tellTool (role path : String) : String :=
  role ++ ": " ++ path ++ "\n"

/-- Tells that a configuration is being checked. -/
def tellConfiguration (c : Configuration) : String :=
  "checking [" ++ c.text ++ "]" ++ (if c.singlePath then " (single-path)" else "") ++ "\n"

/-- What a session tells about its steps. -/
def told (i : Invocation) (paths : ToolPaths) (started : List Configuration) : String :=
  if i.verbose then
    String.join (paths.roles.map fun (role, path) => tellTool role path) ++
      String.join (started.map tellConfiguration)
  else ""

/-- The summary as it was asked for. -/
def reportText (i : Invocation) (s : Summary) : String :=
  match i.report with
  | .human => s.human
  | .machine => s.machine ++ "\n"

/-- Makes a check. -/
def run (i : Invocation) (searchPath : Option String) (files : Files.Tree) : Session :=
  match i.plan searchPath files with
  | .error message => .failed "" message files
  | .ok plan =>
    let tools := processes searchPath plan.paths plan.settings.tools
    let ended := checkMatrix tools i.program plan.arguments plan.settings.singlePathFlag
      plan.settings.baseFlags plan.settings.matrix files
    let told := i.told plan.paths ended.started
    match ended.verdict with
    | .ok summary => { exit := 0, output := i.reportText summary, errors := told, files := ended.tools }
    | .error failure => .failed told failure.message ended.tools

end Invocation

/-- Does what the arguments ask for. -/
def Request.run (request : Request) (searchPath : Option String) (files : Files.Tree) : Session :=
  match request with
  | .check invocation => invocation.run searchPath files
  | .help => { exit := 0, output := helpText, errors := "", files }
  | .version => { exit := 0, output := versionText, errors := "", files }

end SinglePath.CommandLine
