/-
**Settings: the flag matrix and the tools.**

* `Settings` — everything that can be configured, with its defaults.
* `Settings.ofToml` — reads settings from a TOML document; what it does not mention keeps its default.
* `Settings.check` — every group has an alternative, and no required text is blank.
* `Settings.load` — reads settings from a file.

A table may also be written as an array of its values, in the order of its fields.
-/

import SinglePath.Files.Tree
import SinglePath.Flags.Matrix
import SinglePath.Text.Decimal
import SinglePath.Text.Utf8
import SinglePath.Toml.Document

namespace SinglePath

/-- The tools, by name, and their fixed arguments. -/
structure ToolSettings where
  /-- The compiler, looked up in the tool directory. -/
  compiler : String := "llc"
  /-- The merger, looked up in the tool directory. -/
  merger : String := "llvm-link"
  /-- The linker, looked up on the search path. -/
  linker : String := "ld.lld"
  /-- The simulator, looked up on the search path. -/
  simulator : String := "pasim"
  /-- Arguments of the compiler, after the flags. -/
  compilerArguments : List String := ["-filetype=obj"]
  /-- Arguments of the linker, before all others. -/
  linkerArguments : List String := ["-nostdlib", "-static"]
  /-- The symbol that the input is bound to. -/
  inputSymbol : String := "input"
  /-- Arguments of the simulator, after the executable. -/
  simulatorArguments : List String := ["-V", "-D", "ideal"]
  deriving DecidableEq, Repr, Inhabited

/-- The flag matrix and the tools. -/
structure Settings where
  /-- Flags of every configuration. -/
  baseFlags : List String := []
  /-- The text that makes a configuration single-path. -/
  singlePathFlag : String := "-mpatmos-singlepath="
  /-- The flag matrix: traditional code, single-path code, and single-path code for two issue slots,
  each at three levels of optimization. -/
  matrix : FlagMatrix :=
    ⟨[["", "-mpatmos-singlepath=main", "-mpatmos-singlepath=main -mpatmos-disable-vliw=false"],
      ["", "-O1", "-O2"]]⟩
  /-- The tools. -/
  tools : ToolSettings := {}
  deriving DecidableEq, Repr, Inhabited

/-- Why settings are refused. -/
inductive SettingsError where
  /-- The file cannot be read. -/
  | unreadable (path : String) (cause : Files.FileError)
  /-- The text is no TOML document, or a value is of the wrong kind. -/
  | invalidDocument
  /-- A group of the flag matrix has no alternative. -/
  | emptyGroup (index : Nat)
  /-- A required text is blank. -/
  | emptyField (field : String)
  deriving DecidableEq, Repr

/-- The error in words. -/
def SettingsError.message : SettingsError → String
  | .unreadable path cause => "reading " ++ path ++ ": " ++ cause.message
  | .invalidDocument => "TOML parse error: invalid document"
  | .emptyGroup index => "flag matrix group " ++ Text.Decimal.ofNat index ++ " has no alternatives"
  | .emptyField field => "config field '" ++ field ++ "' must not be empty"

/-! ### Values of a kind -/

namespace Toml

/-- The items of an array, however it is written. -/
def Value.items? : Value → Option (List Value)
  | .array items | .tables items => some items
  | _ => none

/-- A text. -/
def Value.text? : Value → Option String
  | .text value => some value
  | _ => none

/-- An array of texts. -/
def Value.texts? (v : Value) : Option (List String) := do
  (← v.items?).mapM Value.text?

/-- An array of arrays of texts. -/
def Value.textLists? (v : Value) : Option (List (List String)) := do
  (← v.items?).mapM Value.texts?

/-- The values of named fields: of a table by name, of an array by position. A date has none of them. -/
def Value.fields? (v : Value) (names : List String) : Option (String → Option Value) :=
  match v with
  | .table _ entries => some fun name => entries.lookup name
  | .array items | .tables items => some fun name => (names.zip items).lookup name
  | .date _ => some fun _ => none
  | _ => none

end Toml

/-- Reads a field, if it is given. -/
def readField {α : Type} (fields : String → Option Toml.Value) (name : String)
    (read : Toml.Value → Option α) (default : α) : Option α :=
  match fields name with
  | some value => read value
  | none => some default

namespace ToolSettings

/-- The fields of the tool settings, in order. -/
def fieldNames : List String :=
  ["compiler", "merger", "linker", "simulator", "compiler-args", "linker-args", "input-symbol",
   "simulator-args"]

/-- Reads tool settings. -/
def ofValue? (v : Toml.Value) : Option ToolSettings := do
  let fields ← v.fields? fieldNames
  let usual : ToolSettings := {}
  return {
    compiler := ← readField fields "compiler" (·.text?) usual.compiler
    merger := ← readField fields "merger" (·.text?) usual.merger
    linker := ← readField fields "linker" (·.text?) usual.linker
    simulator := ← readField fields "simulator" (·.text?) usual.simulator
    compilerArguments := ← readField fields "compiler-args" (·.texts?) usual.compilerArguments
    linkerArguments := ← readField fields "linker-args" (·.texts?) usual.linkerArguments
    inputSymbol := ← readField fields "input-symbol" (·.text?) usual.inputSymbol
    simulatorArguments := ← readField fields "simulator-args" (·.texts?) usual.simulatorArguments }

end ToolSettings

namespace Settings

/-- Reads settings from the root table of a document. -/
def ofTable? (t : Toml.Table) : Option Settings := do
  let usual : Settings := {}
  return {
    baseFlags := ← readField t.find? "base-flags" (·.texts?) usual.baseFlags
    singlePathFlag := ← readField t.find? "single-path-flag" (·.text?) usual.singlePathFlag
    matrix := ← readField t.find? "matrix" (fun v => v.textLists?.map FlagMatrix.mk) usual.matrix
    tools := ← readField t.find? "tools" ToolSettings.ofValue? usual.tools }

/-- The texts that must not be blank, with their names. -/
def requiredTexts (s : Settings) : List (String × String) :=
  [("single-path-flag", s.singlePathFlag), ("tools.compiler", s.tools.compiler),
   ("tools.merger", s.tools.merger), ("tools.linker", s.tools.linker),
   ("tools.simulator", s.tools.simulator), ("tools.input-symbol", s.tools.inputSymbol)]

/-- Refuses a group without alternatives, and then a required text that is blank. -/
def check (s : Settings) : Except SettingsError Unit :=
  match s.matrix.groups.findIdx? List.isEmpty with
  | some index => .error (.emptyGroup index)
  | none =>
    match s.requiredTexts.find? fun entry => Text.isBlankText entry.2 with
    | some (field, _) => .error (.emptyField field)
    | none => .ok ()

/-- Reads settings from a TOML document. -/
def ofToml (text : String) : Except SettingsError Settings := do
  match (Toml.parse? text).bind ofTable? with
  | some settings =>
    settings.check
    .ok settings
  | none => .error .invalidDocument

/-- Reads settings from a file. -/
def load (files : Files.Tree) (path : String) : Except SettingsError Settings := do
  match files.read path with
  | .ok content =>
    match Text.Utf8.decode? content with
    | some text => ofToml text
    | none => .error (.unreadable path .notUtf8)
  | .error cause => .error (.unreadable path cause)

end Settings

end SinglePath
