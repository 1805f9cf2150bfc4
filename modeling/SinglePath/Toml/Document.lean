/-
**TOML documents.**

* `value` — a value; arrays and tables between braces nest up to a fixed depth.
* `document` — the root table of a document: keys with values and table headers, a line each.
* `parse?` — reads a whole text as a document. A byte order mark at its start is skipped.
-/

import SinglePath.Toml.Number
import SinglePath.Toml.Value

namespace SinglePath.Toml

open Text (Reader)
open Text.Reader

/-- Arrays and tables between braces nest less deep than this, and a dotted key has fewer parts. -/
def depthLimit : Nat := 80

/-! ### Keys -/

/-- Whether a character may stand in a key without quotes. -/
def isBareKeyChar (c : Char) : Bool :=
  c.isAlphanum || c == '_' || c == '-'

/-- One part of a key. -/
def keyPart : Reader String :=
  (do return String.ofList (← run1 isBareKeyChar)) <|> basicString <|> literalString

/-- A key: the parts that lead to its last one, and the last one. -/
def key : Reader (List String × String) := do
  let parts ← separated1 (do blanks; let found ← keyPart; blanks; return found) (exactly '.')
  match parts.getLast? with
  | some last => if parts.length < depthLimit then return (parts.dropLast, last) else failure
  | none => failure

/-! ### Values -/

/-- A key and its value. -/
def keyValue (value : Reader Value) : Reader ((List String × String) × Value) := do
  let name ← key
  exactly '='
  blanks
  return (name, ← value)

/-- An array: values with commas between them, and an optional comma at the end. -/
def array (value : Reader Value) : Reader Value := do
  exactly '['
  gap
  let items ← perhaps (separated1 (do gap; let item ← value; gap; return item) (exactly ','))
  if items.isSome then discard (perhaps (exactly ','))
  gap
  exactly ']'
  return .array (items.getD [])

/-- Collects keys and values in a table. -/
def collect (entries : List ((List String × String) × Value)) (t : Table) : Option Table :=
  entries.foldlM (fun t ((path, name), value) => t.insert path name value) t

/-- A table between braces, on one line but for what stands inside its values. -/
def closedTable (value : Reader Value) : Reader Value := do
  exactly '\x7b'
  blanks
  let entries ← perhaps (separated1 (do let entry ← keyValue value; blanks; return entry) (exactly ','))
  blanks
  exactly '\x7d'
  match collect (entries.getD []) ⟨.header, []⟩ with
  | some table => return .table .closed table.entries
  | none => failure

/-- A truth value. -/
def bool : Reader Bool :=
  (do word "true"; return true) <|> (do word "false"; return false)

/-- A value that contains no other. -/
def scalar : Reader Value :=
  (do return .text (← string)) <|> (do return .date (← dateTime)) <|>
    (do return .float (← float)) <|> (do return .integer (← integer)) <|>
    (do return .bool (← bool))

/-- A value inside which arrays and tables nest at most `depth` deep. -/
def value : Nat → Reader Value
  | 0 => scalar
  | depth + 1 => array (value depth) <|> closedTable (value depth) <|> scalar

/-! ### Lines -/

/-- A document under construction: the root, and the table that keys go to. -/
structure Builder where
  /-- The root table. -/
  root : Table := ⟨.header, []⟩
  /-- The path of the latest header. -/
  current : List String := []

/-- Lifts an optional result. -/
def ofOption {α : Type} (result : Option α) : Reader α :=
  match result with
  | some found => return found
  | none => failure

/-- A line with a key and its value. -/
def entryLine (b : Builder) : Reader Builder := do
  let ((path, name), found) ← keyValue (value (depthLimit - 1))
  lineEnd
  let root ← ofOption (b.root.modify false (Table.insert path name found) b.current)
  return { b with root }

/-- A line with the header of a table. -/
def tableLine (b : Builder) : Reader Builder := do
  exactly '['
  let (path, name) ← key
  exactly ']'
  lineEnd
  let root ← ofOption (b.root.openTable path name)
  return ⟨root, path ++ [name]⟩

/-- A line with the header of an array of tables. -/
def nextTableLine (b : Builder) : Reader Builder := do
  word "[["
  let (path, name) ← key
  word "]]"
  lineEnd
  let root ← ofOption (b.root.openNext path name)
  return ⟨root, path ++ [name]⟩

/-- A line without content. -/
def emptyLine (b : Builder) : Reader Builder := do
  lineEnd
  return b

/-- The lines of a document, at most `bound` of them. -/
def lines : Nat → Builder → Reader Builder
  | 0, b => return b
  | bound + 1, b => do
    blanks
    if (← peek).isNone then return b
    let next ← nextTableLine b <|> tableLine b <|> entryLine b <|> emptyLine b
    lines bound next

/-- A whole document. -/
def document : Reader Table := do
  let bound := (← rest).length
  let b ← lines bound {}
  atEnd
  return b.root

/-- The byte order mark. -/
def byteOrderMark : Char := '\uFEFF'

/-- Reads a text as a document. -/
def parse? (s : String) : Option Table :=
  let text := match s.toList with
    | c :: rest => if c = byteOrderMark then rest else c :: rest
    | [] => []
  (document text).map Prod.fst

end SinglePath.Toml
