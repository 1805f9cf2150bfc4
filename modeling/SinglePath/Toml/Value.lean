/-
**TOML values and the tables they are collected in.**

* `Value` — what a document can hold. A table records how it came about (`Origin`), because that
  decides what may still be added to it.
* `Table.modify` — goes down a path of keys, making the tables that are missing, and changes the
  table at its end.
* `Table.insert`, `Table.openTable`, `Table.openNext` — a key with its value, a header, and a header
  of an array of tables; each refuses what would define something twice.
-/

namespace SinglePath.Toml

/-- How a table came about. -/
inductive Origin where
  /-- By a header of its own, or as the root. -/
  | header
  /-- By the header of a table inside it. -/
  | path
  /-- By a dotted key. -/
  | dotted
  /-- Written out between braces; nothing can be added. -/
  | closed
  deriving DecidableEq, Repr

/-- A value of a document. Numbers that are not whole, and dates, keep their text. -/
inductive Value where
  | text (value : String)
  | integer (value : Int)
  | float (literal : String)
  | bool (value : Bool)
  | date (literal : String)
  /-- An array written out between brackets. -/
  | array (items : List Value)
  /-- An array of tables, one for each of its headers. -/
  | tables (items : List Value)
  | table (origin : Origin) (entries : List (String × Value))
  deriving Inhabited

/-- A table under construction. -/
structure Table where
  /-- How it came about. -/
  origin : Origin
  /-- Its entries, in the order written. -/
  entries : List (String × Value)

namespace Table

/-- The entry of a key. -/
def find? (t : Table) (key : String) : Option Value :=
  t.entries.lookup key

/-- Puts a value at a key: in the place of the old one, or at the end. -/
def put (t : Table) (key : String) (value : Value) : Table :=
  if (t.find? key).isSome then
    { t with entries := t.entries.map fun entry => if entry.1 = key then (key, value) else entry }
  else { t with entries := t.entries ++ [(key, value)] }

/-- The value of a table. -/
def toValue (t : Table) : Value :=
  .table t.origin t.entries

/-- Whether a path may lead through a table of this origin. A dotted key must not lead through a
table that has a header, and nothing leads through a closed one. -/
def passable (dotted : Bool) : Origin → Bool
  | .header => !dotted
  | .path => true
  | .dotted => true
  | .closed => false

/-- Goes down a path and changes the table at its end. Missing tables are made on the way; at an array
of tables the path goes through its last one. -/
def modify (dotted : Bool) (change : Table → Option Table) : List String → Table → Option Table
  | [], t => change t
  | key :: path, t =>
    match t.find? key with
    | none => do
      let child ← modify dotted change path ⟨if dotted then .dotted else .path, []⟩
      return t.put key child.toValue
    | some (.table origin entries) =>
      if passable dotted origin then do
        let child ← modify dotted change path ⟨origin, entries⟩
        return t.put key child.toValue
      else none
    | some (.tables items) =>
      match items.getLast? with
      | some (.table origin entries) => do
        let child ← modify dotted change path ⟨origin, entries⟩
        return t.put key (.tables (items.dropLast ++ [child.toValue]))
      | _ => none
    | some _ => none

/-- Adds a key with a value that is not there yet. -/
def insertNew (key : String) (value : Value) (t : Table) : Option Table :=
  if (t.find? key).isSome then none else some (t.put key value)

/-- Adds a value under a dotted key. All tables that the key leads through belong to dotted keys. -/
def insert (path : List String) (key : String) (value : Value) (t : Table) : Option Table :=
  modify true
    (fun target =>
      if (target.origin == .dotted) == path.isEmpty then none else insertNew key value target)
    path t

/-- Opens a table by its header; one that only a deeper header has named so far may be opened. -/
def openTable (path : List String) (key : String) (t : Table) : Option Table :=
  modify false
    (fun parent =>
      match parent.find? key with
      | none => some (parent.put key (.table .header []))
      | some (.table .path entries) => some (parent.put key (.table .header entries))
      | some _ => none)
    path t

/-- Opens the next table of an array of tables. -/
def openNext (path : List String) (key : String) (t : Table) : Option Table :=
  modify false
    (fun parent =>
      match parent.find? key with
      | none => some (parent.put key (.tables [.table .header []]))
      | some (.tables items) => some (parent.put key (.tables (items ++ [.table .header []])))
      | some _ => none)
    path t

end Table

end SinglePath.Toml
