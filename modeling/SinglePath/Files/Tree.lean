/-
**A tree of files.**

* `Tree` — the files and directories that are there besides those that every system has.
* `View` — a tree as a process sees it: with a directory where its paths start, and with what is known
  about processes themselves.
* `View.locate` — follows a path from a directory, along links.
* `Tree.read`, `Tree.isFile` — the contents of a file, and whether there is one.
-/

import Std.Data.HashMap
import SinglePath.Files.Path
import SinglePath.Files.System

namespace SinglePath.Files

open Text (Bytes)

/-- Files and directories, by the names that lead to them from the root. -/
structure Tree where
  entries : Std.HashMap Place Entry := {}
  /-- How many programs have been started. -/
  age : Nat := 0

/-- The place of the working directory. Where it really is does not matter, so it is where no one else
is. -/
def workingPlace : Place :=
  placeOf "tmp/work-1000"

/-- The path of a place. -/
def pathOf (place : Place) : Bytes :=
  '/' :: Bytes.join ['/'] place

/-- The length that a name must not exceed. -/
def longestName : Nat := 255

/-- The length that a path must not reach. -/
def pathLimit : Nat := 4096

/-- How many links may be followed one after another. -/
def linkLimit : Nat := 40

namespace Tree

/-- What every system has, by place. -/
def systemEntry : Std.HashMap Place Entry :=
  .ofList systemEntries

/-- The entry at a place. -/
def at? (t : Tree) (place : Place) : Option Entry :=
  match t.entries[place]? with
  | some entry => some entry
  | none => if place = workingPlace then some .directory else systemEntry[place]?

/-- Sets the entry at a place. -/
def put (t : Tree) (place : Place) (entry : Entry) : Tree :=
  { t with entries := t.entries.insert place entry }

/-- Changes the contents of the file at a place. -/
def change (t : Tree) (place : Place) (change : ByteArray → ByteArray) : Tree :=
  let age := t.age
  { t with entries := t.entries.modify place fun
      | .file content executable _ => .file (change content) executable age
      | entry => entry }

/-- The contents of the file at a place; no bytes if there is no file. -/
def content (t : Tree) (place : Place) : ByteArray :=
  match t.at? place with
  | some (.file content _ _) => content
  | _ => ByteArray.empty

/-- The name of a place in a directory. -/
def nameIn? (directory place : Place) : Option Bytes :=
  if place.length = directory.length + 1 && directory.isPrefixOf place then place.getLast? else none

/-- The names in a directory. -/
def children (t : Tree) (directory : Place) : List Bytes :=
  let own := t.entries.keys.filterMap (nameIn? directory)
  let others := (workingPlace :: systemEntries.map Prod.fst).filter fun place => !t.entries.contains place
  own ++ others.filterMap (nameIn? directory)

/-- Makes sure that there is a file to be written at a place. -/
def prepare (t : Tree) (place : Place) : Except FileError Tree :=
  match t.at? place with
  | some (.file content executable stamp) => .ok (t.put place (.file content executable stamp))
  | none =>
    if place.head? = some "proc".toList then .error .notFound
    else if place.head? = some "sys".toList then .error .permissionDenied
    else .ok (t.put place (.file ByteArray.empty false t.age))
  | some .directory => .error .isDirectory
  | some .shell => .error .textBusy
  | some .program => .error .permissionDenied
  | some (.device .terminal) => .error .noDevice
  | some (.device _) | some (.stream _) | some (.link _) => .ok t

/-- Adds a directory and all above it. -/
def addDirectory (t : Tree) (place : Place) : Tree :=
  (List.range place.length).foldl
    (fun t i =>
      let above := place.take (i + 1)
      if (t.at? above).isSome then t else t.put above .directory) t

/-- The place of a path from the working directory. -/
def placeFrom (path : String) : Place :=
  workingPlace ++ (placeOf path).filter (· ≠ ['.'])

/-- Adds a file and the directories above it. -/
def addFile (t : Tree) (path : String) (content : List UInt8) (executable : Bool) : Tree :=
  let place := placeFrom path
  (t.addDirectory place.dropLast).put place (.file ⟨content.toArray⟩ executable t.age)

end Tree

/-- A tree as a process sees it. -/
structure View where
  tree : Tree
  /-- The directory where paths start. -/
  here : Place := workingPlace
  /-- What is known about processes, by place. -/
  live : Place → Option Entry := fun _ => none
  /-- The names in the directories of processes. -/
  liveNames : Place → List Bytes := fun _ => []

namespace View

/-- The entry at a place. -/
def at? (v : View) (place : Place) : Option Entry :=
  match v.live place with
  | some entry => some entry
  | none => v.tree.at? place

/-- The names in a directory. -/
def children (v : View) (place : Place) : List Bytes :=
  v.tree.children place ++ v.liveNames place

/-- Whether a piece of a path names something: it is neither empty nor a dot. -/
def isNamed (piece : Bytes) : Bool :=
  piece ≠ [] && piece ≠ ['.']

/-- Goes from a directory along one piece of a path. -/
def enter (v : View) : Nat → Place → Bytes → Except FileError Place
  | links, place, piece =>
    match v.at? place with
    | some .directory =>
      if !isNamed piece then .ok place
      else if piece = ['.', '.'] then .ok place.dropLast
      else if longestName < piece.length then .error .nameTooLong
      else
        let found := place ++ [piece]
        match v.at? found with
        | some (.link target) =>
          match links with
          | 0 => .error .tooManyLevels
          | links + 1 => target.foldlM (v.enter links) []
        | some _ => .ok found
        | none => .error .notFound
    | some _ => .error .notDirectory
    | none => .error .notFound

/-- Where a path starts, if it can lead anywhere. -/
def start (v : View) (path : Bytes) : Except FileError Place :=
  if path.contains (Char.ofNat 0) then .error .nulInPath
  else if path.isEmpty then .error .notFound
  else if pathLimit ≤ path.length then .error .nameTooLong
  else .ok (if path.head? = some '/' then [] else v.here)

/-- Where a path leads. -/
def locate (v : View) (path : Bytes) : Except FileError Place := do
  (Bytes.divide '/' path).foldlM (v.enter linkLimit) (← v.start path)

/-- What a path leads to, and where that is. -/
def find (v : View) (path : Bytes) : Except FileError (Place × Entry) := do
  let place ← v.locate path
  match v.at? place with
  | some entry => .ok (place, entry)
  | none => .error .notFound

/-- Whether a path leads to a link, which is not followed. -/
def isLink (v : View) (path : Bytes) : Bool :=
  let pieces := Bytes.divide '/' path
  let above := do pieces.dropLast.foldlM (v.enter linkLimit) (← v.start path)
  match above, pieces.getLast? with
  | .ok directory, some piece =>
    match v.at? (directory ++ [piece]) with
    | some (.link _) | some (.stream _) => true
    | _ => false
  | _, _ => false

/-- Where a file is to be written: at a place that may be new in its directory. A path that can only be
that of a directory is refused. -/
def target (v : View) (path : Bytes) : Except FileError Place := do
  let pieces := ((Bytes.divide '/' path).reverse.dropWhile List.isEmpty).reverse
  let directory ← pieces.dropLast.foldlM (v.enter linkLimit) (← v.start path)
  let piece := pieces.getLast?.getD []
  match v.at? directory with
  | some .directory =>
    if !isNamed piece || piece = ['.', '.'] || path.getLast? = some '/' then .error .isDirectory
    else
      match v.enter linkLimit directory piece with
      | .error .notFound => .ok (directory ++ [piece])
      | other => other
  | some _ => .error .notDirectory
  | none => .error .notFound

end View

namespace Tree

/-- A tree seen from the working directory. -/
def view (t : Tree) : View :=
  { tree := t }

/-- Whether a path leads to a file. -/
def isFile (t : Tree) (path : String) : Bool :=
  match t.view.find (.ofText path) with
  | .ok (_, entry) => entry.isFile
  | .error _ => false

/-- The contents of a file. -/
def read (t : Tree) (path : String) : Except FileError (List UInt8) := do
  match ← t.view.find (.ofText path) with
  | (_, .file content _ _) => .ok content.toList
  | (_, .directory) => .error .isDirectory
  | _ => .ok []

end Tree

end SinglePath.Files
