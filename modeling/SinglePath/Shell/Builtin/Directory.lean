/-
**Built-in commands on the directory of a process.**

* `logicalPath` — where a path leads from a directory, by the paths alone.
* `cd`, `pwd` — go to another directory, and tell where the process is.
-/

import SinglePath.Shell.Builtin.Options
import SinglePath.Shell.Sight

namespace SinglePath.Shell

open Text (Bytes)

/-- The names of a path, after going along one piece of another path. -/
def stepAlong (names : List Bytes) (piece : Bytes) : List Bytes :=
  if piece = ['.', '.'] then names.dropLast
  else if piece.isEmpty || piece = ['.'] then names
  else names ++ [piece]

/-- Where a path leads from a directory, by the paths alone. Two slashes at the start stay, more of them
are one. -/
def logicalPath (directory path : Bytes) : Bytes :=
  let absolute : Bytes := if path.head? = some '/' then path else directory
  let root : Bytes := match absolute with
    | '/' :: '/' :: '/' :: _ => ['/']
    | '/' :: '/' :: _ => ['/', '/']
    | _ => ['/']
  let start : List Bytes := if path.head? = some '/' then [] else (Bytes.divide '/' directory).filter (!·.isEmpty)
  root ++ Bytes.join ['/'] ((Bytes.divide '/' path).foldl stepAlong start)

/-- Whether a path does not begin with a name, so that no other directory comes into question. -/
def isAnchored (path : Bytes) : Bool :=
  match path with
  | '/' :: _ | ['.'] | '.' :: '/' :: _ | ['.', '.'] | '.' :: '.' :: '/' :: _ => true
  | _ => false

/-- The path of a name in a directory of a search path. -/
def pathIn (entry name : Bytes) : Bytes :=
  if entry.isEmpty then name else entry ++ '/' :: name

/-- Goes to a directory; whether there is one. -/
def goTo (physical : Bool) (path : Bytes) : Action Bool := do
  let s ← get
  let logical := logicalPath s.self.path path
  match s.find (if physical then path else logical) with
  | .ok (place, .directory) =>
    modifySelf fun p => { p with directory := place }
    assignVariable "OLDPWD" s.self.path true
    let path := if physical then Files.pathOf place else logical
    modifySelf fun p => { p with path }
    assignVariable "PWD" path true
    modifySelf fun p => { p with known := p.known.map fun known => { known with stale := true } }
    return true
  | _ => return false

/-- The first directory of a search path in which a path leads to a directory: the path from there, and
whether it is told. -/
def searchDirectory (view : Files.View) (path : Bytes) (entries : List Bytes) : Option (Bytes × Bool) :=
  entries.findSome? fun entry =>
    let found := pathIn entry path
    match view.find found with
    | .ok (_, .directory) => some (found, !entry.isEmpty)
    | _ => none

/-- Goes to another directory. -/
def cd (arguments : List Bytes) : Action Nat := do
  let (found, names) ← options "LP" arguments
  let physical := (found.getLast?.map Prod.fst) = some 'P'
  let s ← get
  let p := s.self
  let (path, shows) : Bytes × Bool := match names with
    | [] => ((p.lookup "HOME").getD [], false)
    | ['-'] :: _ => ((p.lookup "OLDPWD").getD [], true)
    | path :: _ => (path, false)
  let entries := (p.lookup "CDPATH").elim [] (Bytes.divide ':')
  let name : Bytes := if path.isEmpty then ['.'] else path
  let (target, tells) := if isAnchored path then (path, false)
    else (searchDirectory s.view name entries).getD (name, false)
  if !(← goTo physical target) then fail ("can't cd to ".toList ++ name)
  if shows || tells then print ((← self).path ++ ['\n'])
  return 0

/-- Writes the path of the directory. -/
def pwd (arguments : List Bytes) : Action Nat := do
  let (found, _) ← options "LP" arguments
  let p ← self
  let physical := (found.getLast?.map Prod.fst) = some 'P'
  print ((if physical then Files.pathOf p.directory else p.path) ++ ['\n'])
  return 0

end SinglePath.Shell
