/-
**Paths as texts.**

* `pieces` — a path divided at its slashes.
* `Path.isPathLike` — whether a name says where a file is: it is absolute or has several components.
  Repeated and trailing slashes do not count, nor does a dot other than at the start.
* `Path.join` — a name in a directory.
* `Path.parent?` — a path without its last component.
-/

import SinglePath.Text.Pieces

namespace SinglePath.Files.Path

/-- A path divided at its slashes. -/
def pieces (path : String) : List String :=
  Text.pieces '/' path

/-- Whether a path starts at the root. -/
def isAbsolute (path : String) : Bool :=
  path.toList.head? == some '/'

/-- Whether a piece names a component: it is neither empty nor a dot. -/
def isComponent (piece : String) : Bool :=
  piece ≠ "" && piece ≠ "."

/-- How a path starts: the root, a dot, or neither. -/
inductive Lead where
  | root
  | here
  | none
  deriving DecidableEq, Repr

/-- The start of a path and the pieces after it. -/
def split (path : String) : Lead × List String :=
  match pieces path with
  | "" :: piece :: rest => (.root, piece :: rest)
  | "." :: rest => (.here, rest)
  | all => (.none, all)

/-- How many components a path has; the root and a dot at the start count. -/
def componentCount (path : String) : Nat :=
  let (lead, body) := split path
  (if lead = .none then 0 else 1) + body.countP isComponent

/-- Whether a name says where a file is. -/
def isPathLike (name : String) : Bool :=
  1 < componentCount name || isAbsolute name

/-- A name in a directory. An absolute name stands for itself. -/
def join (directory name : String) : String :=
  if isAbsolute name then name
  else if directory.isEmpty || directory.toList.getLast? == some '/' then directory ++ name
  else directory ++ "/" ++ name

/-- Drops the pieces at the end that name no component. -/
def dropEmptyEnd (pieces : List String) : List String :=
  (pieces.reverse.dropWhile (!isComponent ·)).reverse

/-- A path without its last component. -/
def parent? (path : String) : Option String :=
  let (lead, body) := split path
  match dropEmptyEnd body with
  | [] => if lead = .here then some "" else none
  | kept =>
    let above := dropEmptyEnd kept.dropLast
    let text := String.intercalate "/" above
    match lead with
    | .root => some ("/" ++ text)
    | .here => some (if above.isEmpty then "." else "./" ++ text)
    | .none => some text

end SinglePath.Files.Path
