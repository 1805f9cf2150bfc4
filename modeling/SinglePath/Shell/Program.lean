/-
**Programs: what happens to a file that is executed.**

* `header?` — the interpreter that the first line of a script names, and its argument.
* `invocation` — the arguments with which the shell of the system runs in the end. The interpreter of a
  script may be a script itself, a few times over.
* `fits` — whether arguments are not too long.
-/

import SinglePath.Files.Tree
import SinglePath.Shell.Basic

namespace SinglePath.Shell.Program

open Text (Bytes)

/-- How much of a file is looked at. -/
def headerSize : Nat := 256

/-- Whether a character is a blank of a first line. -/
def isGap (c : Char) : Bool :=
  c == ' ' || c == '\t'

/-- A character of code zero, which also stands after the end of a short file. -/
def zero : Char := Char.ofNat 0

/-- A text up to its first zero. -/
def upToZero (text : Bytes) : Bytes :=
  text.takeWhile (· ≠ zero)

/-- The first line of a script after its mark, without blanks at its end. If the line does not end
within what is looked at, the name of the interpreter has to. -/
def firstLine? (start : Bytes) : Option Bytes :=
  let line := start.takeWhile fun c => c ≠ '\n' && c ≠ zero
  if start[line.length]? = some '\n' then
    some (line.reverse.dropWhile isGap).reverse
  else
    match start.dropWhile isGap with
    | [] => none
    | name =>
      if name.any fun c => isGap c || c == zero then
        some ((start.dropLast).reverse.dropWhile isGap).reverse
      else none

/-- The interpreter that the first line of a script names, and its argument. -/
def header? (content : ByteArray) : Option (Bytes × Option Bytes) := do
  let shown := Bytes.ofArray content 0 headerSize
  let padded : Bytes := shown ++ List.replicate (headerSize - shown.length) zero
  match padded with
  | '#' :: '!' :: start =>
    let line ← firstLine? start
    let named := line.dropWhile isGap
    if named.isEmpty then none
    else
      let name := named.takeWhile fun c => !isGap c && c ≠ zero
      match named.drop name.length with
      | [] => some (name, none)
      | separator :: rest =>
        if separator == zero then some (name, none)
        else some (name, some (upToZero (rest.dropWhile isGap)))
  | _ => none

/-- The arguments with which the shell of the system runs in the end, the name it is called by first. A
file that somebody may write to cannot be executed. -/
def invocation (view : Files.View) (isWritten : Files.Place → Bool) :
    Nat → Bytes → Bytes → List Bytes → Except Files.FileError (List Bytes)
  | levels, path, calledAs, arguments => do
    match ← view.find path with
    | (_, .shell) => if levels = 0 then .error .tooManyLevels else .ok (calledAs :: arguments)
    | (place, .file content true _) =>
      match levels with
      | 0 => .error .tooManyLevels
      | levels + 1 =>
        if isWritten place then .error .textBusy
        else
          match header? content with
          | some (name, argument) =>
            invocation view isWritten levels name name (argument.toList ++ path :: arguments)
          | none => .error .notExecutableFormat
    | _ => .error .permissionDenied

/-- How many interpreters may be looked at for one program. -/
def levelLimit : Nat := 6

/-- The length that one argument must not reach. -/
def argumentLimit : Nat := 131072

/-- The least and the greatest size that all arguments together may have. -/
def totalRange : Nat × Nat := (131072, 6291456)

/-- The size that all arguments together must not exceed: a part of what the stack may take. -/
def totalLimit (stack : Option Nat) : Nat :=
  stack.elim totalRange.2 fun size => max totalRange.1 (min totalRange.2 (size / 4))

/-- Whether arguments are not too long. -/
def fits (stack : Option Nat) (arguments : List Bytes) : Bool :=
  arguments.all (·.length + 1 ≤ argumentLimit) &&
    (arguments.foldl (fun sum argument => sum + argument.length + 9) 0 ≤ totalLimit stack)

end SinglePath.Shell.Program
