/-
**Built-in commands that test conditions.**

* `test`, `bracket` — a condition as a status, by what is known about the files.
-/

import SinglePath.Shell.Builtin.Options
import SinglePath.Shell.Sight
import SinglePath.Shell.Test

namespace SinglePath.Shell

open Text (Bytes)

/-- Whether an entry that is there has a property that a letter asks for. -/
def entryHolds (letter : Char) (entry : Files.Entry) : Bool :=
  match letter, entry with
  | 'f', entry => entry.isFile
  | 'd', entry => entry.isDirectory
  | 'c', .device _ | 'p', .stream _ => true
  | 'x', entry => entry.isDirectory || entry.isExecutable
  | 's', .file content _ _ => content.size ≠ 0
  | 's', .directory | 's', .shell | 's', .program => true
  | letter, _ => "erwOG".toList.contains letter

/-- Whether a place is the directory of a process or that of all processes, which have no size and cannot
be changed. -/
def isProcessPlace : Files.Place → Bool
  | first :: rest => first = "proc".toList && rest.length ≤ 1
  | [] => false

/-- When a file was written last; others were there from the start. -/
def entryStamp : Files.Entry → Nat
  | .file _ _ stamp => stamp
  | _ => 0

/-- What is known about the files of a process. -/
def testFacts (s : State) : Test.Facts where
  holds letter path :=
    if letter == 'h' || letter == 'L' then s.view.isLink path
    else
      match s.find path with
      | .ok (place, entry) => entryHolds letter entry && !("sw".toList.contains letter && isProcessPlace place)
      | .error _ => false
  relates operator x y :=
    match operator, s.find x, s.find y with
    | "-ef", .ok (a, _), .ok (b, _) => a = b
    | "-nt", .ok (_, a), .ok (_, b) => entryStamp b < entryStamp a
    | "-ot", .ok (_, a), .ok (_, b) => entryStamp a < entryStamp b
    | "-nt", .ok _, .error _ => true
    | "-ot", .error _, .ok _ => true
    | _, _, _ => false

/-- Tests a condition. -/
def test (arguments : List Bytes) : Action Nat := do
  match Test.decide (testFacts (← get)) arguments with
  | .ok holds => return statusOf holds
  | .error message => fail message

/-- Tests a condition between brackets. -/
def bracket (arguments : List Bytes) : Action Nat := do
  if (arguments.getLast?.bind List.head?) = some ']' then test arguments.dropLast
  else fail "missing ]".toList

end SinglePath.Shell
