/-
**What names stand for in a file system.**

* `Place` — the names that lead from the root to something.
* `Entry` — a directory, a file with its contents, a program, a device, or a link to another place.
* `FileError` — why a file or a program cannot be used, in the words of the operating system.
-/

import SinglePath.Text.Bytes

namespace SinglePath.Files

open Text (Bytes)

/-- Why a file or a program cannot be used. -/
inductive FileError where
  | notFound
  | permissionDenied
  | notDirectory
  | isDirectory
  | nameTooLong
  | notUtf8
  /-- A path has a character that no path can have. -/
  | nulInPath
  /-- A program is neither a script nor machine code. -/
  | notExecutableFormat
  /-- The interpreter of a script is a script, whose interpreter is one, and so on; or links lead around. -/
  | tooManyLevels
  | argumentsTooLong
  /-- An argument of a program has a character that no argument can have. -/
  | nulInArgument
  /-- A program is running, or is being written. -/
  | textBusy
  /-- A file stands for something that is not there. -/
  | noDevice
  deriving DecidableEq, Repr

/-- The error in words. -/
def FileError.message : FileError → String
  | .notFound => "No such file or directory (os error 2)"
  | .permissionDenied => "Permission denied (os error 13)"
  | .notDirectory => "Not a directory (os error 20)"
  | .isDirectory => "Is a directory (os error 21)"
  | .nameTooLong => "File name too long (os error 36)"
  | .notUtf8 => "stream did not contain valid UTF-8"
  | .nulInPath => "file name contained an unexpected NUL byte"
  | .notExecutableFormat => "Exec format error (os error 8)"
  | .tooManyLevels => "Too many levels of symbolic links (os error 40)"
  | .argumentsTooLong => "Argument list too long (os error 7)"
  | .nulInArgument => "nul byte found in provided data"
  | .textBusy => "Text file busy (os error 26)"
  | .noDevice => "No such device or address (os error 6)"

/-- The names that lead from the root to something. -/
abbrev Place := List Bytes

/-- A place is hashed by the characters of its names. -/
instance : Hashable Place :=
  @instHashableList Bytes (@instHashableList Char instHashableChar)

/-- A device. -/
inductive Device where
  /-- Always empty; it forgets what is written to it. -/
  | nothing
  /-- Full of bytes of code zero. -/
  | zeros
  /-- Like `zeros`, but nothing more can be written to it. -/
  | full
  /-- The terminal, of which there is none. -/
  | terminal
  deriving DecidableEq, Repr

/-- What a name stands for. -/
inductive Entry where
  | directory
  /-- A file; `stamp` says how many programs had been started when it was written last. -/
  | file (content : ByteArray) (executable : Bool) (stamp : Nat)
  /-- The shell of the system. -/
  | shell
  /-- Another program of the system. -/
  | program
  | device (d : Device)
  | link (target : Place)
  /-- Something that a process has open and that has no other name, by its number. -/
  | stream (number : Nat)

/-- Whether something is a file like others. -/
def Entry.isFile : Entry → Bool
  | .file .. | .shell | .program => true
  | _ => false

/-- Whether something is a directory. -/
def Entry.isDirectory : Entry → Bool
  | .directory => true
  | _ => false

/-- Whether something may be executed. -/
def Entry.isExecutable : Entry → Bool
  | .file _ executable _ => executable
  | .shell | .program => true
  | _ => false

end SinglePath.Files
