/-
**The files as a process sees them.**

* `State.view` — the files, with a directory for each process in which its descriptors have names.
* `faultText` — why a file cannot be used, in the words of the shell.
-/

import SinglePath.Shell.Variables

namespace SinglePath.Shell

open Text (Bytes)

/-- The place of a device. -/
def devicePlace : Files.Device → Files.Place
  | .nothing => Files.placeOf "dev/null"
  | .zeros => Files.placeOf "dev/zero"
  | .full => Files.placeOf "dev/full"
  | .terminal => Files.placeOf "dev/tty"

/-- What an open file is among the files. -/
def channelEntry (number : Nat) : Channel → Files.Entry
  | .device d => .link (devicePlace d)
  | .directory place | .file place => .link place
  | .output | .errors | .source _ | .sink _ => .stream number

/-- The number that a name spells, if it is spelled as usual. -/
def spelledNumber? (name : Bytes) : Option Nat :=
  match natural? name with
  | some number => if Bytes.ofNat number = name then some number else none
  | none => none

/-- The name of the program that a process runs, as the system knows it. -/
def Process.title (p : Process) : Bytes :=
  (((Bytes.divide '/' p.name).getLast?).getD []).take 15

namespace State

/-- What the directory of a process has under some names. -/
def processEntry? (s : State) (p : Process) : List Bytes → Option Files.Entry
  | [] => some .directory
  | [name] =>
    match String.ofList name with
    | "fd" | "fdinfo" | "task" | "ns" | "net" | "attr" => some .directory
    | "cwd" => some (.link p.directory)
    | "root" => some (.link [])
    | "exe" => some (.link (Files.placeOf "usr/bin/dash"))
    | "comm" => some (.file (Bytes.toArray (p.title ++ ['\n'])) false 0)
    | "cmdline" | "environ" | "stat" | "status" | "maps" | "mounts" | "limits" | "statm" | "io" =>
      some (.file ByteArray.empty false 0)
    | _ => none
  | [directory, name] =>
    if directory = "fd".toList then do
      let number ← p.descriptors.lookup (← spelledNumber? name)
      let file ← s.openFiles.lookup number
      return channelEntry number file.channel
    else none
  | _ => none

/-- What is known about processes, by place. -/
def live (s : State) : Files.Place → Option Files.Entry
  | first :: which :: rest =>
    if first ≠ "proc".toList then none
    else if which = "self".toList || which = "thread-self".toList then
      if rest.isEmpty then some (.link [first, .ofNat s.self.number]) else none
    else
      match spelledNumber? which with
      | none => none
      | some number =>
        match s.process? number with
        | some p => s.processEntry? p rest
        | none =>
          let exists_ := number = 1 || number = originNumber || s.ended.any (·.process = number)
          if rest.isEmpty && exists_ then some .directory else none
  | _ => none

/-- The names in the directories of processes. Whoever asks for the descriptors of the process that runs now
has one more of them while looking. -/
def liveNames (s : State) : Files.Place → List Bytes
  | [first] =>
    if first = "proc".toList then "self".toList :: s.processes.map fun p => .ofNat p.number else []
  | [first, which] =>
    if first = "proc".toList && (spelledNumber? which).any fun number => (s.process? number).isSome then
      ["fd", "cwd", "root", "exe", "comm", "cmdline", "environ", "stat", "status"].map String.toList
    else []
  | [first, which, directory] =>
    if first = "proc".toList && directory = "fd".toList then
      match (spelledNumber? which).bind s.process? with
      | some p =>
        let looking := if p.number = s.self.number then [Bytes.ofNat (p.freeDescriptor 0)] else []
        looking ++ p.descriptors.map fun (descriptor, _) => .ofNat descriptor
      | none => []
    else []
  | _ => []

/-- The files as the process that runs now sees them. -/
def view (s : State) : Files.View :=
  { tree := s.files, here := s.self.directory, live := s.live, liveNames := s.liveNames }

/-- What a path leads to. -/
def find (s : State) (path : Bytes) : Except Files.FileError (Files.Place × Files.Entry) :=
  s.view.find path

/-- Whether somebody may write to the file at a place. -/
def isWritten (s : State) (place : Files.Place) : Bool :=
  s.openFiles.any fun (_, file) => file.writes && file.channel = .file place

end State

/-- Why a file cannot be used, in the words of the shell. -/
def faultText (missing : String) : Files.FileError → String
  | .notFound | .notDirectory => missing
  | .isDirectory => "Is a directory"
  | .nameTooLong => "File name too long"
  | .tooManyLevels => "Too many levels of symbolic links"
  | .argumentsTooLong => "Argument list too long"
  | .notExecutableFormat => "Exec format error"
  | .textBusy => "Text file busy"
  | .noDevice => "No such device or address"
  | _ => "Permission denied"

end SinglePath.Shell
