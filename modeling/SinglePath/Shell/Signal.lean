/-
**Signals.**

* `signalName`, `signal?` — from the number of a signal to its name, and back.
* `Effect` — what a signal does to a process that has not said anything else about it.
* `endingText` — what is said about a process that a signal ended.
-/

import SinglePath.Shell.Basic

namespace SinglePath.Shell

open Text (Bytes)

/-- The number of the greatest signal. -/
def lastSignal : Nat := 64

/-- The names of signals, from number one on. A signal without a name goes by its number. -/
def signalNames : List String :=
  ["HUP", "INT", "QUIT", "ILL", "TRAP", "ABRT", "BUS", "FPE", "KILL", "USR1", "SEGV", "USR2", "PIPE", "ALRM",
   "TERM", "16", "CHLD", "CONT", "STOP", "TSTP", "TTIN", "TTOU", "URG", "XCPU", "XFSZ", "VTALRM", "PROF",
   "WINCH", "IO", "PWR", "SYS", "32", "33", "RTMIN", "RTMIN+1", "RTMIN+2", "RTMIN+3", "RTMIN+4", "RTMIN+5",
   "RTMIN+6", "RTMIN+7", "RTMIN+8", "RTMIN+9", "RTMIN+10", "RTMIN+11", "RTMIN+12", "RTMIN+13", "RTMIN+14",
   "RTMIN+15", "RTMAX-14", "RTMAX-13", "RTMAX-12", "RTMAX-11", "RTMAX-10", "RTMAX-9", "RTMAX-8", "RTMAX-7",
   "RTMAX-6", "RTMAX-5", "RTMAX-4", "RTMAX-3", "RTMAX-2", "RTMAX-1", "RTMAX"]

/-- The name of a signal; zero stands for the end of a process. -/
def signalName (signal : Nat) : String :=
  if signal = 0 then "EXIT" else signalNames.getD (signal - 1) ""

/-- A signal by its number, which wraps around at 32 bits. -/
def signalNumber? (text : Bytes) : Option Nat :=
  if text.isEmpty || !text.all Char.isDigit then none
  else
    match Int.bmod (min (digitsValue 10 text : Int) greatest) 4294967296 with
    | .ofNat number => if number ≤ lastSignal then some number else none
    | .negSucc _ => none

/-- A signal by its number or its name, in whatever case. With `allowEnd` the end of a process has a name
too. -/
def signal? (allowEnd : Bool) (text : Bytes) : Option Nat :=
  match signalNumber? text with
  | some number => some number
  | none =>
    let name := String.ofList (text.map Char.toUpper)
    if allowEnd && name = "EXIT" then some 0
    else (signalNames.findIdx? (· = name)).map (· + 1)

/-- The signal that tells of the end of a process that was started. -/
def childSignal : Nat := 17

/-- What a signal does to a process that has not said anything else about it. -/
inductive Effect where
  | ends
  | stops
  | continues
  | nothing
  deriving DecidableEq, Repr

/-- What a signal does by itself. -/
def effectOf (signal : Nat) : Effect :=
  if signal = 0 || signal = childSignal || signal = 23 || signal = 28 then .nothing
  else if signal = 18 then .continues
  else if 19 ≤ signal && signal ≤ 22 then .stops
  else .ends

/-- What is said about a process that a signal ended. -/
def endingText (signal : Nat) : String :=
  match signal with
  | 1 => "Hangup"
  | 2 => "Interrupt"
  | 3 => "Quit"
  | 4 => "Illegal instruction"
  | 5 => "Trace/breakpoint trap"
  | 6 => "Aborted"
  | 7 => "Bus error"
  | 8 => "Floating point exception"
  | 9 => "Killed"
  | 10 => "User defined signal 1"
  | 11 => "Segmentation fault"
  | 12 => "User defined signal 2"
  | 13 => "Broken pipe"
  | 14 => "Alarm clock"
  | 15 => "Terminated"
  | 16 => "Stack fault"
  | 24 => "CPU time limit exceeded"
  | 25 => "File size limit exceeded"
  | 26 => "Virtual timer expired"
  | 27 => "Profiling timer expired"
  | 29 => "I/O possible"
  | 30 => "Power failure"
  | 31 => "Bad system call"
  | _ =>
    if 34 ≤ signal then "Real-time signal " ++ toString (signal - 34)
    else "Unknown signal " ++ toString signal

/-- Whether nothing is said about a process that a signal ended, when another one waits for it. -/
def isQuiet (signal : Nat) : Bool :=
  signal = 2 || signal = 13

end SinglePath.Shell
