/-
**The command.**

The files below the working directory are read into a `Files.Tree`, the session runs on it, what it
prints is printed, and the files that it changed are written back. Everything that is decided is
decided by `CommandLine.Request.parse` and `CommandLine.Request.run`.
-/

import SinglePath.CommandLine.Session

namespace SinglePath.Main

open Files (Entry Place Tree workingPlace)
open Text (Bytes)

/-- How deep directories are followed, so that links among them cannot lead around for ever. -/
def depthLimit : Nat := 24

/-- The files and directories below a directory. A script counts as a file that may be executed. -/
def snapshot : Nat → IO.FS.DirEntry → Place → IO (List (Place × Entry))
  | 0, _, _ => return []
  | depth + 1, item, above => do
    let place := above ++ [Bytes.ofText item.fileName]
    if ← item.path.isDir then
      let inside ← try item.path.readDir catch _ => pure #[]
      let found ← inside.toList.mapM fun next => snapshot depth next place
      return (place, .directory) :: found.flatten
    else
      try
        let content ← IO.FS.readBinFile item.path
        let isScript := Bytes.ofArray content 0 2 = ['#', '!']
        return [(place, .file content isScript 0)]
      catch _ => return []

/-- The files and directories below the working directory. -/
def workingTree : IO Tree := do
  let items ← (← IO.currentDir).readDir
  let found ← items.toList.mapM fun item => snapshot depthLimit item workingPlace
  return { entries := .ofList found.flatten }

/-- Writes the files back that were written since the start. -/
def writeBack (after : Tree) : IO Unit := do
  for (place, entry) in after.entries.toList do
    match entry with
    | .file content _ (_ + 1) =>
      if workingPlace.isPrefixOf place then
        IO.FS.writeBinFile (Bytes.text (Bytes.join ['/'] (place.drop workingPlace.length))) content
    | _ => pure ()

end SinglePath.Main

open SinglePath

/-- Runs the command. -/
def main (arguments : List String) : IO UInt32 := do
  match CommandLine.Request.parse arguments with
  | .error fault =>
    IO.eprintln ("error: " ++ fault.message)
    return 1
  | .ok request =>
    let files ← Main.workingTree
    let session := request.run (← IO.getEnv "PATH") files
    IO.print session.output
    IO.eprint session.errors
    Main.writeBack session.files
    return UInt32.ofNat session.exit
