/-
**The summary for readers.**

* `Summary.human` — a heading, one row per configuration in aligned columns, and a closing line.

The column of flags is as wide as the longest of them in bytes, while padding counts characters.
-/

import SinglePath.Summary.Basic

namespace SinglePath

namespace ConfigurationSummary

/-- The flags in brackets; no flags are the default configuration. -/
def bracketed (c : ConfigurationSummary) : String :=
  if c.flags.isEmpty then "[default]" else "[" ++ c.flags ++ "]"

/-- How the configuration was checked. -/
def mode (c : ConfigurationSummary) : String :=
  if c.singlePath then "single-path, " ++ Text.Decimal.ofNat c.compared ++ " compared"
  else "traditional"

/-- The longest start of a text that has at most `size` bytes. -/
def cut (size : Nat) : List Char → List Char
  | [] => []
  | c :: rest => if c.utf8Size ≤ size then c :: cut (size - c.utf8Size) rest else []

/-- How many bytes of the fingerprint are shown. -/
def shownBytes : Nat := 12

/-- The start of the fingerprint. -/
def shortFingerprint (c : ConfigurationSummary) : String :=
  String.ofList (cut shownBytes c.fingerprint.toList)

/-- The width of the column that says how a configuration was checked. -/
def modeWidth : Nat := 24

/-- A configuration as a row, its flags padded to `width`. -/
def row (width : Nat) (c : ConfigurationSummary) : String :=
  "  " ++ Text.padEnd width c.bracketed ++ "  " ++ Text.Decimal.ofNat c.executions ++ " runs  " ++
    Text.padEnd modeWidth c.mode ++ "  " ++ c.shortFingerprint ++ "\n"

end ConfigurationSummary

/-- The summary for readers. -/
def Summary.human (s : Summary) : String :=
  let count := Text.Decimal.ofNat s.configurations.length
  let width := s.configurations.foldl (fun width c => max width c.bracketed.utf8ByteSize) 0
  "=== Single-Path Equivalence Report ===\n" ++
    "Program: " ++ s.program ++ "\n" ++
    "Execution arguments: " ++ String.intercalate ", " s.arguments ++ "\n\n" ++
    "--- Configurations (" ++ count ++ ") ---\n" ++
    String.join (s.configurations.map (·.row width)) ++
    "\nAll " ++ count ++ " configurations passed (" ++ Text.Decimal.ofNat s.singlePathCount ++
    " single-path).\n"

end SinglePath
