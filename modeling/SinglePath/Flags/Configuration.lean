/-
**Compile configurations.**

* `Configuration` — the flags of one compile, and whether the code it gives is single-path.
* `Configuration.ofFlags` — a configuration is single-path when its flags, joined by spaces, contain
  the single-path flag.
-/

import SinglePath.Text.Search

namespace SinglePath

/-- The flags of one compile. -/
structure Configuration where
  /-- The flags, as the compiler gets them. -/
  flags : List String
  /-- Whether the executions of the compiled program must be equivalent. -/
  singlePath : Bool
  deriving DecidableEq, Repr, Inhabited

/-- Flags joined by single spaces. -/
def flagText (flags : List String) : String :=
  String.intercalate " " flags

namespace Configuration

/-- The configuration of a list of flags. -/
def ofFlags (singlePathFlag : String) (flags : List String) : Configuration :=
  ⟨flags, Text.occursIn singlePathFlag (flagText flags)⟩

/-- The flags joined by single spaces, which is how a configuration is named. -/
def text (c : Configuration) : String :=
  flagText c.flags

end Configuration

end SinglePath
