/-
**Laying texts out in columns and under ruled titles.**

* `padEnd` — a text followed by as many spaces as it lacks characters.
* `ruled` — a title in the middle of a row of dashes, the odd dash on the right.
* `titled` — a ruled title over a body.
* `toolOutput` — the output of a tool as it is quoted in a message.
-/

import SinglePath.Text.Blank

namespace SinglePath.Text

/-- A character written `n` times. -/
def repeated (c : Char) (n : Nat) : String :=
  String.ofList (List.replicate n c)

/-- A text padded with spaces on the right to at least `width` characters. -/
def padEnd (width : Nat) (s : String) : String :=
  s ++ repeated ' ' (width - s.length)

/-- The width of a ruled row. -/
def ruleWidth : Nat := 50

/-- A row of dashes. -/
def rule : String :=
  repeated '-' ruleWidth

/-- A title, with a space on either side, centred in a row of dashes. -/
def ruled (title : String) : String :=
  let body := " " ++ title ++ " "
  let missing := ruleWidth - body.length
  repeated '-' (missing / 2) ++ body ++ repeated '-' (missing - missing / 2)

/-- A ruled title over a body. -/
def titled (title body : String) : String :=
  ruled title ++ "\n" ++ body ++ "\n"

/-- What a failed tool wrote, on lines of its own; nothing when it is blank. -/
def toolOutput (output : String) : String :=
  if isBlankText output then "" else "\n" ++ trimEnd output

end SinglePath.Text
