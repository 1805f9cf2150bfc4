/-
**Patterns of the shell.**

* `Glob` — one step of a pattern: any text, any character, a character of a set, or a given character.
* `patternText` — a word as the text of a pattern, in which a backslash escapes the next character.
* `parsePattern` — reads the text of a pattern.
* `matchesAll` — whether a pattern matches a whole text.
* `stripMatch` — a text without what a pattern matches at its start or its end.

A pattern is matched character by character: the steps that may come next are followed all at once, so
that matching takes time in proportion to the text.
-/

import SinglePath.Shell.Field

namespace SinglePath.Shell

open Text (Bytes)

/-- Some characters of a set. -/
inductive Member where
  | range (low high : Char)
  /-- A class of characters, by its name. -/
  | named (name : String)
  deriving Repr

/-- One step of a pattern. -/
inductive Glob where
  /-- Any text, also the empty one. -/
  | anyText
  /-- Any character. -/
  | anyChar
  /-- A character of a set, or one that is not in it. -/
  | oneOf (negated : Bool) (members : List Member)
  /-- A given character. -/
  | exact (c : Char)
  deriving Repr

/-! ### Reading patterns -/

/-- Whether a character needs a backslash where it stands in quotes and is to stand for itself. -/
def isActive (c : Char) : Bool :=
  "!*?[=~:/-]\\".toList.contains c

/-- A pattern as one text, under way. -/
structure PatternText where
  /-- The latest character first. -/
  reversed : Bytes := []
  /-- Whether anything was quoted so far. -/
  quoted : Bool := false
  /-- Whether an expansion gave a backslash just now that may still escape something. -/
  escaping : Bool := false

/-- Adds a stretch of a word. What is quoted stands for itself. A backslash of an expansion stays what
it is, and can take the place of the one that a quoted character needs. -/
def PatternText.add (p : PatternText) : Stretch → PatternText
  | (.plain, chars) =>
    { p with
      reversed := chars.reverse ++ p.reversed
      escaping := p.quoted && chars.foldl (fun escaping c => c == '\\' && !escaping) p.escaping }
  | (quoting, chars) =>
    let start := { p with quoted := true, escaping := p.escaping && quoting = .escape }
    chars.foldl
      (fun p c =>
        let escaped := !p.escaping && (quoting = .escape || isActive c)
        { p with
          reversed := c :: (if escaped then '\\' :: p.reversed else p.reversed)
          escaping := false })
      start

/-- A word as the text of a pattern, in which a backslash escapes the next character. -/
def patternText (stretches : List Stretch) : Bytes :=
  (stretches.foldl PatternText.add {}).reversed.reverse

/-- The names of the classes of characters. -/
def classNames : List String :=
  ["alnum", "cntrl", "lower", "space", "alpha", "digit", "print", "upper", "blank", "graph", "punct",
   "xdigit"]

/-- The class whose name stands at the start of a set, after a bracket, and what stands after it. -/
def classAt? (text : Bytes) : Option (String × Bytes) :=
  if text.head? ≠ some ':' then none
  else
    classNames.findSome? fun name =>
      let spelled := (":" ++ name ++ ":]").toList
      if spelled.isPrefixOf text then some (name, text.drop spelled.length) else none

/-- A character that stands for itself, after a backslash if there is one. -/
def memberAt : Bytes → Option (Char × Bytes)
  | '\\' :: c :: rest => some (c, rest)
  | c :: rest => some (c, rest)
  | [] => none

/-- The members of a set of at most `fuel` characters, up to the bracket that closes it. A bracket
right at the start belongs to the set. -/
def parseMembers : Nat → Bool → Bytes → Option (List Member × Bytes)
  | 0, _, _ => none
  | fuel + 1, atStart, text =>
    match text with
    | ']' :: rest => if atStart then closing fuel ']' rest else some ([], rest)
    | '[' :: rest =>
      match classAt? rest with
      | some (name, after) => (parseMembers fuel false after).map fun (more, left) => (.named name :: more, left)
      | none => closing fuel '[' rest
    | _ =>
      match memberAt text with
      | some (c, rest) => closing fuel c rest
      | none => none
where
  /-- A member that begins with a given character. -/
  closing (fuel : Nat) (low : Char) (rest : Bytes) : Option (List Member × Bytes) :=
    match rest with
    | '-' :: ']' :: _ => single fuel low rest
    | '-' :: after =>
      match memberAt after with
      | some (high, left) =>
        (parseMembers fuel false left).map fun (more, left) => (.range low high :: more, left)
      | none => none
    | _ => single fuel low rest
  /-- A member that is one character. -/
  single (fuel : Nat) (c : Char) (rest : Bytes) : Option (List Member × Bytes) :=
    (parseMembers fuel false rest).map fun (more, left) => (.range c c :: more, left)

/-- Reads a pattern of at most `fuel` characters. -/
def parseGlobs : Nat → Bytes → List Glob
  | 0, _ => []
  | _, [] => []
  | fuel + 1, c :: rest =>
    if c == '*' then .anyText :: parseGlobs fuel rest
    else if c == '?' then .anyChar :: parseGlobs fuel rest
    else if c == '\\' then
      match rest with
      | escaped :: after => .exact escaped :: parseGlobs fuel after
      | [] => [.exact c]
    else if c == '[' then
      let (negated, set) : Bool × Bytes := match rest with
        | '!' :: set => (true, set)
        | set => (false, set)
      match parseMembers (fuel + 1) true set with
      | some (members, after) => .oneOf negated members :: parseGlobs fuel after
      | none => .exact c :: parseGlobs fuel rest
    else .exact c :: parseGlobs fuel rest

/-- Reads a pattern. -/
def parsePattern (text : Bytes) : List Glob :=
  parseGlobs text.length text

/-- A word as a pattern. -/
def patternOf (stretches : List Stretch) : List Glob :=
  parsePattern (patternText stretches)

/-! ### Matching -/

/-- Where a character stands in the order of ranges: bytes from 128 on come first. -/
def rangeKey (c : Char) : Int :=
  if 128 ≤ c.toNat then c.toNat - 256 else c.toNat

/-- Whether a character is in a class. -/
def isInClass (c : Char) : String → Bool
  | "alnum" => c.isAlphanum
  | "cntrl" => c.toNat < 32 || c.toNat = 127
  | "lower" => c.isLower
  | "space" => isSpace c
  | "alpha" => c.isAlpha
  | "digit" => c.isDigit
  | "print" => 32 ≤ c.toNat && c.toNat < 127
  | "upper" => c.isUpper
  | "blank" => c == ' ' || c == '\t'
  | "graph" => 32 < c.toNat && c.toNat < 127
  | "punct" => 32 < c.toNat && c.toNat < 127 && !c.isAlphanum
  | "xdigit" => (digit? 16 c).isSome
  | _ => false

/-- Whether a member of a set is a character. -/
def Member.has (c : Char) : Member → Bool
  | .range low high => rangeKey low ≤ rangeKey c && rangeKey c ≤ rangeKey high
  | .named name => isInClass c name

/-- Whether a step that takes one character takes `c`. -/
def Glob.takes (c : Char) : Glob → Bool
  | .anyText | .anyChar => true
  | .oneOf negated members => members.any (·.has c) != negated
  | .exact expected => c == expected

/-- A point in a pattern: how many steps are left, and which. -/
abbrev Point := Nat × List Glob

/-- A point and those reached from it when `anyText` takes nothing, before some other points. -/
def reachable : Nat → List Glob → List Point → List Point
  | left, .anyText :: rest, others => (left, .anyText :: rest) :: reachable (left - 1) rest others
  | left, steps, others => (left, steps) :: others

/-- Adds a point unless it is there already. Points come with fewer and fewer steps left. -/
def addPoint (point : Point) (others : List Point) : List Point :=
  if others.any (·.1 == point.1) then others else reachable point.1 point.2 others

/-- The points after one more character. -/
def stepPoints (c : Char) (points : List Point) : List Point :=
  points.foldr
    (fun point after =>
      match point.2 with
      | [] => after
      | .anyText :: _ => addPoint point after
      | step :: rest => if step.takes c then addPoint (point.1 - 1, rest) after else after) []

/-- The points at the start of a pattern. -/
def startPoints (pattern : List Glob) : List Point :=
  reachable pattern.length pattern []

/-- Whether a pattern may end at one of some points. -/
def accepts (points : List Point) : Bool :=
  points.any (·.2.isEmpty)

/-- Whether a pattern matches a whole text. -/
def matchesAll (pattern : List Glob) (text : Bytes) : Bool :=
  accepts (text.foldl (fun points c => stepPoints c points) (startPoints pattern))

/-- How many characters at the start of a text a pattern matches, as few or as many as it can. -/
def matchLength? (longest : Bool) (taken : Nat) (best : Option Nat) (points : List Point) :
    Bytes → Option Nat
  | [] => if accepts points then some taken else best
  | c :: rest =>
    let best := if accepts points then some taken else best
    if points.isEmpty || (best.isSome && !longest) then best
    else matchLength? longest (taken + 1) best (stepPoints c points) rest

/-- A text without what a pattern matches at its start or its end: as much or as little as it can. -/
def stripMatch (atStart longest : Bool) (pattern : List Glob) (text : Bytes) : Bytes :=
  if atStart then
    text.drop ((matchLength? longest 0 none (startPoints pattern) text).getD 0)
  else
    let reversed := text.reverse
    (reversed.drop
      ((matchLength? longest 0 none (startPoints pattern.reverse) reversed).getD 0)).reverse

end SinglePath.Shell
