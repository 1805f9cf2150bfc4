/-
**Readers: small parsers over lists of characters.**

* `Reader α` — reads an `α` from the front of a text, or fails and takes nothing.
* `many`, `perhaps`, `separated1` — repetition; every repetition takes at least one character
  a time, so the length of the text bounds it.
-/

namespace SinglePath.Text

/-- Reads a value from the front of a text. -/
abbrev Reader (α : Type) := StateT (List Char) Option α

namespace Reader

variable {α β : Type}

/-- The rest of the text. -/
def rest : Reader (List Char) := get

/-- The next character, left in place. -/
def peek : Reader (Option Char) := do
  return (← rest).head?

/-- Takes a character of a class. -/
def one (holds : Char → Bool) : Reader Char := fun text =>
  match text with
  | c :: after => if holds c then some (c, after) else none
  | [] => none

/-- Takes a given character. -/
def exactly (c : Char) : Reader Unit := do
  discard (one (· == c))

/-- Takes a given text. -/
def word (s : String) : Reader Unit := fun text =>
  if s.toList.isPrefixOf text then some ((), text.drop s.length) else none

/-- Takes the longest run of characters of a class. -/
def run (holds : Char → Bool) : Reader (List Char) := fun text =>
  some (text.takeWhile holds, text.dropWhile holds)

/-- Takes a run of at least one character of a class. -/
def run1 (holds : Char → Bool) : Reader (List Char) := do
  let first ← one holds
  return first :: (← run holds)

/-- Takes exactly `n` characters of a class. -/
def times (holds : Char → Bool) : Nat → Reader (List Char)
  | 0 => return []
  | n + 1 => do
    let first ← one holds
    return first :: (← times holds n)

/-- Reads a value if it can be read. -/
def perhaps (reader : Reader α) : Reader (Option α) := fun text =>
  match reader text with
  | some (value, after) => some (some value, after)
  | none => some (none, text)

/-- Reads values as long as they can be read, at most `bound` of them. -/
def manyUpTo (reader : Reader α) : Nat → Reader (List α)
  | 0 => return []
  | bound + 1 => fun text =>
    match reader text with
    | some (value, after) =>
      if after.length < text.length then
        (manyUpTo reader bound after).map fun (values, final) => (value :: values, final)
      else some ([], text)
    | none => some ([], text)

/-- Reads values as long as they can be read. -/
def many (reader : Reader α) : Reader (List α) := fun text =>
  manyUpTo reader text.length text

/-- Reads at least one value, with a separator between any two. -/
def separated1 (reader : Reader α) (separator : Reader β) : Reader (List α) := do
  let first ← reader
  return first :: (← many (do discard separator; reader))

/-- Succeeds at the end of the text. -/
def atEnd : Reader Unit := fun text =>
  if text.isEmpty then some ((), text) else none

end Reader

end SinglePath.Text
