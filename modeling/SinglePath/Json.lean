/-
**JSON documents and their indented text.**

* `Json` — the values that are written: texts, counts, truth values, lists and records.
* `Json.pretty` — the text of a value: two spaces of indentation a level, one item a line, and nothing
  between the brackets of an empty list or record.

In a text only quotes, backslashes and the characters below space are escaped.
-/

namespace SinglePath

/-- A JSON value. -/
inductive Json where
  | text (value : String)
  | number (value : Nat)
  | bool (value : Bool)
  | list (items : List Json)
  | record (fields : List (String × Json))
  deriving Inhabited

namespace Json

/-- A character inside a quoted text. -/
def escape (c : Char) : List Char :=
  if c = '"' then ['\\', '"']
  else if c = '\\' then ['\\', '\\']
  else if c = '\x08' then ['\\', 'b']
  else if c = '\x0c' then ['\\', 'f']
  else if c = '\n' then ['\\', 'n']
  else if c = '\r' then ['\\', 'r']
  else if c = '\t' then ['\\', 't']
  else if c.toNat < 0x20 then
    ['\\', 'u', '0', '0', Nat.digitChar (c.toNat / 16), Nat.digitChar (c.toNat % 16)]
  else [c]

/-- A quoted text. -/
def quoted (s : String) : List Char :=
  '"' :: s.toList.flatMap escape ++ ['"']

/-- A new line at a level of indentation. -/
def newline (level : Nat) : List Char :=
  '\n' :: List.replicate (2 * level) ' '

mutual

/-- The characters of a value at a level of indentation. -/
def chars (level : Nat) : Json → List Char
  | text value => quoted value
  | number value => Nat.toDigits 10 value
  | bool value => (if value then "true" else "false").toList
  | list [] => ['[', ']']
  | list (item :: items) =>
    '[' :: newline (level + 1) ++ chars (level + 1) item ++ moreItems (level + 1) items ++
      newline level ++ [']']
  | record [] => ['\x7b', '\x7d']
  | record ((name, value) :: fields) =>
    '\x7b' :: newline (level + 1) ++ quoted name ++ [':', ' '] ++ chars (level + 1) value ++
      moreFields (level + 1) fields ++ newline level ++ ['\x7d']

/-- The characters of the items after the first. -/
def moreItems (level : Nat) : List Json → List Char
  | [] => []
  | item :: items => ',' :: newline level ++ chars level item ++ moreItems level items

/-- The characters of the fields after the first. -/
def moreFields (level : Nat) : List (String × Json) → List Char
  | [] => []
  | (name, value) :: fields =>
    ',' :: newline level ++ quoted name ++ [':', ' '] ++ chars level value ++ moreFields level fields

end

/-- The indented text of a value. -/
def pretty (value : Json) : String :=
  String.ofList (chars 0 value)

end Json

end SinglePath
