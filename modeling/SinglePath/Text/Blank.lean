/-
**Blanks: what separates fields and what trimming removes.**

* `isBlank` — the Unicode `White_Space` property, as a table of code points.
* `trim`, `trimEnd` — a text without the blanks at both ends, or at its end only.
* `fields` — the maximal runs of characters that are not blank, in order.

Every rule is given on lists of characters (`Chars`) and lifted to strings, so that statements about
texts reduce to statements about lists.
-/

namespace SinglePath.Text

/-- The Unicode `White_Space` property. -/
def isBlank (c : Char) : Bool :=
  let code := c.toNat
  (0x09 ≤ code && code ≤ 0x0D) || code == 0x20 || code == 0x85 || code == 0xA0 || code == 0x1680 ||
    (0x2000 ≤ code && code ≤ 0x200A) || code == 0x2028 || code == 0x2029 || code == 0x202F ||
    code == 0x205F || code == 0x3000

namespace Chars

/-- Drops the blanks at the start. -/
def trimStart (cs : List Char) : List Char :=
  cs.dropWhile isBlank

/-- Drops the blanks at the end. -/
def trimEnd (cs : List Char) : List Char :=
  (cs.reverse.dropWhile isBlank).reverse

/-- Drops the blanks at both ends. -/
def trim (cs : List Char) : List Char :=
  trimEnd (trimStart cs)

/-- Puts a word in front of the words after it, unless it is empty. -/
def consWord (word : List Char) (words : List (List Char)) : List (List Char) :=
  if word.isEmpty then words else word :: words

/-- One character to the left of a text whose first word, possibly empty, is still open. -/
def fieldsStep (c : Char) (pending : List Char × List (List Char)) : List Char × List (List Char) :=
  if isBlank c then ([], consWord pending.1 pending.2) else (c :: pending.1, pending.2)

/-- The maximal runs of characters that are not blank. -/
def fields (cs : List Char) : List (List Char) :=
  let (word, words) := cs.foldr fieldsStep ([], [])
  consWord word words

end Chars

/-- A text without the blanks at both ends. -/
def trim (s : String) : String :=
  String.ofList (Chars.trim s.toList)

/-- A text without the blanks at its end. -/
def trimEnd (s : String) : String :=
  String.ofList (Chars.trimEnd s.toList)

/-- The fields of a text: its maximal runs of characters that are not blank. -/
def fields (s : String) : List String :=
  (Chars.fields s.toList).map String.ofList

/-- Whether a text holds nothing but blanks. -/
def isBlankText (s : String) : Bool :=
  s.toList.all isBlank

/-- Whether a text begins with a given one. -/
def beginsWith (start s : String) : Bool :=
  start.toList.isPrefixOf s.toList

end SinglePath.Text
