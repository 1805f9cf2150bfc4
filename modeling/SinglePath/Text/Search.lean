/-
**Finding one text in another.**

* `occursIn` — whether a text occurs in another, at any place. The empty text occurs everywhere.
-/

namespace SinglePath.Text

/-- Whether a list of characters occurs in another without gaps. -/
def Chars.occursIn (part : List Char) : List Char → Bool
  | [] => part.isEmpty
  | c :: rest => part.isPrefixOf (c :: rest) || Chars.occursIn part rest

/-- Whether a text occurs in another. -/
def occursIn (part whole : String) : Bool :=
  Chars.occursIn part.toList whole.toList

end SinglePath.Text
