/-
**Occurrences of a text in a text that was joined, or that is to be divided.**

An occurrence that holds no separator lies on one side of each separator:

* `infix_append_separator_iff` — it is in front of a separator or behind it;
* `infix_intercalate_iff` — in texts joined by separators, it lies within one of them;
* `infix_iff_exists_field` — in a text with blanks, it lies within one of the fields;
* `HasToken` — a field of a text contains a part; for a word this is to occur in the text (`IsWord.hasToken_iff`).
-/

import SinglePath.Proofs.Text.Lines
import SinglePath.Proofs.Text.Words
import SinglePath.Text.Search

namespace SinglePath.Text

namespace Chars

theorem occursIn_iff {part whole : List Char} : occursIn part whole = true ↔ part <:+: whole := by
  induction whole with
  | nil => rw [occursIn, List.isEmpty_iff, List.infix_nil]
  | cons c rest ih =>
      rw [occursIn, Bool.or_eq_true, ih, List.isPrefixOf_iff_prefix, List.infix_cons_iff]

section Separator

variable {part : List Char} {separator : Char} (nonempty : part ≠ []) (free : separator ∉ part)

include nonempty free

/-- **An occurrence without the separator** is in front of the separator or behind it. -/
theorem infix_append_separator_iff (left right : List Char) :
    part <:+: left ++ separator :: right ↔ part <:+: left ∨ part <:+: right := by
  constructor
  · intro occurs
    rcases List.infix_append_iff.mp occurs with inLeft | behind | ⟨start, rest, rfl, atEnd, follows⟩
    · exact Or.inl inLeft
    · rcases List.infix_cons_iff.mp behind with starts | inRight
      · rcases List.prefix_cons_iff.mp starts with empty | ⟨_, rfl, -⟩
        · exact absurd empty nonempty
        · exact absurd List.mem_cons_self free
      · exact Or.inr inRight
    · -- across the separator only if it holds the separator
      rcases List.prefix_cons_iff.mp follows with rfl | ⟨_, rfl, -⟩
      · rw [List.append_nil]
        exact Or.inl atEnd.isInfix
      · exact absurd (List.mem_append_right start List.mem_cons_self) free
  · rintro (inLeft | inRight)
    · exact List.infix_append_of_infix_left inLeft
    · exact List.infix_append_of_infix_right (List.infix_cons inRight)

/-- **An occurrence in joined texts** lies within one of them. -/
theorem infix_intercalate_iff (texts : List (List Char)) :
    part <:+: [separator].intercalate texts ↔ ∃ text ∈ texts, part <:+: text := by
  induction texts with
  | nil => simp [nonempty]
  | cons text texts ih =>
      cases texts with
      | nil => simp
      | cons next others =>
          rw [List.intercalate_cons_cons, List.append_assoc, List.singleton_append,
            infix_append_separator_iff nonempty free, ih]
          simp only [List.mem_cons, exists_eq_or_imp]

end Separator

/-- **An occurrence without blanks** lies within one field. -/
theorem infix_iff_exists_field {part : List Char} (nonempty : part ≠ [])
    (solid : ∀ c ∈ part, isBlank c = false) (cs : List Char) :
    part <:+: cs ↔ ∃ word ∈ fields cs, part <:+: word := by
  induction cs using divided_induction isBlank with
  | whole cs free =>
      by_cases empty : cs = []
      · rw [empty, List.infix_nil]
        exact ⟨fun none => absurd none nonempty, fun ⟨_, member, _⟩ => absurd member List.not_mem_nil⟩
      · rw [fields_word free empty]
        simp
  | divided cs separator rest free blank ih =>
      have absent : separator ∉ part := by
        intro member
        rw [solid separator member] at blank
        cases blank
      rw [infix_append_separator_iff nonempty absent, fields_append_cons blank, ih]
      by_cases empty : cs = []
      · rw [empty, List.infix_nil]
        exact ⟨fun found => found.resolve_left nonempty, Or.inr⟩
      · rw [fields_word free empty]
        simp only [List.singleton_append, List.mem_cons, exists_eq_or_imp]

end Chars

theorem occursIn_iff {part whole : String} :
    occursIn part whole = true ↔ part.toList <:+: whole.toList :=
  Chars.occursIn_iff

/-- One of the fields of a text contains a part. -/
def HasToken (part text : String) : Prop :=
  ∃ token ∈ fields text, part.toList <:+: token.toList

instance (part text : String) : Decidable (HasToken part text) :=
  decidable_of_iff ((fields text).any (occursIn part) = true) <| by
    simp only [List.any_eq_true, occursIn_iff, HasToken]

/-- **Dividing a text loses no word in it.** -/
theorem IsWord.hasToken_iff {part : String} (word : IsWord part) (text : String) :
    HasToken part text ↔ part.toList <:+: text.toList := by
  rw [Chars.infix_iff_exists_field word.1 word.2, HasToken, fields]
  simp only [List.mem_map, exists_exists_and_eq_and, String.toList_ofList]

end SinglePath.Text
