/-
**Words: what the fields of a text look like.**

* `IsWord` — a text that is not empty and holds no blank;
* `isWord_ofNat`, `isWord_ofInt` — a number is written as a word;
* `fields_append_cons` — a blank divides the fields of a text;
* `Splits`, `fields_eq_iff` — the fields of a text are the words between its blanks, in order;
* `isWord_of_mem_fields` — every field of a text is a word;
* `fields_append_space`, `fields_of_isWord` — words with blanks between them come back as fields;
* `toList_trim_of_fields` — a text without padding begins with its first field;
* `exists_padding`, `trim_padded` — trimming removes blanks only, and all of them around a word;
* `fields_trim` — it changes no field.
-/

import Mathlib.Data.List.TakeWhile
import SinglePath.Proofs.Text.Lines
import SinglePath.Proofs.Text.Numeral
import SinglePath.Text.Blank

namespace SinglePath.Text

/-- A text that is not empty and holds no blank. -/
def IsWord (s : String) : Prop :=
  s.toList ≠ [] ∧ ∀ c ∈ s.toList, isBlank c = false

-- along the letters, not over all characters: those are too many to go through
instance (s : String) : Decidable (IsWord s) :=
  decidable_of_iff (s.toList.isEmpty = false ∧ s.toList.all (fun c => !isBlank c) = true) <| by
    simp only [IsWord, List.isEmpty_eq_false_iff, List.all_eq_true, Bool.not_eq_true', ne_eq]

namespace IsWord

theorem not_mem {s : String} (word : IsWord s) {c : Char} (blank : isBlank c = true) :
    c ∉ s.toList := by
  intro member
  rw [word.2 c member] at blank
  cases blank

/-- A text that ends in a word does not end in a blank. -/
theorem getLast?_append_ne {s : String} (word : IsWord s) {c : Char} (blank : isBlank c = true)
    (before : List Char) : (before ++ s.toList).getLast? ≠ some c := by
  rw [List.getLast?_append, List.getLast?_eq_some_getLast word.1, Option.some_or]
  intro same
  exact word.not_mem blank (Option.some.inj same ▸ List.getLast_mem word.1)

end IsWord

theorem isBlank_of_isDigit {c : Char} (digit : c.isDigit = true) : isBlank c = false := by
  have bounds : 48 ≤ c.toNat ∧ c.toNat ≤ 57 := by
    simp only [Char.isDigit, Bool.and_eq_true, decide_eq_true_eq] at digit
    exact digit
  unfold isBlank
  simp only [Bool.or_eq_false_iff, Bool.and_eq_false_iff, decide_eq_false_iff_not, beq_eq_false_iff_ne]
  omega

/-- A number is written as a word. -/
theorem isWord_ofNat (n : Nat) : IsWord (Decimal.ofNat n) := by
  obtain ⟨nonempty, digits, -⟩ :=
    Decimal.readDigits?_eq_some_iff.mp (Decimal.readDigits?_repr n)
  exact ⟨nonempty, fun c member => isBlank_of_isDigit (digits c member)⟩

theorem Decimal.SignedNumeral.solid {text : List Char} {value : Int}
    (numeral : Decimal.SignedNumeral text value) : text ≠ [] ∧ ∀ c ∈ text, isBlank c = false := by
  obtain ⟨sign, digits, rfl, nonempty, areDigits, signed⟩ := numeral
  have noBlankSign : ∀ c ∈ sign, isBlank c = false := by
    rcases signed with ⟨rfl | rfl, -⟩ | ⟨rfl, -⟩ <;> simp <;> decide
  refine ⟨List.append_ne_nil_of_right_ne_nil sign nonempty, fun c member => ?_⟩
  rcases List.mem_append.mp member with inSign | inDigits
  · exact noBlankSign c inSign
  · exact isBlank_of_isDigit (areDigits c inDigits)

theorem isWord_ofInt (n : Int) : IsWord (Decimal.ofInt n) :=
  (Decimal.signedNumeral_ofInt n).solid

/-! ### Words that come back -/

namespace Chars

theorem consWord_append (word : List Char) (words more : List (List Char)) :
    consWord word (words ++ more) = consWord word words ++ more := by
  unfold consWord
  split <;> rfl

/-- Words that are already closed stay behind those that are still to come. -/
theorem foldr_fieldsStep_append (cs : List Char) (words : List (List Char)) :
    cs.foldr fieldsStep ([], words) =
      ((cs.foldr fieldsStep ([], [])).1, (cs.foldr fieldsStep ([], [])).2 ++ words) := by
  induction cs with
  | nil => rfl
  | cons c cs ih =>
      rw [List.foldr_cons, List.foldr_cons, ih]
      unfold fieldsStep
      split
      · rw [consWord_append]
      · rfl

/-- **A blank divides the fields of a text.** -/
theorem fields_append_cons {c : Char} (blank : isBlank c = true) (cs rest : List Char) :
    fields (cs ++ c :: rest) = fields cs ++ fields rest := by
  have closed : (c :: rest).foldr fieldsStep ([], []) = ([], fields rest) := by
    rw [List.foldr_cons, fieldsStep, if_pos blank]
    rfl
  rw [fields, List.foldr_append, closed, foldr_fieldsStep_append]
  exact consWord_append _ _ _

theorem fields_cons_blank {c : Char} (blank : isBlank c = true) (rest : List Char) :
    fields (c :: rest) = fields rest :=
  fields_append_cons blank [] rest

section Words

variable {word : List Char} (solid : ∀ c ∈ word, isBlank c = false)

include solid

theorem foldr_fieldsStep_word (pending : List Char × List (List Char)) :
    word.foldr fieldsStep pending = (word ++ pending.1, pending.2) := by
  induction word with
  | nil => rfl
  | cons c rest ih =>
      rw [List.forall_mem_cons] at solid
      rw [List.foldr_cons, ih solid.2, fieldsStep, if_neg (Bool.eq_false_iff.mp solid.1)]
      rfl

theorem fields_word (nonempty : word ≠ []) : fields word = [word] := by
  rw [fields, foldr_fieldsStep_word solid, List.append_nil]
  exact if_neg (mt List.isEmpty_iff.mp nonempty)

theorem fields_append_blank (nonempty : word ≠ []) {c : Char} (blank : isBlank c = true)
    (rest : List Char) : fields (word ++ c :: rest) = word :: fields rest := by
  rw [fields_append_cons blank, fields_word solid nonempty, List.singleton_append]

/-- Trimming at the start stops at a word. -/
theorem trimStart_word_append (nonempty : word ≠ []) (rest : List Char) :
    trimStart (word ++ rest) = word ++ rest := by
  obtain ⟨first, others, rfl⟩ := List.exists_cons_of_ne_nil nonempty
  exact List.dropWhile_cons_of_neg (Bool.eq_false_iff.mp (solid first List.mem_cons_self))

/-- Trimming at the end stops at a word. -/
theorem trimEnd_word_append (nonempty : word ≠ []) (rest : List Char) :
    trimEnd (word ++ rest) = word ++ trimEnd rest := by
  have kept : word.reverse.dropWhile isBlank = word.reverse := by
    obtain ⟨last, before, reversed⟩ :=
      List.exists_cons_of_ne_nil (mt List.reverse_eq_nil_iff.mp nonempty)
    have notBlank : ¬ isBlank last = true := by
      rw [solid last (List.mem_reverse.mp (reversed ▸ List.mem_cons_self ..))]
      exact Bool.false_ne_true
    rw [reversed, List.dropWhile_cons_of_neg notBlank]
  unfold trimEnd
  rw [List.reverse_append, List.dropWhile_append, kept]
  split
  · rename_i allBlank
    rw [List.isEmpty_iff.mp allBlank]
    simp
  · simp

end Words

theorem head?_trimEnd {cs : List Char} {c : Char} (first : (trimEnd cs).head? = some c) :
    cs.head? = some c := by
  have start : trimEnd cs <+: cs := by
    have behind := List.dropWhile_suffix isBlank (l := cs.reverse)
    rw [← List.reverse_prefix, List.reverse_reverse] at behind
    exact behind
  obtain ⟨behind, parts⟩ := start
  rw [← parts, List.head?_append, first, Option.some_or]

/-- What trimming removes is blank. -/
theorem exists_padding (cs : List Char) :
    ∃ before after, cs = before ++ trim cs ++ after ∧ (∀ c ∈ before, isBlank c = true) ∧
      ∀ c ∈ after, isBlank c = true := by
  have start : cs.takeWhile isBlank ++ trimStart cs = cs := List.takeWhile_append_dropWhile
  have ends : trim cs ++ ((trimStart cs).reverse.takeWhile isBlank).reverse = trimStart cs := by
    rw [trim, trimEnd, ← List.reverse_append, List.takeWhile_append_dropWhile, List.reverse_reverse]
  refine ⟨cs.takeWhile isBlank, ((trimStart cs).reverse.takeWhile isBlank).reverse, ?_,
    fun c member => List.mem_takeWhile_imp member, fun c member => ?_⟩
  · rw [List.append_assoc, ends, start]
  · exact List.mem_takeWhile_imp (List.mem_reverse.mp member)

section Padding

variable {blanks : List Char} (blank : ∀ c ∈ blanks, isBlank c = true)

include blank

theorem trim_blanks_append (cs : List Char) : trim (blanks ++ cs) = trim cs := by
  rw [trim, trimStart, List.dropWhile_append_of_pos blank]
  rfl

theorem trimEnd_append_blanks (cs : List Char) : trimEnd (cs ++ blanks) = trimEnd cs := by
  have reversed : ∀ c ∈ blanks.reverse, isBlank c = true :=
    fun c member => blank c (List.mem_reverse.mp member)
  rw [trimEnd, List.reverse_append, List.dropWhile_append_of_pos reversed]
  rfl

theorem trim_append_blanks (cs : List Char) : trim (cs ++ blanks) = trim cs := by
  have nothing : blanks.dropWhile isBlank = [] := List.dropWhile_eq_nil_iff.mpr blank
  rw [trim, trim, trimStart, trimStart, List.dropWhile_append]
  split
  · rename_i allBlank
    rw [nothing, List.isEmpty_iff.mp allBlank]
  · exact trimEnd_append_blanks blank _

theorem fields_blanks_append (cs : List Char) : fields (blanks ++ cs) = fields cs := by
  induction blanks with
  | nil => rfl
  | cons c rest ih =>
      rw [List.forall_mem_cons] at blank
      rw [List.cons_append, fields_cons_blank blank.1, ih blank.2]

theorem fields_append_blanks (cs : List Char) : fields (cs ++ blanks) = fields cs := by
  cases blanks with
  | nil => rw [List.append_nil]
  | cons c rest =>
      rw [List.forall_mem_cons] at blank
      have none := fields_blanks_append blank.2 []
      rw [List.append_nil] at none
      rw [fields_append_cons blank.1, none]
      exact List.append_nil _

end Padding

/-- The words of a text, cut at its blanks. -/
inductive Splits : List Char → List (List Char) → Prop where
  /-- There is no word among blanks. -/
  | blanks {cs : List Char} (blank : ∀ c ∈ cs, isBlank c = true) : Splits cs []
  /-- A word begins behind blanks, and ends with the text or at the next blank. -/
  | word {before word rest : List Char} {words : List (List Char)}
      (blank : ∀ c ∈ before, isBlank c = true) (nonempty : word ≠ [])
      (solid : ∀ c ∈ word, isBlank c = false) (ends : ∀ c, rest.head? = some c → isBlank c = true)
      (others : Splits rest words) : Splits (before ++ word ++ rest) (word :: words)

theorem Splits.cons_blank {c : Char} (blank : isBlank c = true) {cs : List Char}
    {words : List (List Char)} (splits : Splits cs words) : Splits (c :: cs) words := by
  cases splits with
  | blanks others => exact .blanks (List.forall_mem_cons.mpr ⟨blank, others⟩)
  | @word before first rest words others nonempty solid ends behind =>
      have padded : ∀ other ∈ c :: before, isBlank other = true :=
        List.forall_mem_cons.mpr ⟨blank, others⟩
      exact .word padded nonempty solid ends behind

theorem splits_fields (cs : List Char) : Splits cs (fields cs) := by
  have none : ∀ c ∈ ([] : List Char), isBlank c = true := fun _ member => absurd member List.not_mem_nil
  induction cs using divided_induction isBlank with
  | whole cs free =>
      by_cases empty : cs = []
      · rw [empty]
        exact .blanks none
      · have alone : Splits ([] ++ cs ++ []) [cs] :=
          .word none empty free (fun _ first => nomatch first) (.blanks none)
        rw [List.append_nil] at alone
        rw [fields_word free empty]
        exact alone
  | divided cs separator rest free blank ih =>
      by_cases empty : cs = []
      · rw [empty, List.nil_append, fields_cons_blank blank]
        exact ih.cons_blank blank
      · rw [fields_append_blank free empty blank]
        refine .word none empty free (fun c first => ?_) (ih.cons_blank blank)
        rw [← Option.some.inj first]
        exact blank

theorem Splits.solid {cs : List Char} {words : List (List Char)} (splits : Splits cs words) :
    ∀ word ∈ words, word ≠ [] ∧ ∀ c ∈ word, isBlank c = false := by
  induction splits with
  | blanks blank => exact fun _ member => absurd member List.not_mem_nil
  | word blank nonempty solid ends others ih => exact List.forall_mem_cons.mpr ⟨⟨nonempty, solid⟩, ih⟩

/-- **The fields of a text are its words, cut at the blanks.** -/
theorem fields_eq_iff {cs : List Char} {words : List (List Char)} :
    fields cs = words ↔ Splits cs words := by
  refine ⟨fun divided => divided ▸ splits_fields cs, fun splits => ?_⟩
  induction splits with
  | blanks blank => exact fields_append_blanks blank []
  | @word before word rest words blank nonempty solid ends others ih =>
      rw [List.append_assoc, fields_blanks_append blank]
      cases rest with
      | nil =>
          rw [List.append_nil, fields_word solid nonempty, ← ih]
          rfl
      | cons c rest =>
          have next := ends c rfl
          rw [fields_append_blank solid nonempty next, ← ih, fields_cons_blank next]

/-- **A text without padding is its first field, and then nothing or a blank.** -/
theorem trim_of_fields {cs first : List Char} {more : List (List Char)}
    (divided : fields cs = first :: more) :
    ∃ rest, trim cs = first ++ rest ∧ ∀ c, rest.head? = some c → isBlank c = true := by
  cases fields_eq_iff.mp divided with
  | @word before _ rest _ blank nonempty solid ends others =>
      refine ⟨trimEnd rest, ?_, fun c head => ends c (head?_trimEnd head)⟩
      rw [List.append_assoc, trim_blanks_append blank, trim, trimStart_word_append solid nonempty,
        trimEnd_word_append solid nonempty]

/-- **Padding belongs to no field.** -/
theorem fields_trim (cs : List Char) : fields (trim cs) = fields cs := by
  obtain ⟨before, after, padded, blankBefore, blankAfter⟩ := exists_padding cs
  have inside := (fields_append_blanks blankAfter (before ++ trim cs)).trans
    (fields_blanks_append blankBefore (trim cs))
  rw [← padded] at inside
  exact inside.symm

/-- **A word comes back from between blanks.** -/
theorem trim_padded {before word after : List Char} (blankBefore : ∀ c ∈ before, isBlank c = true)
    (blankAfter : ∀ c ∈ after, isBlank c = true) (solid : ∀ c ∈ word, isBlank c = false)
    (nonempty : word ≠ []) : trim (before ++ word ++ after) = word := by
  have starts := trimStart_word_append solid nonempty []
  have ends := trimEnd_word_append solid nonempty []
  rw [List.append_nil] at starts ends
  rw [trim_append_blanks blankAfter, trim_blanks_append blankBefore, trim, starts, ends]
  exact List.append_nil word

/-- A text between two characters that are no blanks has no padding. -/
theorem trim_between {first last : Char} (starts : isBlank first = false)
    (ends : isBlank last = false) (middle : List Char) :
    trim (first :: (middle ++ [last])) = first :: (middle ++ [last]) := by
  have start : trimStart (first :: (middle ++ [last])) = first :: (middle ++ [last]) :=
    List.dropWhile_cons_of_neg (Bool.eq_false_iff.mp starts)
  rw [trim, start, trimEnd, ← List.cons_append, List.reverse_append, List.reverse_singleton,
    List.singleton_append, List.dropWhile_cons_of_neg (Bool.eq_false_iff.mp ends),
    List.reverse_cons, List.reverse_reverse]

end Chars

/-- The words of a text, cut at its blanks. -/
def Splits (s : String) (words : List String) : Prop :=
  Chars.Splits s.toList (words.map String.toList)

theorem fields_eq_iff {s : String} {words : List String} : fields s = words ↔ Splits s words := by
  rw [Splits, ← Chars.fields_eq_iff, fields]
  constructor
  · rintro rfl
    simp [Function.comp_def]
  · intro divided
    simp [divided, Function.comp_def]

/-- **Every field of a text is a word.** -/
theorem isWord_of_mem_fields {s field : String} (member : field ∈ fields s) : IsWord field := by
  obtain ⟨word, known, rfl⟩ := List.mem_map.mp member
  unfold IsWord
  rw [String.toList_ofList]
  exact (Chars.splits_fields s.toList).solid word known

theorem fields_of_isWord {s : String} (word : IsWord s) : fields s = [s] := by
  rw [fields, Chars.fields_word word.2 word.1, List.map_singleton, String.ofList_toList]

theorem fields_append_space {s : String} (word : IsWord s) (rest : String) :
    fields (s ++ " " ++ rest) = s :: fields rest := by
  have divided : (s ++ " " ++ rest).toList = s.toList ++ ' ' :: rest.toList := by simp
  rw [fields, divided, Chars.fields_append_blank word.2 word.1 (by decide), List.map_cons,
    String.ofList_toList]
  rfl

theorem fields_trim (s : String) : fields (trim s) = fields s := by
  rw [fields, trim, String.toList_ofList, Chars.fields_trim]
  rfl

/-- A text without padding begins with its first field, and a blank follows if anything does. -/
theorem toList_trim_of_fields {s first : String} {more : List String}
    (divided : fields s = first :: more) :
    ∃ rest, (trim s).toList = first.toList ++ rest ∧ ∀ c, rest.head? = some c → isBlank c = true := by
  obtain ⟨word, others, isFields, rfl, -⟩ := List.map_eq_cons_iff.mp divided
  rw [trim, String.toList_ofList, String.toList_ofList]
  exact Chars.trim_of_fields isFields

end SinglePath.Text
