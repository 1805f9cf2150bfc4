/-
**Reading a unified diff back.**

`Patch.read?` reads a patch from its text alone: two labels, then sections, each a header with the
edits below it. Lines end at a newline and nowhere else.

* `Section.read?_headerText` — the header of a hunk is read as the places of its two sides;
* `readSections?_texts` — the lines of hunks are read as those hunks;
* `read?_unified` — the diff of two texts with different lines is read as the patch of their script;
* `unified_isPatch` — a diff is empty exactly when the lines are the same; any other turns the old lines
  into the new ones, and reversed the new ones into the old ones.
-/

import SinglePath.Proofs.Diff.Patch
import SinglePath.Proofs.Text.Lines
import SinglePath.Proofs.Text.Numeral

namespace SinglePath.Diff

open Text

/-! ### The reader -/

/-- Reads a line of a section: a marker, and the line of the edit. -/
def Edit.read? : List Char → Option Edit
  | ' ' :: line => some (.keep (String.ofList line))
  | '-' :: line => some (.remove (String.ofList line))
  | '+' :: line => some (.add (String.ofList line))
  | _ => none

/-- Reads the start and the length of a side. -/
def readRange? (text : List Char) : Option (Nat × Nat) :=
  match Chars.pieces ',' text with
  | [start, length] =>
    match Decimal.readDigits? start, Decimal.readDigits? length with
    | some start, some length => some (start, length)
    | _, _ => none
  | _ => none

/-- Reads the header of a section, with the edits that stand below it. -/
def Section.read? (header : List Char) (edits : List Edit) : Option Section :=
  match Chars.pieces ' ' header with
  | [['@', '@'], '-' :: old, '+' :: new, ['@', '@']] =>
    match readRange? old, readRange? new with
    | some (oldStart, oldLength), some (newStart, newLength) =>
      some ⟨oldStart, oldLength, newStart, newLength, edits⟩
    | _, _ => none
  | _ => none

/-- Reads the lines of sections, the last line first: the edits whose header is still to come, and the
sections behind them. -/
def readSections? : List (List Char) → Option (List Edit × List Section)
  | [] => some ([], [])
  | line :: rest =>
    match readSections? rest with
    | none => none
    | some (edits, sections) =>
      match Edit.read? line with
      | some edit => some (edit :: edits, sections)
      | none => (Section.read? line edits).map fun s => ([], s :: sections)

/-- Reads a patch: every line ends in a newline, the first two are the labels, and every edit stands
below a header. -/
def Patch.read? (text : String) : Option Patch :=
  match Chars.pieces '\n' text.toList with
  | ('-' :: '-' :: '-' :: ' ' :: oldLabel) :: ('+' :: '+' :: '+' :: ' ' :: newLabel) :: lines =>
    if lines.getLast? = some [] then
      match readSections? lines.dropLast with
      | some ([], sections) => some ⟨String.ofList oldLabel, String.ofList newLabel, sections⟩
      | _ => none
    else none
  | _ => none

/-! ### The lines of a hunk -/

/-- The line of an edit, without its newline. -/
def Edit.text : Edit → List Char
  | keep line => ' ' :: line.toList
  | remove line => '-' :: line.toList
  | add line => '+' :: line.toList

theorem Edit.toList_render (edit : Edit) : edit.render.toList = edit.text ++ ['\n'] := by
  cases edit <;> simp [Edit.render, Edit.marker, Edit.line, Edit.text]

theorem Edit.read?_text (edit : Edit) : Edit.read? edit.text = some edit := by
  cases edit <;> simp only [Edit.text, Edit.read?, String.ofList_toList]

theorem Edit.newline_not_mem_text {edit : Edit} (oneLine : '\n' ∉ edit.line.toList) :
    '\n' ∉ edit.text := by
  cases edit <;> exact List.not_mem_cons_of_ne_of_not_mem (by decide) oneLine

/-- A side of a hunk as its header gives it. -/
def rangeText (before length : Nat) : List Char :=
  (startLine before length).repr.toList ++ ',' :: length.repr.toList

theorem toList_renderRange (before length : Nat) :
    (renderRange before length).toList = rangeText before length := by
  unfold renderRange rangeText Decimal.ofNat
  rw [String.toList_append, String.toList_append, List.append_assoc]
  rfl

/-- The start and the length of a side are read back. -/
theorem readRange?_rangeText (before length : Nat) :
    readRange? (rangeText before length) = some (startLine before length, length) := by
  unfold readRange? rangeText
  rw [Chars.pieces_append_separator (Decimal.not_mem_repr (by decide) _),
    Chars.pieces_of_not_mem (Decimal.not_mem_repr (by decide) _)]
  simp only [Decimal.readDigits?_repr]

theorem not_mem_rangeText {c : Char} (notDigit : c.isDigit = false) (notComma : c ≠ ',')
    (before length : Nat) : c ∉ rangeText before length := by
  unfold rangeText
  rw [List.mem_append, List.mem_cons, not_or, not_or]
  exact ⟨Decimal.not_mem_repr notDigit _, notComma, Decimal.not_mem_repr notDigit _⟩

/-- The header of a hunk, without its newline. -/
def Hunk.headerText (h : Hunk) : List Char :=
  ['@', '@'] ++ ' ' :: (('-' :: rangeText h.oldBefore h.oldLength) ++
    ' ' :: (('+' :: rangeText h.newBefore h.newLength) ++ ' ' :: ['@', '@']))

theorem Hunk.toList_header (h : Hunk) : h.header.toList = h.headerText ++ ['\n'] := by
  unfold Hunk.header Hunk.headerText
  simp only [String.toList_append, toList_renderRange, List.append_assoc, List.cons_append]
  rfl

/-- **The header of a hunk is read back.** -/
theorem Section.read?_headerText (h : Hunk) :
    Section.read? h.headerText h.edits = some (Section.ofHunk h) := by
  have old : ' ' ∉ '-' :: rangeText h.oldBefore h.oldLength := by
    rw [List.mem_cons, not_or]
    exact ⟨by decide, not_mem_rangeText (by decide) (by decide) _ _⟩
  have new : ' ' ∉ '+' :: rangeText h.newBefore h.newLength := by
    rw [List.mem_cons, not_or]
    exact ⟨by decide, not_mem_rangeText (by decide) (by decide) _ _⟩
  unfold Section.read? Hunk.headerText
  rw [Chars.pieces_append_separator (by decide), Chars.pieces_append_separator old,
    Chars.pieces_append_separator new, Chars.pieces_of_not_mem (by decide)]
  simp only [readRange?_rangeText]
  rfl

theorem Hunk.newline_not_mem_headerText (h : Hunk) : '\n' ∉ h.headerText := by
  have ranges := not_mem_rangeText (c := '\n') (by decide) (by decide)
  unfold Hunk.headerText
  simp [ranges]

/-- The lines of a hunk, without their newlines. -/
def Hunk.texts (h : Hunk) : List (List Char) :=
  h.headerText :: h.edits.map Edit.text

theorem Hunk.toList_render (h : Hunk) : h.render.toList = h.texts.flatMap (· ++ ['\n']) := by
  unfold Hunk.render Hunk.texts
  rw [String.toList_append, Hunk.toList_header, String.toList_join, List.flatMap_cons,
    List.flatMap_map, List.flatMap_map]
  simp only [Edit.toList_render]

theorem Hunk.newline_not_mem_of_mem_texts {h : Hunk}
    (oneLine : ∀ edit ∈ h.edits, '\n' ∉ edit.line.toList) {text : List Char} (member : text ∈ h.texts) :
    '\n' ∉ text := by
  rcases List.mem_cons.mp member with rfl | member
  · exact h.newline_not_mem_headerText
  · obtain ⟨edit, listed, rfl⟩ := List.mem_map.mp member
    exact Edit.newline_not_mem_text (oneLine edit listed)

/-- The lines of edits are read as those edits, in front of the edits below them. -/
theorem readSections?_edits {lines : List (List Char)} {below : List Edit}
    {sections : List Section} (read : readSections? lines = some (below, sections))
    (edits : List Edit) :
    readSections? (edits.map Edit.text ++ lines) = some (edits ++ below, sections) := by
  induction edits with
  | nil => exact read
  | cons edit edits ih =>
      rw [List.map_cons, List.cons_append, readSections?, ih]
      simp only [Edit.read?_text, List.cons_append]

/-- **The lines of hunks are read as those hunks.** -/
theorem readSections?_texts (hunks : List Hunk) :
    readSections? (hunks.flatMap Hunk.texts) = some ([], hunks.map Section.ofHunk) := by
  induction hunks with
  | nil => rfl
  | cons h hunks ih =>
      rw [List.flatMap_cons, Hunk.texts, List.cons_append, readSections?,
        readSections?_edits ih, List.append_nil]
      have header : Edit.read? h.headerText = none := rfl
      simp only [header, Section.read?_headerText, Option.map_some, List.map_cons]

/-! ### The whole diff -/

theorem toList_labels (oldLabel newLabel : String) :
    (labels oldLabel newLabel).toList =
      [['-', '-', '-', ' '] ++ oldLabel.toList, ['+', '+', '+', ' '] ++ newLabel.toList].flatMap
        (· ++ ['\n']) := by
  unfold labels
  simp only [String.toList_append, List.flatMap_cons, List.flatMap_nil, List.append_assoc,
    List.append_nil]
  rfl

/-- A rendered list of hunks is read back, if no line in it holds a newline. -/
theorem Patch.read?_rendered {oldLabel newLabel : String} {hunks : List Hunk}
    (oldOneLine : '\n' ∉ oldLabel.toList) (newOneLine : '\n' ∉ newLabel.toList)
    (oneLine : ∀ h ∈ hunks, ∀ edit ∈ h.edits, '\n' ∉ edit.line.toList) :
    Patch.read? (labels oldLabel newLabel ++ String.join (hunks.map Hunk.render)) =
      some ⟨oldLabel, newLabel, hunks.map Section.ofHunk⟩ := by
  have rendered : (labels oldLabel newLabel ++ String.join (hunks.map Hunk.render)).toList =
      ((['-', '-', '-', ' '] ++ oldLabel.toList) :: (['+', '+', '+', ' '] ++ newLabel.toList) ::
        hunks.flatMap Hunk.texts).flatMap (· ++ ['\n']) := by
    rw [String.toList_append, toList_labels, String.toList_join, List.flatMap_map]
    simp only [Hunk.toList_render, List.flatMap_cons, List.flatMap_nil, List.append_nil,
      List.append_assoc, List.flatMap_assoc]
  have free : ∀ text ∈ (['-', '-', '-', ' '] ++ oldLabel.toList) ::
      (['+', '+', '+', ' '] ++ newLabel.toList) :: hunks.flatMap Hunk.texts, '\n' ∉ text := by
    intro text member
    rcases List.mem_cons.mp member with rfl | member
    · simp [oldOneLine]
    rcases List.mem_cons.mp member with rfl | member
    · simp [newOneLine]
    obtain ⟨h, shown, member⟩ := List.mem_flatMap.mp member
    exact h.newline_not_mem_of_mem_texts (oneLine h shown) member
  unfold Patch.read?
  rw [rendered, Chars.pieces_terminated free]
  simp only [List.cons_append, List.nil_append, List.getLast?_append, List.getLast?_singleton,
    Option.some_or, if_true, List.dropLast_concat, readSections?_texts, String.ofList_toList]

/-- A hunk shows edits of its script. -/
theorem mem_of_mem_hunks {edits : List Edit} {h : Hunk} {edit : Edit} (shown : h ∈ hunks edits)
    (member : edit ∈ h.edits) : edit ∈ edits := by
  obtain ⟨span, -, rfl⟩ := List.mem_map.mp shown
  exact List.mem_of_mem_drop (List.mem_of_mem_take member)

theorem newline_not_mem_of_mem_script {old new : String} {edit : Edit}
    (member : edit ∈ script (Text.lines old) (Text.lines new)) : '\n' ∉ edit.line.toList := by
  rcases mem_lines_of_mem member with inOld | inNew
  · rw [oldLines_script] at inOld
    exact newline_not_mem_of_mem_lines inOld
  · rw [newLines_script] at inNew
    exact newline_not_mem_of_mem_lines inNew

theorem unified_of_same {old new : String} (same : Text.lines old = Text.lines new)
    (oldLabel newLabel : String) : unified old new oldLabel newLabel = "" := by
  unfold unified
  rw [hunks_eq_nil_iff.mpr ((script_unchanged_iff _ _).mpr same)]

theorem unified_of_ne {old new : String} (different : Text.lines old ≠ Text.lines new)
    (oldLabel newLabel : String) :
    unified old new oldLabel newLabel = labels oldLabel newLabel ++
      String.join ((hunks (script (Text.lines old) (Text.lines new))).map Hunk.render) := by
  unfold unified
  split
  · rename_i none
    exact absurd ((script_unchanged_iff _ _).mp (hunks_eq_nil_iff.mp none)) different
  · rfl

theorem labels_append_ne_empty (oldLabel newLabel rest : String) :
    labels oldLabel newLabel ++ rest ≠ "" := by
  intro empty
  have chars := congrArg String.toList empty
  rw [String.toList_append, toList_labels] at chars
  cases chars

/-- **The diff of two texts with different lines is read as the patch of their script.** -/
theorem read?_unified {old new oldLabel newLabel : String}
    (different : Text.lines old ≠ Text.lines new) (oldOneLine : '\n' ∉ oldLabel.toList)
    (newOneLine : '\n' ∉ newLabel.toList) :
    Patch.read? (unified old new oldLabel newLabel) =
      some (Patch.ofScript oldLabel newLabel (script (Text.lines old) (Text.lines new))) := by
  rw [unified_of_ne different]
  exact Patch.read?_rendered oldOneLine newOneLine fun _ shown _ member =>
    newline_not_mem_of_mem_script (mem_of_mem_hunks shown member)

/-- **A diff is a patch that can be undone.** It is empty exactly when the texts have the same lines.
Any other one is read from its text alone as a patch with the given labels, which makes the new lines
of the old lines, and reversed the old lines of the new lines. -/
theorem unified_isPatch (old new oldLabel newLabel : String) (oldOneLine : '\n' ∉ oldLabel.toList)
    (newOneLine : '\n' ∉ newLabel.toList) :
    (unified old new oldLabel newLabel = "" ↔ Text.lines old = Text.lines new) ∧
      (Text.lines old ≠ Text.lines new →
        ∃ patch, Patch.read? (unified old new oldLabel newLabel) = some patch ∧
          patch.oldLabel = oldLabel ∧ patch.newLabel = newLabel ∧
          patch.apply (Text.lines old) = some (Text.lines new) ∧
          patch.reverse.apply (Text.lines new) = some (Text.lines old)) := by
  constructor
  · constructor
    · intro empty
      by_cases same : Text.lines old = Text.lines new
      · exact same
      · rw [unified_of_ne same] at empty
        exact absurd empty (labels_append_ne_empty _ _ _)
    · intro same
      exact unified_of_same same oldLabel newLabel
  · intro different
    have applied :=
      apply_hunks oldLabel newLabel (script (Text.lines old) (Text.lines new))
    have undone :=
      apply_reverse_hunks oldLabel newLabel (script (Text.lines old) (Text.lines new))
    rw [oldLines_script, newLines_script] at applied undone
    exact ⟨_, read?_unified different oldOneLine newOneLine, rfl, rfl, applied, undone⟩

/-- A removed line that looks like a label with its marker in front is still read as a line. -/
theorem unified_isPatch_removed_dashes :
    ∃ patch, Patch.read? (unified "-- b\na\n" "a\nc" "old" "new") = some patch ∧
      patch.apply ["-- b", "a"] = some ["a", "c"] ∧
      patch.reverse.apply ["a", "c"] = some ["-- b", "a"] := by
  obtain ⟨patch, read, -, -, applied, undone⟩ :=
    (unified_isPatch "-- b\na\n" "a\nc" "old" "new" (by decide) (by decide)).2 (by decide)
  exact ⟨patch, read, applied, undone⟩

end SinglePath.Diff
