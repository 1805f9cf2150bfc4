/-
**Pieces and lines: what dividing a text gives.**

* `divided_induction`, `line_induction` — a property of all texts is shown along their separators;
* `pieces_append_separator`, `pieces_of_not_mem` — texts without the separator come back as they were
  joined;
* `not_mem_of_mem_pieces` — no piece holds the separator;
* `pieces_terminated`, `pieces_intercalate` — texts that each end in a separator come back, with an empty piece
  behind them, and so do texts that are joined by separators;
* `newline_not_mem_of_mem_lines` — no line of a text holds a newline;
* `lines_terminated` — texts that each end in a newline come back as lines, unless a carriage return gets
  lost.
-/

import SinglePath.Text.Lines

namespace SinglePath.Text

namespace Chars

/-- Every text is without separators, or it is divided by its first one. -/
theorem divided_induction (isSeparator : Char → Bool) {motive : List Char → Prop}
    (whole : ∀ cs, (∀ c ∈ cs, isSeparator c = false) → motive cs)
    (divided : ∀ cs separator rest, (∀ c ∈ cs, isSeparator c = false) →
      isSeparator separator = true → motive rest → motive (cs ++ separator :: rest))
    (cs : List Char) : motive cs := by
  -- a text is read up to its end with the part before the next separator kept aside
  suffices behind : ∀ before, (∀ c ∈ before, isSeparator c = false) → motive (before ++ cs) from
    behind [] (fun _ member => absurd member List.not_mem_nil)
  induction cs with
  | nil =>
      intro before free
      rw [List.append_nil]
      exact whole before free
  | cons c rest ih =>
      intro before free
      by_cases separates : isSeparator c = true
      · exact divided before c rest free separates
          (ih [] fun _ member => absurd member List.not_mem_nil)
      · rw [← List.singleton_append, ← List.append_assoc]
        refine ih (before ++ [c]) fun other member => ?_
        rcases List.mem_append.mp member with earlier | last
        · exact free other earlier
        · rw [List.mem_singleton.mp last]
          exact Bool.eq_false_iff.mpr separates

/-- Every text is one line without an ending, or begins with a line. -/
theorem line_induction {motive : List Char → Prop} (last : ∀ line, '\n' ∉ line → motive line)
    (line : ∀ line rest, '\n' ∉ line → motive rest → motive (line ++ '\n' :: rest))
    (cs : List Char) : motive cs := by
  have oneLine : ∀ {cs : List Char}, (∀ c ∈ cs, (c == '\n') = false) → '\n' ∉ cs :=
    fun free member => Bool.noConfusion (free _ member)
  refine divided_induction (· == '\n') (fun cs free => last cs (oneLine free)) ?_ cs
  intro cs separator rest free separates shown
  rw [beq_iff_eq.mp separates]
  exact line cs rest (oneLine free) shown

theorem pieces_cons (separator c : Char) (cs : List Char) :
    pieces separator (c :: cs) = piecesStep separator c (pieces separator cs) :=
  rfl

/-- Another character than the separator joins the first piece. -/
theorem piecesStep_of_ne {separator c : Char} (other : c ≠ separator) (piece : List Char)
    (rest : List (List Char)) :
    piecesStep separator c (piece :: rest) = (c :: piece) :: rest := by
  unfold piecesStep
  rw [if_neg other]

theorem piecesStep_self (separator : Char) (rest : List (List Char)) :
    piecesStep separator separator rest = [] :: rest := by
  unfold piecesStep
  rw [if_pos rfl]

/-- A text up to the first separator is the first piece. -/
theorem pieces_append_separator {separator : Char} {piece : List Char} (free : separator ∉ piece)
    (rest : List Char) :
    pieces separator (piece ++ separator :: rest) = piece :: pieces separator rest := by
  induction piece with
  | nil => exact piecesStep_self separator _
  | cons c cs ih =>
      rw [List.mem_cons, not_or] at free
      rw [List.cons_append, pieces_cons, ih free.2, piecesStep_of_ne (Ne.symm free.1)]

/-- A text without the separator is one piece. -/
theorem pieces_of_not_mem {separator : Char} {piece : List Char} (free : separator ∉ piece) :
    pieces separator piece = [piece] := by
  induction piece with
  | nil => rfl
  | cons c cs ih =>
      rw [List.mem_cons, not_or] at free
      rw [pieces_cons, ih free.2, piecesStep_of_ne (Ne.symm free.1)]

/-- No piece holds the separator. -/
theorem not_mem_of_mem_pieces {separator : Char} {cs piece : List Char}
    (member : piece ∈ pieces separator cs) : separator ∉ piece := by
  induction cs generalizing piece with
  | nil =>
      rw [show pieces separator [] = [[]] from rfl, List.mem_singleton] at member
      rw [member]
      exact List.not_mem_nil
  | cons c cs ih =>
      rw [pieces_cons] at member
      by_cases same : c = separator
      · rw [same, piecesStep_self, List.mem_cons] at member
        rcases member with rfl | member
        · exact List.not_mem_nil
        · exact ih member
      · have notHere : separator ∉ [c] := by
          rw [List.mem_singleton]
          exact Ne.symm same
        cases divided : pieces separator cs with
        | nil =>
            rw [divided, piecesStep, if_neg same, List.mem_singleton] at member
            rw [member]
            exact notHere
        | cons first rest =>
            rw [divided, piecesStep_of_ne same, List.mem_cons] at member
            rcases member with rfl | member
            · rw [List.mem_cons, not_or]
              exact ⟨Ne.symm same, ih (divided ▸ List.mem_cons_self ..)⟩
            · exact ih (divided ▸ List.mem_cons_of_mem _ member)

/-- Texts that each end in a separator come back, with an empty piece behind them. -/
theorem pieces_terminated {separator : Char} {texts : List (List Char)}
    (free : ∀ text ∈ texts, separator ∉ text) :
    pieces separator (texts.flatMap (· ++ [separator])) = texts ++ [[]] := by
  induction texts with
  | nil => rfl
  | cons text texts ih =>
      rw [List.flatMap_cons, List.append_assoc, List.singleton_append,
        pieces_append_separator (free text (List.mem_cons_self ..)),
        ih fun other member => free other (List.mem_cons_of_mem _ member), List.cons_append]

/-- Texts that were joined by separators come back. -/
theorem pieces_intercalate {separator : Char} {texts : List (List Char)} (nonempty : texts ≠ [])
    (free : ∀ text ∈ texts, separator ∉ text) :
    pieces separator ([separator].intercalate texts) = texts := by
  induction texts with
  | nil => exact absurd rfl nonempty
  | cons text texts ih =>
      rw [List.forall_mem_cons] at free
      cases texts with
      | nil => rw [List.intercalate_singleton, pieces_of_not_mem free.1]
      | cons next others =>
          rw [List.intercalate_cons_cons, List.append_assoc, List.singleton_append,
            pieces_append_separator free.1, ih (List.cons_ne_nil _ _) free.2]

theorem dropReturn_subset (cs : List Char) : dropReturn cs ⊆ cs := by
  unfold dropReturn
  split
  · exact (List.dropLast_sublist cs).subset
  · exact List.Subset.refl cs

/-- Every line is a piece, or part of one. -/
theorem exists_piece_of_mem_linesOfPieces {pieces : List (List Char)} {line : List Char}
    (member : line ∈ linesOfPieces pieces) : ∃ piece ∈ pieces, line ⊆ piece := by
  induction pieces with
  | nil => exact absurd member List.not_mem_nil
  | cons first rest ih =>
      cases rest with
      | nil =>
          rw [linesOfPieces] at member
          split at member
          · exact absurd member List.not_mem_nil
          · exact ⟨line, member, List.Subset.refl line⟩
      | cons second others =>
          rw [linesOfPieces, List.mem_cons] at member
          · rcases member with rfl | member
            · exact ⟨first, List.mem_cons_self .., dropReturn_subset first⟩
            · obtain ⟨piece, known, part⟩ := ih member
              exact ⟨piece, List.mem_cons_of_mem _ known, part⟩
          · exact List.cons_ne_nil _ _

theorem pieces_ne_nil (separator : Char) (cs : List Char) : pieces separator cs ≠ [] := by
  cases cs with
  | nil => exact List.cons_ne_nil _ _
  | cons c cs =>
      rw [pieces_cons]
      unfold piecesStep
      split
      · exact List.cons_ne_nil _ _
      · split <;> exact List.cons_ne_nil _ _

/-- **A text up to its first newline is a line**, less the carriage return of its ending. -/
theorem lines_append_cons {line : List Char} (oneLine : '\n' ∉ line) (rest : List Char) :
    lines (line ++ '\n' :: rest) = dropReturn line :: lines rest := by
  unfold lines
  rw [pieces_append_separator oneLine]
  cases divided : pieces '\n' rest with
  | nil => exact absurd divided (pieces_ne_nil _ _)
  | cons piece others =>
      rw [linesOfPieces]
      exact List.cons_ne_nil _ _

theorem lines_of_not_mem {line : List Char} (oneLine : '\n' ∉ line) (nonempty : line ≠ []) :
    lines line = [line] := by
  rw [lines, pieces_of_not_mem oneLine]
  exact if_neg (mt List.isEmpty_iff.mp nonempty)

/-- A text up to its first newline is a line, if it does not end in a carriage return. -/
theorem lines_append_newline {line : List Char} (oneLine : '\n' ∉ line)
    (kept : line.getLast? ≠ some '\r') (rest : List Char) :
    lines (line ++ '\n' :: rest) = line :: lines rest := by
  rw [lines_append_cons oneLine, dropReturn, if_neg kept]

end Chars

/-- **No line of a text holds a newline.** -/
theorem newline_not_mem_of_mem_lines {text line : String} (member : line ∈ lines text) :
    '\n' ∉ line.toList := by
  obtain ⟨cs, known, rfl⟩ := List.mem_map.mp member
  obtain ⟨piece, divided, part⟩ := Chars.exists_piece_of_mem_linesOfPieces known
  rw [String.toList_ofList]
  exact fun newline => Chars.not_mem_of_mem_pieces divided (part newline)

/-- A text up to its first newline is a line, if it does not end in a carriage return. -/
theorem lines_append_newline {line : String} (oneLine : '\n' ∉ line.toList)
    (kept : line.toList.getLast? ≠ some '\r') (rest : String) :
    lines (line ++ "\n" ++ rest) = line :: lines rest := by
  have divided : (line ++ "\n" ++ rest).toList = line.toList ++ '\n' :: rest.toList := by
    simp
  unfold lines
  rw [divided, Chars.lines_append_newline oneLine kept, List.map_cons, String.ofList_toList]

/-- **Texts that each end in a newline come back as lines**, if none of them holds a newline or ends in a
carriage return. -/
theorem lines_terminated {texts : List String} (oneLine : ∀ text ∈ texts, '\n' ∉ text.toList)
    (kept : ∀ text ∈ texts, text.toList.getLast? ≠ some '\r') :
    lines (String.join (texts.map (· ++ "\n"))) = texts := by
  induction texts with
  | nil => rfl
  | cons text texts ih =>
      rw [List.forall_mem_cons] at oneLine kept
      rw [List.map_cons, String.join_cons, lines_append_newline oneLine.1 kept.1, ih oneLine.2 kept.2]

end SinglePath.Text
