/-
**The text of statistics tells them apart.**

A line of the text is a subject, a space and a count. Lines of different kinds can look alike, and
nothing marks where one section ends and the next begins. What a report gives has more structure:

* `Statistic.WellFormed` — the subject holds no newline and the count no blank, so a line is divided at its
  last space (`subject_figure_of_text_eq`);
* `Statistics.Ordered` — fetches come first, then one cycle count, then calls;
* `Statistics.normal_of_ofReport` — the statistics of a report are of this form;
* `Statistics.lines_text` — the lines of their text are the lines of the facts;
* `agrees_iff_entries_eq` — two reports agree exactly when they give the same facts.
-/

import SinglePath.Proofs.Report.Reading
import SinglePath.Proofs.Text.Lines
import SinglePath.Proofs.Text.Words

namespace SinglePath

/-! ### The line of a fact -/

namespace Statistic

/-- The sections of a report. -/
inductive Kind where
  | fetch
  | cycles
  | calls
  deriving DecidableEq, Repr

/-- The section that a fact is from. -/
def kind : Statistic → Kind
  | fetch _ _ => .fetch
  | cycles _ _ => .cycles
  | calls _ _ => .calls

/-- What stands before the count. -/
def subject : Statistic → String
  | fetch instruction _ => instruction
  | cycles label _ => label
  | calls function _ => function ++ "():"

/-- The count as it is written. -/
def figure : Statistic → String
  | fetch _ count => Text.Decimal.ofNat count
  | cycles _ count | calls _ count => count

/-- A line is a subject, a space and a count. -/
theorem toList_text (s : Statistic) :
    s.text.toList = s.subject.toList ++ ' ' :: s.figure.toList := by
  cases s <;> simp [text, subject, figure]

theorem ofNat_injective {m n : Nat} (same : Text.Decimal.ofNat m = Text.Decimal.ofNat n) : m = n := by
  have read := congrArg (fun text => Text.Decimal.readDigits? text.toList) same
  simp only [Text.Decimal.ofNat, Text.Decimal.readDigits?_repr] at read
  exact Option.some.inj read

/-- Facts of one kind are told apart by subject and count. -/
theorem eq_of_kind_eq {s t : Statistic} (sameKind : s.kind = t.kind)
    (sameSubject : s.subject = t.subject) (sameFigure : s.figure = t.figure) : s = t := by
  cases s with
  | fetch instruction count =>
      cases t with
      | fetch instruction' count' =>
          exact congrArg₂ fetch sameSubject (ofNat_injective sameFigure)
      | cycles | calls => cases sameKind
  | cycles label count =>
      cases t with
      | cycles label' count' => exact congrArg₂ cycles sameSubject sameFigure
      | fetch | calls => cases sameKind
  | calls function count =>
      cases t with
      | calls function' count' =>
          have names := congrArg String.toList sameSubject
          simp only [subject, String.toList_append] at names
          exact congrArg₂ calls (String.toList_inj.mp (List.append_cancel_right names)) sameFigure
      | fetch | cycles => cases sameKind

/-- The line of a fact is one line, and its count is a word. -/
structure WellFormed (s : Statistic) : Prop where
  oneLine : '\n' ∉ s.subject.toList
  counted : Text.IsWord s.figure

namespace WellFormed

theorem newline_not_mem {s : Statistic} (wellFormed : s.WellFormed) : '\n' ∉ s.text.toList := by
  rw [toList_text, List.mem_append, List.mem_cons, not_or, not_or]
  exact ⟨wellFormed.oneLine, by decide, wellFormed.counted.not_mem (by decide)⟩

/-- The last character of a line belongs to the count, so it is no carriage return. -/
theorem getLast?_ne {s : Statistic} (wellFormed : s.WellFormed) :
    s.text.toList.getLast? ≠ some '\r' := by
  rw [toList_text, ← List.concat_append]
  exact wellFormed.counted.getLast?_append_ne (by decide) _

end WellFormed

/-- **A line is divided in one way**: at its last space. -/
theorem subject_figure_of_text_eq {s t : Statistic} (first : s.WellFormed) (second : t.WellFormed)
    (same : s.text = t.text) : s.subject = t.subject ∧ s.figure = t.figure := by
  have lines := congrArg (fun text => text.toList.reverse) same
  simp only [toList_text, List.reverse_append, List.reverse_cons, List.append_assoc,
    List.singleton_append] at lines
  have noSpace : ∀ {u : Statistic}, u.WellFormed → ∀ c ∈ u.figure.toList.reverse, c ≠ ' ' := by
    rintro u wellFormed c member rfl
    exact wellFormed.counted.not_mem (by decide) (List.mem_reverse.mp member)
  obtain ⟨figures, -, subjects⟩ :=
    Report.split_first_unique (· = ' ') lines (noSpace first) rfl (noSpace second) rfl
  exact ⟨String.toList_inj.mp (List.reverse_injective subjects),
    String.toList_inj.mp (List.reverse_injective figures)⟩

end Statistic

/-! ### The facts of a report -/

namespace Statistics

/-- Fetches, one cycle count, and calls, in this order. -/
inductive Ordered : List Statistic → Prop where
  | fetch {s : Statistic} {rest : List Statistic} (isFetch : s.kind = .fetch)
      (later : Ordered rest) : Ordered (s :: rest)
  | cycles {s : Statistic} {calls : List Statistic} (isCycles : s.kind = .cycles)
      (later : ∀ t ∈ calls, t.kind = .calls) : Ordered (s :: calls)

theorem ordered_append {fetches rest : List Statistic} (isFetch : ∀ s ∈ fetches, s.kind = .fetch)
    (later : Ordered rest) : Ordered (fetches ++ rest) := by
  induction fetches with
  | nil => exact later
  | cons s fetches ih =>
      rw [List.forall_mem_cons] at isFetch
      exact .fetch isFetch.1 (ih isFetch.2)

theorem Ordered.exists_cycles {entries : List Statistic} (ordered : Ordered entries) :
    ∃ s ∈ entries, s.kind = .cycles := by
  induction ordered with
  | fetch _ _ ih =>
      obtain ⟨s, member, isCycles⟩ := ih
      exact ⟨s, List.mem_cons_of_mem _ member, isCycles⟩
  | cycles isCycles _ => exact ⟨_, List.mem_cons_self .., isCycles⟩

end Statistics

namespace Report

theorem trim_subset (s : String) : (Text.trim s).toList ⊆ s.toList := by
  unfold Text.trim Text.Chars.trim Text.Chars.trimEnd Text.Chars.trimStart
  rw [String.toList_ofList]
  intro c member
  have inStart := (List.dropWhile_sublist _).subset (List.mem_reverse.mp member)
  exact (List.dropWhile_sublist _).subset (List.mem_reverse.mp inStart)

/-- What holds of whatever a related element stands for holds of all of them. -/
theorem forall_mem_of_forall₂ {α β : Type} {R : α → β → Prop} {P : β → Prop} {as : List α}
    {bs : List β} (related : List.Forall₂ R as bs) (each : ∀ a ∈ as, ∀ b, R a b → P b) :
    ∀ b ∈ bs, P b := by
  induction related with
  | nil => exact fun _ member => absurd member List.not_mem_nil
  | cons head _ ih =>
      rw [List.forall_mem_cons] at each ⊢
      exact ⟨each.1 _ head, ih each.2⟩

theorem FetchRow.wellFormed {line : String} {s : Statistic} (row : FetchRow line s) :
    s.WellFormed := by
  obtain ⟨fields, -, -, -⟩ := row
  have word := Text.isWord_of_mem_fields (fields ▸ List.mem_cons_self ..)
  exact ⟨word.not_mem (by decide), Text.isWord_ofNat _⟩

theorem CycleRow.wellFormed {line : String} {s : Statistic} (row : CycleRow line s) :
    s.WellFormed := by
  obtain ⟨fields⟩ := row
  have label := Text.isWord_of_mem_fields (fields ▸ List.mem_cons_self ..)
  have count := Text.isWord_of_mem_fields (fields ▸ List.mem_cons_of_mem _ (List.mem_cons_self ..))
  exact ⟨label.not_mem (by decide), count⟩

/-- The name of a function is part of a line, so it holds no newline. -/
theorem Profile.Denotes.wellFormed {p : Profile} {s : Statistic} (denotes : p.Denotes s)
    (oneLine : '\n' ∉ p.opening.toList) : s.WellFormed := by
  obtain ⟨opens, -, -, fields⟩ := denotes
  rename_i name after count more
  refine ⟨?_, Text.isWord_of_mem_fields (fields ▸ List.mem_cons_self ..)⟩
  simp only [Statistic.subject, String.toList_append, String.toList_ofList, List.mem_append, not_or]
  refine ⟨fun newline => oneLine (trim_subset _ ?_), by decide⟩
  rw [opens]
  exact List.mem_cons_of_mem _ (List.mem_append_left _ newline)

/-- **The facts of a report are well-formed and in order.** -/
theorem Layout.Denotes.normal {l : Layout} {entries : List Statistic} (denotes : l.Denotes entries)
    (oneLine : ∀ line ∈ l.lines, '\n' ∉ line.toList) :
    (∀ s ∈ entries, s.WellFormed) ∧ Statistics.Ordered entries := by
  obtain ⟨fetches, cycle, calls, rfl, rows, cycles, profiles⟩ := denotes.entries
  have openings : ∀ p ∈ l.profiles, '\n' ∉ p.opening.toList := by
    intro p member
    refine oneLine p.opening ?_
    have inProfiles : p.opening ∈ l.profiles.flatMap Profile.lines :=
      List.mem_flatMap.mpr ⟨p, member, List.mem_cons_self ..⟩
    simp only [Layout.lines, List.mem_append, List.mem_cons]
    simp only [inProfiles, true_or, or_true]
  constructor
  · rw [List.forall_mem_append, List.forall_mem_cons]
    exact ⟨forall_mem_of_forall₂ rows fun _ _ _ row => row.wellFormed, cycles.wellFormed,
      forall_mem_of_forall₂ profiles fun p member _ denotes => denotes.wellFormed (openings p member)⟩
  · refine Statistics.ordered_append ?_ (.cycles ?_ ?_)
    · exact forall_mem_of_forall₂ rows fun _ _ _ row => by cases row; rfl
    · cases cycles
      rfl
    · exact forall_mem_of_forall₂ profiles fun _ _ _ denotes => by cases denotes; rfl

end Report

namespace Statistics

/-- The statistics of a report are well-formed and in order. -/
theorem normal_of_ofReport {raw : String} {s : Statistics} (read : ofReport raw = .ok s) :
    (∀ entry ∈ s.entries, entry.WellFormed) ∧ Ordered s.entries := by
  rw [ofReport, Report.read_eq_ok_iff, Report.map_text_numbered] at read
  obtain ⟨layout, lines, denotes⟩ := read
  refine denotes.normal fun line member => ?_
  rw [lines] at member
  exact Text.newline_not_mem_of_mem_lines member

theorem text_eq_join (s : Statistics) :
    s.text = String.join ((s.entries.map Statistic.text).map (· ++ "\n")) := by
  rw [List.map_map]
  rfl

/-- **The lines of the text are the lines of the facts.** -/
theorem lines_text {s : Statistics} (wellFormed : ∀ entry ∈ s.entries, entry.WellFormed) :
    Text.lines s.text = s.entries.map Statistic.text := by
  rw [text_eq_join]
  refine Text.lines_terminated ?_ ?_
  · exact List.forall_mem_map.mpr fun entry member => (wellFormed entry member).newline_not_mem
  · exact List.forall_mem_map.mpr fun entry member => (wellFormed entry member).getLast?_ne

end Statistics

/-! ### Facts from lines -/

/-- Facts of one kind are told apart by their lines. -/
theorem eq_of_text_eq {s t : Statistic} (first : s.WellFormed) (second : t.WellFormed)
    (sameKind : s.kind = t.kind) (same : s.text = t.text) : s = t := by
  obtain ⟨subjects, figures⟩ := Statistic.subject_figure_of_text_eq first second same
  exact Statistic.eq_of_kind_eq sameKind subjects figures

/-- A fact whose line cannot be that of calls: it is no cycle count with a label that ends like
them. -/
def Statistic.Plain (s : Statistic) : Prop :=
  s.kind = .cycles → ¬ "():".toList <:+ s.subject.toList

/-- A cycle count does not stand among the calls of another report. -/
theorem not_mem_lines_of_calls {cycle : Statistic} {calls : List Statistic}
    (wellFormed : cycle.WellFormed) (isCycles : cycle.kind = .cycles) (plain : cycle.Plain)
    (wellFormed' : ∀ s ∈ calls, s.WellFormed) (isCalls : ∀ s ∈ calls, s.kind = .calls) :
    cycle.text ∉ calls.map Statistic.text := by
  intro member
  obtain ⟨call, known, same⟩ := List.mem_map.mp member
  obtain ⟨subjects, -⟩ :=
    Statistic.subject_figure_of_text_eq (wellFormed' call known) wellFormed same
  cases call with
  | fetch | cycles => cases isCalls _ known
  | calls function count =>
      refine plain isCycles ⟨function.toList, ?_⟩
      rw [← subjects, Statistic.subject, String.toList_append]

/-- Facts with a cycle count among them do not have the lines of calls. -/
theorem Statistics.Ordered.lines_ne_calls {entries calls : List Statistic} (ordered : Ordered entries)
    (wellFormed : ∀ s ∈ entries, s.WellFormed) (plain : ∀ s ∈ entries, s.Plain)
    (wellFormed' : ∀ s ∈ calls, s.WellFormed) (isCalls : ∀ s ∈ calls, s.kind = .calls) :
    entries.map Statistic.text ≠ calls.map Statistic.text := by
  intro same
  obtain ⟨cycle, member, isCycles⟩ := ordered.exists_cycles
  refine not_mem_lines_of_calls (wellFormed cycle member) isCycles (plain cycle member) wellFormed'
    isCalls ?_
  rw [← same]
  exact List.mem_map_of_mem member

/-- Calls are told apart by their lines. -/
theorem calls_eq_of_lines_eq {calls calls' : List Statistic}
    (wellFormed : ∀ s ∈ calls, s.WellFormed) (wellFormed' : ∀ s ∈ calls', s.WellFormed)
    (isCalls : ∀ s ∈ calls, s.kind = .calls) (isCalls' : ∀ s ∈ calls', s.kind = .calls)
    (same : calls.map Statistic.text = calls'.map Statistic.text) : calls = calls' := by
  induction calls generalizing calls' with
  | nil => exact (List.map_eq_nil_iff.mp same.symm).symm
  | cons call rest ih =>
      obtain ⟨call', rest', rfl, head, tail⟩ := List.map_eq_cons_iff.mp same.symm
      rw [List.forall_mem_cons] at wellFormed wellFormed' isCalls isCalls'
      rw [eq_of_text_eq wellFormed.1 wellFormed'.1 (isCalls.1.trans isCalls'.1.symm) head.symm,
        ih wellFormed.2 wellFormed'.2 isCalls.2 isCalls'.2 tail.symm]

/-- **Facts in order are told apart by their lines.** The cycle count cannot stand at two places: the later
one would be among the calls of the other report. -/
theorem Statistics.Ordered.eq_of_lines_eq {entries entries' : List Statistic}
    (ordered : Ordered entries) (ordered' : Ordered entries')
    (wellFormed : ∀ s ∈ entries, s.WellFormed) (wellFormed' : ∀ s ∈ entries', s.WellFormed)
    (plain : ∀ s ∈ entries, s.Plain) (plain' : ∀ s ∈ entries', s.Plain)
    (same : entries.map Statistic.text = entries'.map Statistic.text) : entries = entries' := by
  -- along the first list; where only one of the two has come to its cycle count, the lines differ
  induction ordered generalizing entries' with
  | @fetch s rest isFetch later ih =>
      rw [List.forall_mem_cons] at wellFormed plain
      cases ordered' with
      | @fetch s' rest' isFetch' later' =>
          rw [List.forall_mem_cons] at wellFormed' plain'
          injection same with head tail
          rw [eq_of_text_eq wellFormed.1 wellFormed'.1 (isFetch.trans isFetch'.symm) head,
            ih later' wellFormed.2 wellFormed'.2 plain.2 plain'.2 tail]
      | @cycles s' calls' isCycles' isCalls' =>
          rw [List.forall_mem_cons] at wellFormed'
          injection same with _ tail
          exact absurd tail (later.lines_ne_calls wellFormed.2 plain.2 wellFormed'.2 isCalls')
  | @cycles s calls isCycles isCalls =>
      rw [List.forall_mem_cons] at wellFormed
      cases ordered' with
      | @fetch s' rest' isFetch' later' =>
          rw [List.forall_mem_cons] at wellFormed' plain'
          injection same with _ tail
          exact absurd tail.symm (later'.lines_ne_calls wellFormed'.2 plain'.2 wellFormed.2 isCalls)
      | @cycles s' calls' isCycles' isCalls' =>
          rw [List.forall_mem_cons] at wellFormed'
          injection same with head tail
          rw [eq_of_text_eq wellFormed.1 wellFormed'.1 (isCycles.trans isCycles'.symm) head,
            calls_eq_of_lines_eq wellFormed.2 wellFormed'.2 isCalls isCalls' tail]

theorem plain_of_labels {entries : List Statistic}
    (labels : ∀ label count, .cycles label count ∈ entries → ¬ "():".toList <:+ label.toList) :
    ∀ s ∈ entries, s.Plain := by
  intro s member isCycles
  cases s with
  | fetch | calls => cases isCycles
  | cycles label count => exact labels label count member

/-- **Two reports agree exactly when they give the same facts**, if the labels of their cycle counts do not
end like the lines of calls: no two different lists of facts have the same text. -/
theorem agrees_iff_entries_eq {raw raw' : String} {s t : Statistics}
    (read : Statistics.ofReport raw = .ok s) (read' : Statistics.ofReport raw' = .ok t)
    (labels : ∀ label count, .cycles label count ∈ s.entries → ¬ "():".toList <:+ label.toList)
    (labels' : ∀ label count, .cycles label count ∈ t.entries → ¬ "():".toList <:+ label.toList) :
    s.agrees t = true ↔ s.entries = t.entries := by
  obtain ⟨wellFormed, ordered⟩ := Statistics.normal_of_ofReport read
  obtain ⟨wellFormed', ordered'⟩ := Statistics.normal_of_ofReport read'
  constructor
  · intro agree
    have texts : s.text = t.text := beq_iff_eq.mp agree
    have lines := congrArg Text.lines texts
    rw [Statistics.lines_text wellFormed, Statistics.lines_text wellFormed'] at lines
    exact ordered.eq_of_lines_eq ordered' wellFormed wellFormed' (plain_of_labels labels)
      (plain_of_labels labels') lines
  · intro same
    unfold Statistics.agrees Statistics.text
    rw [same]
    exact beq_self_eq_true _

/-- A report with an instruction that is named like the cycle count. -/
def reportOfFetches : String :=
  "Instruction Statistics:\n\nCycles: 5 0 0 7\nall:\nCycles: 7\n" ++
    "Profiling information:\n\n\n\n"

/-- A report with a function. -/
def reportOfCalls : String :=
  "Instruction Statistics:\n\nall:\nCycles: 12\n" ++
    "Profiling information:\n\n\n\n<f>\n\n7\n"

/-- A fetch count whose line is that of a cycle count does not hide where the cycle count is. -/
theorem agrees_iff_entries_eq_alike_lines :
    ∃ s t : Statistics,
      Statistics.ofReport reportOfFetches = .ok s ∧ Statistics.ofReport reportOfCalls = .ok t ∧
      s.entries = [.fetch "Cycles:" 12, .cycles "Cycles:" "7"] ∧
      t.entries = [.cycles "Cycles:" "12", .calls "f" "7"] ∧
      (s.agrees t = true ↔ s.entries = t.entries) := by
  have read : Statistics.ofReport reportOfFetches =
      .ok ⟨[.fetch "Cycles:" 12, .cycles "Cycles:" "7"]⟩ := by rfl
  have read' : Statistics.ofReport reportOfCalls =
      .ok ⟨[.cycles "Cycles:" "12", .calls "f" "7"]⟩ := by rfl
  refine ⟨_, _, read, read', rfl, rfl, agrees_iff_entries_eq read read' ?_ ?_⟩
  · intro label count member
    simp only [List.mem_cons, reduceCtorEq, Statistic.cycles.injEq, List.not_mem_nil, or_false,
      false_or] at member
    rw [member.1]
    decide
  · intro label count member
    simp only [List.mem_cons, reduceCtorEq, Statistic.cycles.injEq, List.not_mem_nil, or_false]
      at member
    rw [member.1]
    decide

end SinglePath
