/-
**Which statistics a report can give.**

* `Statistic.Reportable` — what a report can say in each of its sections: the names and counts that fit into
  its lines;
* `Layout.Denotes.reportable` — the facts of a report are of this kind;
* `Layout.ofStatistics`, `render` — a report that lays out given facts;
* `ofReport_render` — reading it gives the facts back, whatever their names are;
* `ofReport_image` — so the statistics of reports are the facts of this kind, in order, and no others.
-/

import SinglePath.Proofs.Report.Canonical

namespace SinglePath

/-- A fact that fits into a line of its section. -/
def Statistic.Reportable : Statistic → Prop
  | fetch instruction count =>
    Text.IsWord instruction ∧ ¬ Report.totalsMarker.toList <+: instruction.toList ∧
      count < UInt64.size
  | cycles label count =>
    Text.IsWord label ∧ Report.cyclesMarker.toList <+: label.toList ∧ Text.IsWord count
  | calls function count =>
    '>' ∉ function.toList ∧ '\n' ∉ function.toList ∧ Text.IsWord count

namespace Report

/-! ### What a report says -/

/-- A line begins with a marker when its first field does. -/
theorem begins_iff_of_fields {marker line first : String} {more : List String}
    (isWord : Text.IsWord marker) (divided : Text.fields line = first :: more) :
    Begins marker line ↔ marker.toList <+: first.toList := by
  obtain ⟨rest, trimmed, ends⟩ := Text.toList_trim_of_fields divided
  unfold Begins
  rw [trimmed]
  constructor
  · intro begins
    rcases Nat.le_total marker.toList.length first.toList.length with shorter | longer
    · exact List.prefix_of_prefix_length_le begins (List.prefix_append ..) shorter
    · -- a marker that is longer than the field would go on with a blank
      obtain ⟨behind, parts⟩ :=
        List.prefix_of_prefix_length_le (List.prefix_append first.toList rest) begins longer
      cases behind with
      | nil =>
          rw [List.append_nil] at parts
          exact parts ▸ List.prefix_rfl
      | cons c behind =>
          rw [← parts, List.prefix_append_right_inj] at begins
          obtain ⟨others, isRest⟩ := begins
          have blank := ends c (by rw [← isRest]; rfl)
          rw [isWord.2 c (by rw [← parts]; simp)] at blank
          cases blank
  · exact fun start => start.trans (List.prefix_append ..)

theorem FetchRow.reportable {line : String} {s : Statistic} (row : FetchRow line s)
    (noTotals : ¬ Begins totalsMarker line) : s.Reportable := by
  obtain ⟨fields, -, -, bound⟩ := row
  refine ⟨Text.isWord_of_mem_fields (fields ▸ List.mem_cons_self ..), fun start => noTotals ?_, bound⟩
  exact (begins_iff_of_fields (by decide) fields).mpr start

theorem CycleRow.reportable {line : String} {s : Statistic} (row : CycleRow line s)
    (isCycles : Begins cyclesMarker line) : s.Reportable := by
  obtain ⟨fields⟩ := row
  refine ⟨Text.isWord_of_mem_fields (fields ▸ List.mem_cons_self ..), ?_,
    Text.isWord_of_mem_fields (fields ▸ List.mem_cons_of_mem _ (List.mem_cons_self ..))⟩
  exact (begins_iff_of_fields (by decide) fields).mp isCycles

theorem Profile.Denotes.reportable {p : Profile} {s : Statistic} (denotes : p.Denotes s)
    (wellFormed : s.WellFormed) : s.Reportable := by
  obtain ⟨-, inside, -, -⟩ := denotes
  obtain ⟨oneLine, counted⟩ := wellFormed
  simp only [Statistic.subject, String.toList_append, List.mem_append, not_or] at oneLine
  exact ⟨by rwa [String.toList_ofList], oneLine.1, counted⟩

/-- **The facts of a report fit into its lines.** -/
theorem Layout.Denotes.reportable {l : Layout} {entries : List Statistic} (denotes : l.Denotes entries)
    (wellFormed : ∀ s ∈ entries, s.WellFormed) : ∀ s ∈ entries, s.Reportable := by
  obtain ⟨fetches, cycle, calls, rfl, rows, cycles, profiles⟩ := denotes.entries
  rw [List.forall_mem_append, List.forall_mem_cons] at wellFormed ⊢
  refine ⟨?_, cycles.reportable denotes.cycles, ?_⟩
  · exact forall_mem_of_forall₂ rows fun line member _ row => row.reportable (denotes.rows line member)
  · have each : ∀ s ∈ calls, s.WellFormed → s.Reportable :=
      forall_mem_of_forall₂ profiles fun _ _ _ denotes => denotes.reportable
    exact fun s member => each s member (wellFormed.2.2 s member)

/-! ### A report that says it -/

/-- The row of the instruction table for a fetch count. -/
def fetchRow? : Statistic → Option String
  | .fetch instruction count => some (instruction ++ " 0 0 0 " ++ Text.Decimal.ofNat count)
  | _ => none

/-- The line of a cycle count. -/
def cycleRow? : Statistic → Option String
  | .cycles label count => some (label ++ " " ++ count)
  | _ => none

/-- The profile of a function. -/
def profile? : Statistic → Option Profile
  | .calls function count => some ⟨"<" ++ function ++ ">", "", count⟩
  | _ => none

/-- A layout for given facts. -/
def Layout.ofStatistics (entries : List Statistic) : Layout where
  preamble := []
  header := instructionHeader
  columns := "operation #fetched #retired #discard #fetched"
  rows := entries.filterMap fetchRow?
  totals := totalsMarker
  beforeCycles := []
  cycles := (entries.findSome? cycleRow?).getD ""
  beforeProfiling := []
  profiling := profilingMarker
  firstTitle := ""
  secondTitle := "func cycles"
  thirdTitle := "count min max"
  profiles := entries.filterMap profile?
  remainder := []

/-- A report that says given facts. -/
def render (entries : List Statistic) : String :=
  String.join ((Layout.ofStatistics entries).lines.map (· ++ "\n"))

/-- A line that comes back from a text as it is. -/
def Whole (line : String) : Prop :=
  '\n' ∉ line.toList ∧ line.toList.getLast? ≠ some '\r'

theorem whole_append_word {before word : String} (oneLine : '\n' ∉ before.toList)
    (isWord : Text.IsWord word) : Whole (before ++ word) := by
  unfold Whole
  rw [String.toList_append, List.mem_append, not_or]
  exact ⟨⟨oneLine, isWord.not_mem (by decide)⟩, isWord.getLast?_append_ne (by decide) _⟩

/-! ### Line by line -/

section Rows

variable {s : Statistic} (reportable : s.Reportable)

include reportable

theorem fetchRow_of_fetchRow? {line : String} (row : fetchRow? s = some line) :
    FetchRow line s ∧ ¬ Begins totalsMarker line ∧ Whole line := by
  cases s with
  | cycles | calls => cases row
  | fetch instruction count =>
      cases row
      obtain ⟨word, noTotals, bound⟩ := reportable
      have zero : Text.IsWord "0" := Text.isWord_ofNat 0
      have divided : instruction ++ " 0 0 0 " ++ Text.Decimal.ofNat count = instruction ++ " " ++
          ("0" ++ " " ++ ("0" ++ " " ++ ("0" ++ " " ++ Text.Decimal.ofNat count))) := by
        apply String.toList_inj.mp
        simp
      have fields : Text.fields (instruction ++ " 0 0 0 " ++ Text.Decimal.ofNat count) =
          [instruction, "0", "0", "0", Text.Decimal.ofNat count] := by
        rw [divided, Text.fields_append_space word, Text.fields_append_space zero,
          Text.fields_append_space zero, Text.fields_append_space zero,
          Text.fields_of_isWord (Text.isWord_ofNat count)]
      refine ⟨?_, fun begins => noTotals ((begins_iff_of_fields (by decide) fields).mp begins), ?_⟩
      · have isRow := FetchRow.intro fields (Text.Decimal.numeral_ofNat 0)
          (Text.Decimal.numeral_ofNat count) (by rwa [Nat.zero_add])
        rwa [Nat.zero_add] at isRow
      · refine whole_append_word ?_ (Text.isWord_ofNat count)
        rw [String.toList_append, List.mem_append, not_or]
        exact ⟨word.not_mem (by decide), by decide⟩

theorem cycleRow_of_cycleRow? {line : String} (row : cycleRow? s = some line) :
    CycleRow line s ∧ Begins cyclesMarker line ∧ Whole line := by
  cases s with
  | fetch | calls => cases row
  | cycles label count =>
      cases row
      obtain ⟨word, isCycles, counted⟩ := reportable
      have fields : Text.fields (label ++ " " ++ count) = [label, count] := by
        rw [Text.fields_append_space word, Text.fields_of_isWord counted]
      refine ⟨.intro fields, (begins_iff_of_fields (by decide) fields).mpr isCycles, ?_⟩
      refine whole_append_word ?_ counted
      rw [String.toList_append, List.mem_append, not_or]
      exact ⟨word.not_mem (by decide), by decide⟩

/-- The closing bracket keeps whatever the name ends in. -/
theorem denotes_of_profile? {p : Profile} (profiled : profile? s = some p) :
    p.Denotes s ∧ ∀ line ∈ p.lines, Whole line := by
  cases s with
  | fetch | cycles => cases profiled
  | calls function count =>
      cases profiled
      obtain ⟨inside, oneLine, counted⟩ := reportable
      have opening : ("<" ++ function ++ ">").toList = '<' :: (function.toList ++ ['>']) := by simp
      have opens : (Text.trim ("<" ++ function ++ ">")).toList = '<' :: (function.toList ++ ['>']) := by
        rw [Text.trim, String.toList_ofList, opening, Text.Chars.trim_between (by decide) (by decide)]
      have denotes : Profile.Denotes ⟨"<" ++ function ++ ">", "", count⟩
          (.calls (String.ofList function.toList) count) :=
        .intro opens inside (Or.inr ⟨[], rfl⟩) (Text.fields_of_isWord counted)
      rw [String.ofList_toList] at denotes
      refine ⟨denotes, ?_⟩
      have named : Whole ("<" ++ function ++ ">") := by
        refine whole_append_word ?_ (by decide)
        rw [String.toList_append, List.mem_append, not_or]
        exact ⟨by decide, oneLine⟩
      have noFigures : Whole "" := ⟨by decide, by decide⟩
      have invoked : Whole count :=
        ⟨counted.not_mem (by decide), counted.getLast?_append_ne (by decide) []⟩
      rw [Profile.lines, List.forall_mem_cons, List.forall_mem_cons, List.forall_mem_singleton]
      exact ⟨named, noFigures, invoked⟩

end Rows

/-! ### The whole report -/

theorem forall₂_filterMap {α β : Type} {f : β → Option α} {R : α → β → Prop} {bs : List β}
    (each : ∀ b ∈ bs, ∃ a, f b = some a ∧ R a b) : List.Forall₂ R (bs.filterMap f) bs := by
  induction bs with
  | nil => exact .nil
  | cons b bs ih =>
      rw [List.forall_mem_cons] at each
      obtain ⟨⟨a, given, related⟩, later⟩ := each
      rw [List.filterMap_cons_some given]
      exact .cons related (ih later)

end Report

namespace Statistics

/-- The sections of facts in order. -/
theorem Ordered.exists_sections {entries : List Statistic} (ordered : Ordered entries) :
    ∃ fetches cycle calls, entries = fetches ++ cycle :: calls ∧
      (∀ s ∈ fetches, s.kind = .fetch) ∧ cycle.kind = .cycles ∧ ∀ s ∈ calls, s.kind = .calls := by
  induction ordered with
  | @fetch s rest isFetch later ih =>
      obtain ⟨fetches, cycle, calls, rfl, areFetches, others⟩ := ih
      exact ⟨s :: fetches, cycle, calls, rfl, List.forall_mem_cons.mpr ⟨isFetch, areFetches⟩, others⟩
  | @cycles s calls isCycles later => exact ⟨[], s, calls, rfl, by simp, isCycles, later⟩

end Statistics

namespace Report

theorem fetchRow?_eq_none_iff {s : Statistic} : fetchRow? s = none ↔ s.kind ≠ .fetch := by
  cases s <;> simp [fetchRow?, Statistic.kind]

theorem cycleRow?_eq_none_iff {s : Statistic} : cycleRow? s = none ↔ s.kind ≠ .cycles := by
  cases s <;> simp [cycleRow?, Statistic.kind]

theorem profile?_eq_none_iff {s : Statistic} : profile? s = none ↔ s.kind ≠ .calls := by
  cases s <;> simp [profile?, Statistic.kind]

section Sections

variable {fetches calls : List Statistic} {cycle : Statistic}
  (areFetches : ∀ s ∈ fetches, s.kind = .fetch) (isCycles : cycle.kind = .cycles)
  (areCalls : ∀ s ∈ calls, s.kind = .calls)

include areFetches isCycles areCalls

/-- Every section takes the facts of its kind. -/
theorem Layout.ofStatistics_sections :
    (Layout.ofStatistics (fetches ++ cycle :: calls)).rows = fetches.filterMap fetchRow? ∧
    (Layout.ofStatistics (fetches ++ cycle :: calls)).cycles = (cycleRow? cycle).getD "" ∧
    (Layout.ofStatistics (fetches ++ cycle :: calls)).profiles = calls.filterMap profile? := by
  have noRow : fetchRow? cycle = none := fetchRow?_eq_none_iff.mpr (by rw [isCycles]; decide)
  have noProfile : profile? cycle = none := profile?_eq_none_iff.mpr (by rw [isCycles]; decide)
  have noRows : calls.filterMap fetchRow? = [] := by
    refine List.filterMap_eq_nil_iff.mpr fun s member => fetchRow?_eq_none_iff.mpr ?_
    rw [areCalls s member]
    decide
  have noProfiles : fetches.filterMap profile? = [] := by
    refine List.filterMap_eq_nil_iff.mpr fun s member => profile?_eq_none_iff.mpr ?_
    rw [areFetches s member]
    decide
  have noCycles : fetches.findSome? cycleRow? = none := by
    refine List.findSome?_eq_none_iff.mpr fun s member => cycleRow?_eq_none_iff.mpr ?_
    rw [areFetches s member]
    decide
  obtain ⟨line, isLine⟩ : ∃ line, cycleRow? cycle = some line := by
    refine Option.ne_none_iff_exists'.mp fun none => ?_
    exact cycleRow?_eq_none_iff.mp none isCycles
  simp only [Layout.ofStatistics, List.filterMap_append, List.findSome?_append,
    List.filterMap_cons_none noRow, List.filterMap_cons_none noProfile, noRows, noProfiles, noCycles,
    List.findSome?_cons, isLine, List.append_nil, List.nil_append, Option.none_or, and_self]

end Sections

theorem fetchRows_of_reportable {fetches : List Statistic}
    (areFetches : ∀ s ∈ fetches, s.kind = .fetch) (reportable : ∀ s ∈ fetches, s.Reportable) :
    List.Forall₂ FetchRow (fetches.filterMap fetchRow?) fetches ∧
    ∀ line ∈ fetches.filterMap fetchRow?, ¬ Begins totalsMarker line ∧ Whole line := by
  constructor
  · refine forall₂_filterMap fun s member => ?_
    obtain ⟨line, row⟩ := Option.ne_none_iff_exists'.mp fun none =>
      fetchRow?_eq_none_iff.mp none (areFetches s member)
    exact ⟨line, row, (fetchRow_of_fetchRow? (reportable s member) row).1⟩
  · intro line member
    obtain ⟨s, known, row⟩ := List.mem_filterMap.mp member
    exact (fetchRow_of_fetchRow? (reportable s known) row).2

theorem profiles_of_reportable {calls : List Statistic} (areCalls : ∀ s ∈ calls, s.kind = .calls)
    (reportable : ∀ s ∈ calls, s.Reportable) :
    List.Forall₂ Profile.Denotes (calls.filterMap profile?) calls ∧
    ∀ line ∈ (calls.filterMap profile?).flatMap Profile.lines, Whole line := by
  constructor
  · refine forall₂_filterMap fun s member => ?_
    obtain ⟨p, profiled⟩ := Option.ne_none_iff_exists'.mp fun none =>
      profile?_eq_none_iff.mp none (areCalls s member)
    exact ⟨p, profiled, (denotes_of_profile? (reportable s member) profiled).1⟩
  · intro line member
    obtain ⟨p, known, inProfile⟩ := List.mem_flatMap.mp member
    obtain ⟨s, isCall, profiled⟩ := List.mem_filterMap.mp known
    exact (denotes_of_profile? (reportable s isCall) profiled).2 line inProfile

theorem trim_markers :
    ∀ marker ∈ [instructionHeader, totalsMarker, profilingMarker], Text.trim marker = marker := by
  have plain : ∀ marker ∈ [instructionHeader, totalsMarker, profilingMarker],
      Text.Chars.trim marker.toList = marker.toList := by
    decide
  intro marker member
  rw [Text.trim, plain marker member, String.ofList_toList]

theorem begins_of_trim {marker : String} (plain : Text.trim marker = marker) : Begins marker marker :=
  ⟨[], by rw [plain, List.append_nil]⟩

/-- **The layout of reportable facts denotes them**, and its lines come back from a text. -/
theorem Layout.denotes_ofStatistics {entries : List Statistic} (ordered : Statistics.Ordered entries)
    (reportable : ∀ s ∈ entries, s.Reportable) :
    (Layout.ofStatistics entries).Denotes entries ∧
    ∀ line ∈ (Layout.ofStatistics entries).lines, Whole line := by
  obtain ⟨fetches, cycle, calls, rfl, areFetches, isCycles, areCalls⟩ := ordered.exists_sections
  obtain ⟨rows, cycles, profiles⟩ := Layout.ofStatistics_sections areFetches isCycles areCalls
  rw [List.forall_mem_append, List.forall_mem_cons] at reportable
  obtain ⟨fetchesReportable, cycleReportable, callsReportable⟩ := reportable
  obtain ⟨table, eachRow⟩ := fetchRows_of_reportable areFetches fetchesReportable
  obtain ⟨profiled, eachProfile⟩ := profiles_of_reportable areCalls callsReportable
  obtain ⟨line, isLine⟩ := Option.ne_none_iff_exists'.mp fun none =>
    cycleRow?_eq_none_iff.mp none isCycles
  obtain ⟨cycleRow, begins, wholeCycles⟩ := cycleRow_of_cycleRow? cycleReportable isLine
  rw [isLine, Option.getD_some] at cycles
  constructor
  · exact {
      preamble := fun _ member => absurd member List.not_mem_nil
      header := trim_markers instructionHeader (by simp)
      rows := fun line member => (eachRow line (rows ▸ member)).1
      totals := begins_of_trim (trim_markers totalsMarker (by simp))
      beforeCycles := fun _ member => absurd member List.not_mem_nil
      cycles := cycles ▸ begins
      beforeProfiling := fun _ member => absurd member List.not_mem_nil
      profiling := begins_of_trim (trim_markers profilingMarker (by simp))
      remainder := fun _ member => absurd member (Option.not_mem_none _)
      entries := ⟨fetches, cycle, calls, rfl, rows ▸ table, cycles ▸ cycleRow, profiles ▸ profiled⟩ }
  · have fixed : ∀ line ∈ [instructionHeader, "operation #fetched #retired #discard #fetched",
        totalsMarker, profilingMarker, "", "func cycles", "count min max"], Whole line := by
      unfold Whole
      decide
    simp only [List.forall_mem_cons] at fixed
    obtain ⟨header, columns, totals, profiling, first, second, third, -⟩ := fixed
    unfold Layout.lines
    rw [rows, cycles, profiles]
    simp only [Layout.ofStatistics, List.nil_append, List.append_nil, List.forall_mem_cons,
      List.forall_mem_append]
    exact ⟨header, columns, fun line member => (eachRow line member).2, totals, wholeCycles,
      profiling, first, second, third, eachProfile⟩

/-- **A rendered report is read back.** -/
theorem ofReport_render {entries : List Statistic} (ordered : Statistics.Ordered entries)
    (reportable : ∀ s ∈ entries, s.Reportable) :
    Statistics.ofReport (render entries) = .ok ⟨entries⟩ := by
  obtain ⟨denotes, whole⟩ := Layout.denotes_ofStatistics ordered reportable
  rw [Statistics.ofReport, read_eq_ok_iff, map_text_numbered]
  refine ⟨_, ?_, denotes⟩
  rw [render, Text.lines_terminated (fun line member => (whole line member).1)
    (fun line member => (whole line member).2)]

/-- **The statistics of reports** are the reportable facts in order: fetches, one cycle count, and calls. -/
theorem ofReport_image (entries : List Statistic) :
    ((∃ raw, Statistics.ofReport raw = .ok ⟨entries⟩) ↔
      Statistics.Ordered entries ∧ ∀ s ∈ entries, s.Reportable) ∧
    (Statistics.Ordered entries → (∀ s ∈ entries, s.Reportable) →
      Statistics.ofReport (render entries) = .ok ⟨entries⟩) := by
  refine ⟨⟨?_, fun normal => ⟨render entries, ofReport_render normal.1 normal.2⟩⟩, ofReport_render⟩
  rintro ⟨raw, read⟩
  obtain ⟨wellFormed, ordered⟩ := Statistics.normal_of_ofReport read
  rw [Statistics.ofReport, read_eq_ok_iff] at read
  obtain ⟨layout, -, denotes⟩ := read
  exact ⟨ordered, denotes.reportable wellFormed⟩

end Report

end SinglePath
