/-
**How the hunks of a diff frame its changes.**

The spans of a script are found in one pass over its changes: each change is taken into the span in hand
when its context touches it, and opens a span of its own otherwise.

* `Span.Frames` — what holds of the span in hand: it reaches from the context of a first change to the
  context of a last one, and no two changes in a row between them are further apart than their contexts;
* `frames_around`, `Span.Frames.absorb` — a change alone frames itself, and a span keeps its frame when it
  takes in the next change;
* `shows_joinSpans`, `separated_joinSpans` — so every span ends in the context of its last change, and a
  line is left out between any two of them;
* `framing_spans` — the spans are complete, disjoint and as small as their contexts allow;
* `unified_framing` — so are the hunks of a diff, and only the hunk of an empty text has an empty side.
-/

import Mathlib.Data.List.Pairwise
import SinglePath.Proofs.Diff.RoundTrip

namespace SinglePath.Diff

/-! ### Changes in a row -/

/-- A change at a position of a script. -/
def ChangedAt (edits : List Edit) (position : Nat) : Prop :=
  ∃ edit, edits[position]? = some edit ∧ edit.isChange = true

theorem mem_changes_iff_changedAt {edits : List Edit} {position : Nat} :
    position ∈ changes 0 edits ↔ ChangedAt edits position :=
  mem_changes_zero_iff

theorem ChangedAt.lt_length {edits : List Edit} {position : Nat} (changed : ChangedAt edits position) :
    position < edits.length :=
  lt_length_of_mem_changes (mem_changes_iff_changedAt.mpr changed)

/-- Two changes with no change between them. -/
structure InRow (edits : List Edit) (first second : Nat) : Prop where
  firstChange : ChangedAt edits first
  secondChange : ChangedAt edits second
  ordered : first < second
  noneBetween : ∀ position, ChangedAt edits position → position ≤ first ∨ second ≤ position

/-- A change lies before a listed one, or is that one, or is listed behind it. -/
theorem ChangedAt.mem_of_changes_eq {edits : List Edit} {before after : List Nat} {position other : Nat}
    (changed : ChangedAt edits position) (listed : changes 0 edits = before ++ other :: after) :
    position < other ∨ position = other ∨ position ∈ after := by
  have member := mem_changes_iff_changedAt.mpr changed
  have increasing := changes_increasing 0 edits
  rw [listed] at member increasing
  rcases List.mem_append.mp member with early | late
  · exact Or.inl ((List.pairwise_append.mp increasing).2.2 position early other List.mem_cons_self)
  · exact Or.inr (List.mem_cons.mp late)

/-- The changes listed behind a change lie behind it. -/
theorem lt_of_changes_eq {edits : List Edit} {before after : List Nat} {position other : Nat}
    (listed : changes 0 edits = before ++ other :: after) (member : position ∈ after) :
    other < position := by
  have increasing := changes_increasing 0 edits
  rw [listed] at increasing
  obtain ⟨_, behind, _⟩ := List.pairwise_append.mp increasing
  exact (List.pairwise_cons.mp behind).1 position member

theorem changedAt_of_changes_eq {edits : List Edit} {before after : List Nat} {position : Nat}
    (listed : changes 0 edits = before ++ position :: after) : ChangedAt edits position :=
  mem_changes_iff_changedAt.mp (by rw [listed]; exact List.mem_append_right _ List.mem_cons_self)

/-- Neighbours in the list of changes are changes in a row. -/
theorem inRow_of_changes_eq {edits : List Edit} {before after : List Nat} {first second : Nat}
    (listed : changes 0 edits = before ++ first :: second :: after) : InRow edits first second := by
  have listedNext : changes 0 edits = (before ++ [first]) ++ second :: after := by
    rw [listed, List.append_assoc, List.singleton_append]
  refine ⟨changedAt_of_changes_eq listed, changedAt_of_changes_eq listedNext,
    lt_of_changes_eq listed List.mem_cons_self, fun position changed => ?_⟩
  rcases changed.mem_of_changes_eq listed with early | same | late
  · exact Or.inl (Nat.le_of_lt early)
  · exact Or.inl (Nat.le_of_eq same)
  · rcases List.mem_cons.mp late with same | late
    · exact Or.inr (Nat.le_of_eq same.symm)
    · exact Or.inr (Nat.le_of_lt (lt_of_changes_eq listedNext late))

/-- No change lies in an unchanged stretch. -/
theorem le_of_unchanged_between {edits : List Edit} {start stop position : Nat}
    (unchanged : Unchanged (between edits start stop)) (changed : ChangedAt edits position)
    (late : start ≤ position) : stop ≤ position := by
  by_contra early
  obtain ⟨edit, found, isChange⟩ := changed
  have here : (between edits start stop)[position - start]? = some edit := by
    unfold between
    rw [List.getElem?_take_of_lt (by omega), List.getElem?_drop, Nat.add_sub_cancel' late, found]
  have kept := unchanged edit (List.mem_of_getElem? here)
  rw [isChange] at kept
  cases kept

theorem length_between {edits : List Edit} {start stop : Nat} (inside : stop ≤ edits.length) :
    (between edits start stop).length = stop - start := by
  unfold between
  rw [List.length_take, List.length_drop]
  omega

/-- Two changes are in a row when the edits between them are all kept. -/
theorem inRow_of_unchanged_between {edits : List Edit} {first second : Nat}
    (firstChange : ChangedAt edits first) (secondChange : ChangedAt edits second)
    (ordered : first < second) (kept : Unchanged (between edits (first + 1) second)) :
    InRow edits first second := by
  refine ⟨firstChange, secondChange, ordered, fun position changed => ?_⟩
  by_cases early : position ≤ first
  · exact Or.inl early
  · exact Or.inr (le_of_unchanged_between kept changed (by omega))

/-! ### The span in hand -/

/-- A position inside a span. -/
def Span.Holds (span : Span) (position : Nat) : Prop :=
  span.start ≤ position ∧ position < span.stop

/-- The span reaches from the context before its first change to the context behind its last one, and
the contexts of any two changes in a row in it touch. -/
structure Span.Frames (edits : List Edit) (span : Span) (first last : Nat) : Prop where
  firstChange : ChangedAt edits first
  lastChange : ChangedAt edits last
  ordered : first ≤ last
  startsAt : span.start = first - context
  stopsAt : span.stop = min (last + 1 + context) edits.length
  lead : ∀ position, ChangedAt edits position → span.start ≤ position → first ≤ position
  close : ∀ i j, InRow edits i j → first ≤ i → j ≤ last → j ≤ i + 1 + 2 * context

/-- The span in hand when it is complete: its last change is the last one in it. -/
structure Span.Shows (edits : List Edit) (span : Span) (first last : Nat) : Prop
    extends Span.Frames edits span first last where
  trail : ∀ position, ChangedAt edits position → position < span.stop → position ≤ last

namespace Span.Frames

variable {edits : List Edit} {span : Span} {first last : Nat}

theorem start_le (frames : Frames edits span first last) : span.start ≤ first := by
  have := frames.startsAt
  omega

theorem lt_stop (frames : Frames edits span first last) : last < span.stop := by
  have := frames.stopsAt
  have := frames.lastChange.lt_length
  omega

theorem stop_le (frames : Frames edits span first last) : span.stop ≤ edits.length := by
  have := frames.stopsAt
  omega

/-- **A span that takes in the next change**, when the contexts touch. -/
theorem absorb {next : Nat} (frames : Frames edits span first last) (row : InRow edits last next)
    (touching : (around edits.length next).start ≤ span.stop) :
    Frames edits ⟨span.start, max span.stop (around edits.length next).stop⟩ first next where
  firstChange := frames.firstChange
  lastChange := row.secondChange
  ordered := Nat.le_of_lt (Nat.lt_of_le_of_lt frames.ordered row.ordered)
  startsAt := frames.startsAt
  stopsAt := by
    have stop := frames.stopsAt
    have ordered := row.ordered
    show max span.stop (min (next + 1 + context) edits.length) = min (next + 1 + context) edits.length
    omega
  lead := frames.lead
  close := by
    intro i j pair late early
    rcases pair.noneBetween last frames.lastChange with before | behind
    · -- the pair lies behind the old last change, so it is the pair of the old and the new one
      have same : j = next := by
        rcases row.noneBetween j pair.secondChange with tooEarly | notBefore
        · have := pair.ordered
          omega
        · omega
      have touching : next - context ≤ span.stop := touching
      have stop := frames.stopsAt
      omega
    · exact frames.close i j pair late behind

/-- A span is complete when the next change does not touch it. -/
theorem shows_of_apart {next : Nat} (frames : Frames edits span first last)
    (row : InRow edits last next) (apart : ¬ (around edits.length next).start ≤ span.stop) :
    Shows edits span first last where
  toFrames := frames
  trail := by
    intro position changed inside
    have apart : ¬ next - context ≤ span.stop := apart
    rcases row.noneBetween position changed with early | late
    · exact early
    · omega

/-- A span is complete when there is no change behind it. -/
theorem shows_of_last (frames : Frames edits span first last)
    (none : ∀ position, ChangedAt edits position → position ≤ last) : Shows edits span first last where
  toFrames := frames
  trail position changed _ := none position changed

end Span.Frames

/-- **A change alone frames itself**, when no other one lies in the context before it. -/
theorem frames_around {edits : List Edit} {position : Nat} (changed : ChangedAt edits position)
    (lead : ∀ other, ChangedAt edits other →
      (Span.around edits.length position).start ≤ other → position ≤ other) :
    Span.Frames edits (Span.around edits.length position) position position where
  firstChange := changed
  lastChange := changed
  ordered := Nat.le_refl position
  startsAt := rfl
  stopsAt := rfl
  lead := lead
  close i j pair late early := by
    have := pair.ordered
    omega

/-! ### One pass over the changes -/

/-- **Every span shows its changes.** The last change of the span in hand is followed by the changes that
are still to come. -/
theorem shows_joinSpans {edits : List Edit} {before positions : List Nat} {current : Span}
    {first last : Nat} (listed : changes 0 edits = before ++ last :: positions)
    (frames : Span.Frames edits current first last) :
    ∀ span ∈ joinSpans current (positions.map (Span.around edits.length)),
      ∃ first last, Span.Shows edits span first last := by
  induction positions generalizing before current first last with
  | nil =>
      intro span member
      rw [List.map_nil, joinSpans, List.mem_singleton] at member
      subst member
      refine ⟨first, last, frames.shows_of_last fun position changed => ?_⟩
      rcases changed.mem_of_changes_eq listed with early | same | none
      · exact Nat.le_of_lt early
      · exact Nat.le_of_eq same
      · cases none
  | cons next positions ih =>
      have row := inRow_of_changes_eq listed
      have listedNext : changes 0 edits = (before ++ [last]) ++ next :: positions := by
        rw [listed, List.append_assoc, List.singleton_append]
      rw [List.map_cons, joinSpans]
      split
      · rename_i touching
        exact ih listedNext (frames.absorb row touching)
      · rename_i apart
        have ends := frames.lt_stop
        refine List.forall_mem_cons.mpr ⟨⟨first, last, frames.shows_of_apart row apart⟩, ?_⟩
        refine ih listedNext (frames_around row.secondChange fun other changed late => ?_)
        rcases row.noneBetween other changed with early | late
        · omega
        · exact late

theorem start_le_of_mem_joinSpans {current : Span} {rest : List Span}
    (sorted : (current :: rest).Pairwise fun s t => s.start ≤ t.start) :
    ∀ span ∈ joinSpans current rest, current.start ≤ span.start := by
  induction rest generalizing current with
  | nil =>
      intro span member
      rw [joinSpans, List.mem_singleton] at member
      rw [member]
  | cons next rest ih =>
      obtain ⟨least, sortedRest⟩ := List.pairwise_cons.mp sorted
      obtain ⟨nextFirst, behind⟩ := List.forall_mem_cons.mp least
      rw [joinSpans]
      split
      · exact ih (List.pairwise_cons.mpr ⟨behind, (List.pairwise_cons.mp sortedRest).2⟩)
      · refine List.forall_mem_cons.mpr ⟨Nat.le_refl _, fun span member => ?_⟩
        exact Nat.le_trans nextFirst (ih sortedRest span member)

/-- **Between two spans something is left out.** -/
theorem separated_joinSpans {current : Span} {rest : List Span}
    (sorted : (current :: rest).Pairwise fun s t => s.start ≤ t.start) :
    (joinSpans current rest).Pairwise fun s t => s.stop < t.start := by
  induction rest generalizing current with
  | nil => exact List.pairwise_singleton _ _
  | cons next rest ih =>
      obtain ⟨least, sortedRest⟩ := List.pairwise_cons.mp sorted
      rw [joinSpans]
      split
      · have behind := (List.forall_mem_cons.mp least).2
        exact ih (List.pairwise_cons.mpr ⟨behind, (List.pairwise_cons.mp sortedRest).2⟩)
      · rename_i apart
        refine List.pairwise_cons.mpr ⟨fun span member => ?_, ih sortedRest⟩
        have := start_le_of_mem_joinSpans sortedRest span member
        omega

/-- Every span of a script shows changes. -/
theorem shows_spans (edits : List Edit) :
    ∀ span ∈ spans edits, ∃ first last, Span.Shows edits span first last := by
  unfold spans
  cases listed : changes 0 edits with
  | nil =>
      intro span member
      cases member
  | cons first positions =>
      have listedFirst : changes 0 edits = [] ++ first :: positions := listed
      have leads : ∀ other, ChangedAt edits other → first ≤ other := by
        intro other changed
        have member := mem_changes_iff_changedAt.mpr changed
        rw [listed] at member
        rcases List.mem_cons.mp member with same | later
        · exact Nat.le_of_eq same.symm
        · exact Nat.le_of_lt (lt_of_changes_eq listedFirst later)
      exact shows_joinSpans listedFirst
        (frames_around (changedAt_of_changes_eq listedFirst) fun other changed _ => leads other changed)

theorem separated_spans (edits : List Edit) :
    (spans edits).Pairwise fun s t => s.stop < t.start := by
  unfold spans
  cases listed : changes 0 edits with
  | nil => exact List.Pairwise.nil
  | cons first positions =>
      have increasing := changes_increasing 0 edits
      rw [listed] at increasing
      refine separated_joinSpans ?_
      rw [← List.map_cons, List.pairwise_map]
      refine increasing.imp fun {p q} less => ?_
      show p - context ≤ q - context
      omega

/-! ### What the spans of a script are -/

/-- A cut of a script into the stretches that are shown: complete, disjoint, and as small as three lines
of context around every change allow. -/
structure Framing (edits : List Edit) (spans : List Span) : Prop where
  /-- Every change is in exactly one stretch. -/
  complete : ∀ position, ChangedAt edits position →
    ∃! span, span ∈ spans ∧ span.Holds position
  /-- Every stretch lies inside the script. -/
  inside : ∀ span ∈ spans, span.start < span.stop ∧ span.stop ≤ edits.length
  /-- The stretches are in order, and an edit is left out between any two. -/
  separated : spans.Pairwise fun s t => s.stop < t.start
  /-- What is left out between a stretch and the next one is kept. -/
  omitted : spans.IsChain fun s t => Unchanged (between edits s.stop t.start)
  /-- Two changes with only kept lines between them are shown together exactly when these are six lines
  at most. -/
  together : ∀ first second, ChangedAt edits first → ChangedAt edits second → first < second →
    Unchanged (between edits (first + 1) second) →
    ((∃ span ∈ spans, span.Holds first ∧ span.Holds second) ↔
      (between edits (first + 1) second).length ≤ 6)
  /-- A stretch begins and ends with kept lines around its first and its last change, three on either
  side unless the script has fewer edits there. -/
  framed : ∀ span ∈ spans, ∃ first last, ChangedAt edits first ∧ ChangedAt edits last ∧
    span.start ≤ first ∧ first ≤ last ∧ last < span.stop ∧
    Unchanged (between edits span.start first) ∧
    (between edits span.start first).length = min 3 first ∧
    Unchanged (between edits (last + 1) span.stop) ∧
    (between edits (last + 1) span.stop).length = min 3 (edits.length - (last + 1))

theorem Covers.exists_span {edits : List Edit} {spans : List Span} {done position : Nat}
    (covers : Covers edits done spans) (changed : ChangedAt edits position) (late : done ≤ position) :
    ∃ span ∈ spans, span.Holds position := by
  induction spans generalizing done with
  | nil =>
      have unchanged : Unchanged (between edits done edits.length) := by
        rw [between_length]
        exact covers
      have := le_of_unchanged_between unchanged changed late
      have := changed.lt_length
      omega
  | cons span spans ih =>
      obtain ⟨_, _, _, before, covers⟩ := covers
      have starts := le_of_unchanged_between before changed late
      by_cases here : position < span.stop
      · exact ⟨span, List.mem_cons_self, starts, here⟩
      · obtain ⟨other, member, holds⟩ := ih covers (Nat.le_of_not_lt here)
        exact ⟨other, List.mem_cons_of_mem span member, holds⟩

theorem Covers.isChain {edits : List Edit} {spans : List Span} {done : Nat}
    (covers : Covers edits done spans) :
    spans.IsChain fun s t => Unchanged (between edits s.stop t.start) := by
  induction spans generalizing done with
  | nil => exact List.IsChain.nil
  | cons span spans ih =>
      obtain ⟨_, _, _, _, covers⟩ := covers
      cases spans with
      | nil => exact List.IsChain.singleton span
      | cons next spans => exact List.IsChain.cons_cons covers.2.2.2.1 (ih covers)

/-- Of two spans in order, one is the other or lies behind it. -/
theorem eq_or_apart {spans : List Span} (separated : spans.Pairwise fun s t => s.stop < t.start)
    {s t : Span} (first : s ∈ spans) (second : t ∈ spans) :
    s = t ∨ s.stop < t.start ∨ t.stop < s.start := by
  obtain ⟨i, inside, rfl⟩ := List.getElem_of_mem first
  obtain ⟨j, inside', rfl⟩ := List.getElem_of_mem second
  rcases Nat.lt_trichotomy i j with before | same | behind
  · exact Or.inr (Or.inl (List.pairwise_iff_getElem.mp separated i j inside inside' before))
  · subst same
    exact Or.inl rfl
  · exact Or.inr (Or.inr (List.pairwise_iff_getElem.mp separated j i inside' inside behind))

/-- Spans that lie behind each other hold a change in a row each only when it is out of reach of the
other. -/
theorem Span.Shows.far_of_apart {edits : List Edit} {s t : Span} {i j first last first' last' : Nat}
    (showsS : Span.Shows edits s first last) (showsT : Span.Shows edits t first' last')
    (apart : s.stop < t.start) (row : InRow edits i j) (holds : s.Holds i) (holds' : t.Holds j) :
    i + 1 + 2 * context < j := by
  -- the first of the two is the last change of its span, and the second the first one of its span
  have lastOf : last = i := by
    have reach := showsS.trail i row.firstChange holds.2
    have ends := showsS.lt_stop
    rcases row.noneBetween last showsS.lastChange with early | late
    · omega
    · have := holds'.1
      omega
  have firstOf : first' = j := by
    have reach := showsT.lead j row.secondChange holds'.1
    have starts := showsT.start_le
    rcases row.noneBetween first' showsT.firstChange with early | late
    · have := holds.2
      omega
    · omega
  have stop := showsS.stopsAt
  have start := showsT.startsAt
  have inside := row.secondChange.lt_length
  omega

/-- **The spans of a script frame its changes.** -/
theorem framing_spans (edits : List Edit) : Framing edits (spans edits) where
  complete position changed := by
    obtain ⟨span, member, holds⟩ := (covers_spans edits).exists_span changed (Nat.zero_le position)
    refine ⟨span, ⟨member, holds⟩, fun other ⟨otherMember, otherHolds⟩ => ?_⟩
    rcases eq_or_apart (separated_spans edits) otherMember member with same | before | behind
    · exact same
    · have := otherHolds.2
      have := holds.1
      omega
    · have := holds.2
      have := otherHolds.1
      omega
  inside span member := by
    obtain ⟨first, last, shows⟩ := shows_spans edits span member
    have := shows.start_le
    have := shows.ordered
    have := shows.lt_stop
    exact ⟨by omega, shows.stop_le⟩
  separated := separated_spans edits
  omitted := (covers_spans edits).isChain
  together first second firstChange secondChange ordered kept := by
    have row := inRow_of_unchanged_between firstChange secondChange ordered kept
    rw [length_between (Nat.le_of_lt secondChange.lt_length)]
    constructor
    · rintro ⟨span, member, holdsFirst, holdsSecond⟩
      obtain ⟨begin, finish, shows⟩ := shows_spans edits span member
      have near : second ≤ first + 1 + 2 * context :=
        shows.close first second row (shows.lead first firstChange holdsFirst.1)
          (shows.trail second secondChange holdsSecond.2)
      unfold context at near
      omega
    · intro near
      have covers := covers_spans edits
      obtain ⟨s, member, holdsFirst⟩ := covers.exists_span firstChange (Nat.zero_le first)
      obtain ⟨t, member', holdsSecond⟩ := covers.exists_span secondChange (Nat.zero_le second)
      rcases eq_or_apart (separated_spans edits) member member' with same | before | behind
      · subst same
        exact ⟨s, member, holdsFirst, holdsSecond⟩
      · obtain ⟨_, _, showsS⟩ := shows_spans edits s member
        obtain ⟨_, _, showsT⟩ := shows_spans edits t member'
        have far := showsS.far_of_apart showsT before row holdsFirst holdsSecond
        unfold context at far
        omega
      · have := holdsSecond.2
        have := holdsFirst.1
        omega
  framed span member := by
    obtain ⟨first, last, shows⟩ := shows_spans edits span member
    have start := shows.startsAt
    have stop := shows.stopsAt
    have inside := shows.lastChange.lt_length
    unfold context at start stop
    refine ⟨first, last, shows.firstChange, shows.lastChange, shows.start_le, shows.ordered,
      shows.lt_stop, ?_, ?_, ?_, ?_⟩
    · exact unchanged_between fun position listed late =>
        shows.lead position (mem_changes_iff_changedAt.mp listed) late
    · rw [length_between (Nat.le_of_lt shows.firstChange.lt_length)]
      omega
    · refine unchanged_between fun position listed late => ?_
      by_contra early
      have := shows.trail position (mem_changes_iff_changedAt.mp listed) (by omega)
      omega
    · rw [length_between shows.stop_le]
      omega

/-! ### Empty sides -/

theorem between_append_between (edits : List Edit) {start middle stop : Nat} (early : start ≤ middle)
    (late : middle ≤ stop) :
    between edits start middle ++ between edits middle stop = between edits start stop := by
  unfold between
  rw [show stop - start = (middle - start) + (stop - middle) by omega, List.take_add,
    List.drop_drop, Nat.add_sub_cancel' early]

/-- Kept lines are on both sides, so a stretch of them with an empty side is empty. -/
theorem Unchanged.eq_nil_of_countP {edits : List Edit} (unchanged : Unchanged edits)
    {side : Edit → Bool} (keeps : ∀ edit : Edit, edit.isChange = false → side edit = true)
    (empty : edits.countP side = 0) : edits = [] := by
  have all : edits.countP side = edits.length :=
    List.countP_eq_length.mpr fun edit member => keeps edit (unchanged edit member)
  exact List.eq_nil_of_length_eq_zero (all.symm.trans empty)

/-- **A stretch with an empty side is the whole script**, since it has no context. -/
theorem Framing.whole_of_empty {edits : List Edit} {spans : List Span} (framing : Framing edits spans)
    {span : Span} (member : span ∈ spans) {side : Edit → Bool}
    (keeps : ∀ edit : Edit, edit.isChange = false → side edit = true)
    (empty : (between edits span.start span.stop).countP side = 0) :
    span.start = 0 ∧ span.stop = edits.length := by
  obtain ⟨first, last, firstChange, lastChange, starts, ordered, ends, lead, leadLength, trail,
    trailLength⟩ := framing.framed span member
  have parts : between edits span.start span.stop = between edits span.start first ++
      (between edits first (last + 1) ++ between edits (last + 1) span.stop) := by
    rw [between_append_between edits (by omega) (by omega),
      between_append_between edits starts (by omega)]
  rw [parts, List.countP_append, List.countP_append] at empty
  have noLead := lead.eq_nil_of_countP keeps (by omega)
  have noTrail := trail.eq_nil_of_countP keeps (by omega)
  rw [noLead, List.length_nil] at leadLength
  rw [noTrail, List.length_nil] at trailLength
  have inside := (framing.inside span member).2
  exact ⟨by omega, by omega⟩

/-- The side of a hunk is empty only when the whole script has nothing on that side. -/
theorem Framing.countP_of_empty {edits : List Edit} {spans : List Span} (framing : Framing edits spans)
    {span : Span} (member : span ∈ spans) {side : Edit → Bool}
    (keeps : ∀ edit : Edit, edit.isChange = false → side edit = true)
    (empty : (Hunk.ofSpan edits span).edits.countP side = 0) :
    edits.countP side = 0 ∧ (edits.take span.start).countP side = 0 := by
  obtain ⟨start, stop⟩ := framing.whole_of_empty member keeps empty
  have whole : (Hunk.ofSpan edits span).edits = edits := by
    show between edits span.start span.stop = edits
    rw [start, stop, between_length, List.drop_zero]
  rw [whole] at empty
  rw [start]
  exact ⟨empty, rfl⟩

/-- **The hunks of a diff are complete, disjoint and minimal.** The diff of two texts with different lines
shows the stretches of their script that frame its changes. A side of a hunk has no lines only when its
text has none, and then it starts at zero. -/
theorem unified_framing (old new : String) (different : Text.lines old ≠ Text.lines new) :
    let edits := script (Text.lines old) (Text.lines new)
    Framing edits (spans edits) ∧
    (∀ oldLabel newLabel, unified old new oldLabel newLabel = labels oldLabel newLabel ++
      String.join ((spans edits).map fun span => (Hunk.ofSpan edits span).render)) ∧
    ∀ span ∈ spans edits,
      ((Hunk.ofSpan edits span).oldLength = 0 → Text.lines old = [] ∧
        startLine (Hunk.ofSpan edits span).oldBefore (Hunk.ofSpan edits span).oldLength = 0) ∧
      ((Hunk.ofSpan edits span).newLength = 0 → Text.lines new = [] ∧
        startLine (Hunk.ofSpan edits span).newBefore (Hunk.ofSpan edits span).newLength = 0) := by
  intro edits
  have framing := framing_spans edits
  refine ⟨framing, fun oldLabel newLabel => ?_, fun span member => ⟨fun empty => ?_, fun empty => ?_⟩⟩
  · rw [unified_of_ne different, hunks, List.map_map]
    rfl
  · obtain ⟨none, noneBefore⟩ := framing.countP_of_empty member Edit.inOld_of_kept empty
    rw [← length_oldLines, oldLines_script] at none
    refine ⟨List.eq_nil_of_length_eq_zero none, ?_⟩
    rw [startLine, if_pos empty]
    exact noneBefore
  · obtain ⟨none, noneBefore⟩ := framing.countP_of_empty member Edit.inNew_of_kept empty
    rw [← length_newLines, newLines_script] at none
    refine ⟨List.eq_nil_of_length_eq_zero none, ?_⟩
    rw [startLine, if_pos empty]
    exact noneBefore

/-- Two removals with seven kept lines between them are shown apart. -/
theorem unified_framing_seven_kept :
    Text.lines "a\n1\n2\n3\n4\n5\n6\n7\nb\n" ≠ Text.lines "1\n2\n3\n4\n5\n6\n7\n" ∧
      ¬ ∃ span ∈ spans (script (Text.lines "a\n1\n2\n3\n4\n5\n6\n7\nb\n")
        (Text.lines "1\n2\n3\n4\n5\n6\n7\n")), span.Holds 0 ∧ span.Holds 8 := by
  have different :
      Text.lines "a\n1\n2\n3\n4\n5\n6\n7\nb\n" ≠ Text.lines "1\n2\n3\n4\n5\n6\n7\n" := by decide
  have edits : script (Text.lines "a\n1\n2\n3\n4\n5\n6\n7\nb\n")
      (Text.lines "1\n2\n3\n4\n5\n6\n7\n") = [.remove "a", .keep "1", .keep "2", .keep "3", .keep "4",
        .keep "5", .keep "6", .keep "7", .remove "b"] := by decide
  have framing := (unified_framing _ _ different).1
  rw [edits] at framing ⊢
  refine ⟨different, fun shown => ?_⟩
  have few := (framing.together 0 8 ⟨_, rfl, rfl⟩ ⟨_, rfl, rfl⟩ (by decide)
    (by simp [Unchanged, between, Edit.isChange])).mp shown
  exact absurd few (by decide)

end SinglePath.Diff
