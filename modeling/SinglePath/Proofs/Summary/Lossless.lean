/-
**The summary for machines loses nothing.**

* `Json.field?`, `Json.list?_map` — a field of a record by its name, and lists that are read item by item;
* `Statistic.ofJson?`, `ConfigurationSummary.ofJson?`, `Summary.ofJson?` — the records of a summary read
  back;
* `Summary.machine_lossless` — the text for machines gives back the whole summary, so different summaries
  have different texts.
-/

import SinglePath.Proofs.Json.Reading
import SinglePath.Summary.Machine

namespace SinglePath

/-! ### Parts of values -/

namespace Json

def text? : Json → Option String
  | text content => some content
  | _ => none

def number? : Json → Option Nat
  | number content => some content
  | _ => none

def bool? : Json → Option Bool
  | bool content => some content
  | _ => none

/-- A list whose items can all be read. -/
def list? {α : Type} (readItem : Json → Option α) : Json → Option (List α)
  | list items => items.mapM readItem
  | _ => none

/-- A field of a record, if it can be read. -/
def field? {α : Type} (name : String) (readValue : Json → Option α) : Json → Option α
  | record fields => (fields.lookup name).bind readValue
  | _ => none

/-- Items that are read back one by one are read back together. -/
theorem list?_map {α : Type} {write : α → Json} {readItem : Json → Option α}
    (reads : ∀ item, readItem (write item) = some item) (items : List α) :
    list? readItem (.list (items.map write)) = some items := by
  show (items.map write).mapM readItem = some items
  induction items with
  | nil => rfl
  | cons item items ih =>
      rw [List.map_cons, List.mapM_cons, reads, ih]
      rfl

end Json

/-! ### Records of a summary -/

open Json (text? number? bool? list?)

def Statistic.ofJson? (value : Json) : Option Statistic := do
  let kind ← value.field? "kind" text?
  if kind = "fetch" then
    return .fetch (← value.field? "instruction" text?) (← value.field? "count" number?)
  else if kind = "cycles" then
    return .cycles (← value.field? "label" text?) (← value.field? "count" text?)
  else if kind = "calls" then
    return .calls (← value.field? "function" text?) (← value.field? "count" text?)
  else
    none

def ConfigurationSummary.ofJson? (value : Json) : Option ConfigurationSummary := do
  return {
    flags := ← value.field? "flags" text?
    singlePath := ← value.field? "single_path" bool?
    executions := ← value.field? "executions" number?
    compared := ← value.field? "compared" number?
    fingerprint := ← value.field? "fingerprint" text?
    statistics := ← value.field? "statistics" (list? Statistic.ofJson?) }

def Summary.ofJson? (value : Json) : Option Summary := do
  return {
    program := ← value.field? "program" text?
    arguments := ← value.field? "execution_args" (list? text?)
    configurations := ← value.field? "configurations" (list? ConfigurationSummary.ofJson?) }

/-- A summary read from its text for machines. -/
def Summary.ofMachine? (text : String) : Option Summary := do
  Summary.ofJson? (← Json.read? text)

theorem Statistic.ofJson?_toJson (s : Statistic) : Statistic.ofJson? s.toJson = some s := by
  cases s <;> simp [toJson, ofJson?, Json.field?, List.lookup_cons, text?, number?]

theorem ConfigurationSummary.ofJson?_toJson (c : ConfigurationSummary) :
    ConfigurationSummary.ofJson? c.toJson = some c := by
  have statistics := Json.list?_map Statistic.ofJson?_toJson c.statistics
  simp [toJson, ofJson?, Json.field?, List.lookup_cons, text?, number?, bool?, statistics]

theorem Summary.ofJson?_toJson (s : Summary) : Summary.ofJson? s.toJson = some s := by
  have texts : ∀ content, text? (.text content) = some content := fun _ => rfl
  have arguments := Json.list?_map texts s.arguments
  have configurations := Json.list?_map ConfigurationSummary.ofJson?_toJson s.configurations
  simp [toJson, ofJson?, Json.field?, List.lookup_cons, text?, arguments, configurations]

theorem Summary.ofMachine?_machine (s : Summary) : Summary.ofMachine? s.machine = some s := by
  rw [ofMachine?, machine, Json.read?_pretty]
  exact s.ofJson?_toJson

/-- **The text for machines is lossless.** It gives back the program, the arguments and every configuration
with all that it reports, so two summaries with the same text are the same. -/
theorem Summary.machine_lossless (s t : Summary) :
    Summary.ofMachine? s.machine = some s ∧ (s.machine = t.machine ↔ s = t) := by
  refine ⟨s.ofMachine?_machine, fun same => ?_, fun same => same ▸ rfl⟩
  have read := congrArg Summary.ofMachine? same
  rw [s.ofMachine?_machine, t.ofMachine?_machine] at read
  exact Option.some.inj read

end SinglePath
