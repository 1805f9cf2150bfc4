/-
**JSON text read back.**

* `Phase.step`, `Phase.run` — reads values token by token, with the lists and records around the next token
  as its memory;
* `run_tokens` — the tokens of a value are read as that value, wherever it stands;
* `read?_pretty` — the text of a value is read as that value, so no two values have the same text.
-/

import SinglePath.Proofs.Json.Tokens

namespace SinglePath.Json

/-- Where a value stands. -/
inductive Context where
  | whole
  | item (before : List Json) (outer : Context)
  | field (before : List (String × Json)) (name : String) (outer : Context)

/-- What has been read last. -/
inductive Phase where
  /-- Whatever a value must follow. -/
  | demanded (place : Context)
  | listOpened (outer : Context)
  | recordOpened (outer : Context)
  /-- A comma in a record. -/
  | separated (before : List (String × Json)) (outer : Context)
  | named (before : List (String × Json)) (name : String) (outer : Context)
  | ended (content : Json) (place : Context)

namespace Phase

/-- The first token of a value. -/
def begin (place : Context) : Token → Option Phase
  | .text content => some (ended (.text content) place)
  | .number content => some (ended (.number content) place)
  | .bool content => some (ended (.bool content) place)
  | .openList => some (listOpened place)
  | .openRecord => some (recordOpened place)
  | _ => none

/-- One more token. -/
def step : Phase → Token → Option Phase
  | demanded place, token => begin place token
  | listOpened outer, .closeList => some (ended (.list []) outer)
  | listOpened outer, token => begin (.item [] outer) token
  | recordOpened outer, .closeRecord => some (ended (.record []) outer)
  | recordOpened outer, .text name => some (named [] name outer)
  | separated before outer, .text name => some (named before name outer)
  | named before name outer, .colon => some (demanded (.field before name outer))
  | ended content (.item before outer), .comma => some (demanded (.item (before ++ [content]) outer))
  | ended content (.item before outer), .closeList =>
    some (ended (.list (before ++ [content])) outer)
  | ended content (.field before name outer), .comma =>
    some (separated (before ++ [(name, content)]) outer)
  | ended content (.field before name outer), .closeRecord =>
    some (ended (.record (before ++ [(name, content)])) outer)
  | _, _ => none

/-- Many tokens. -/
def run : Phase → List Token → Option Phase
  | phase, [] => some phase
  | phase, token :: tokens => (phase.step token).bind fun next => next.run tokens

/-- The value that has been read. -/
def result? : Phase → Option Json
  | ended content .whole => some content
  | _ => none

end Phase

/-- The value of a text. -/
def read? (text : String) : Option Json := do
  let tokens ← scan .nothing text.toList
  let last ← Phase.run (.demanded .whole) tokens
  last.result?

/-- No value begins with the bracket that ends a list. -/
theorem run_listOpened (value : Json) (outer : Context) (rest : List Token) :
    Phase.run (.listOpened outer) (tokens value ++ rest) =
      Phase.run (.demanded (.item [] outer)) (tokens value ++ rest) := by
  match value with
  | text _ | number _ | bool _ | list [] | list (_ :: _) | record [] | record ((_, _) :: _) =>
      rw [tokens]
      rfl

mutual

/-- **The tokens of a value are read as that value.** -/
theorem run_tokens (value : Json) (place : Context) (rest : List Token) :
    Phase.run (.demanded place) (tokens value ++ rest) = Phase.run (.ended value place) rest := by
  match value with
  | text _ | number _ | bool _ | list [] | record [] =>
      rw [tokens]
      rfl
  | list (item :: items) =>
      simp only [tokens, List.cons_append, List.append_assoc, List.nil_append]
      calc Phase.run (.demanded place)
            (.openList :: (tokens item ++ (itemTokens items ++ .closeList :: rest)))
          = Phase.run (.listOpened place) (tokens item ++ (itemTokens items ++ .closeList :: rest)) := rfl
        _ = Phase.run (.ended item (.item [] place)) (itemTokens items ++ .closeList :: rest) := by
            rw [run_listOpened, run_tokens item]
        _ = Phase.run (.ended (.list (item :: items)) place) rest := run_itemTokens items item [] place rest
  | record ((name, value) :: fields) =>
      simp only [tokens, List.cons_append, List.append_assoc, List.nil_append]
      calc Phase.run (.demanded place) (.openRecord :: .text name :: .colon ::
            (tokens value ++ (fieldTokens fields ++ .closeRecord :: rest)))
          = Phase.run (.demanded (.field [] name place))
              (tokens value ++ (fieldTokens fields ++ .closeRecord :: rest)) := rfl
        _ = Phase.run (.ended value (.field [] name place)) (fieldTokens fields ++ .closeRecord :: rest) :=
            run_tokens value _ _
        _ = Phase.run (.ended (.record ((name, value) :: fields)) place) rest :=
            run_fieldTokens fields name value [] place rest

theorem run_itemTokens (items : List Json) (item : Json) (before : List Json) (outer : Context)
    (rest : List Token) :
    Phase.run (.ended item (.item before outer)) (itemTokens items ++ .closeList :: rest) =
      Phase.run (.ended (.list (before ++ item :: items)) outer) rest := by
  match items with
  | [] =>
      rw [itemTokens]
      rfl
  | next :: items =>
      have read := run_itemTokens items next (before ++ [item]) outer rest
      rw [List.append_assoc] at read
      simp only [itemTokens, List.cons_append, List.append_assoc]
      calc Phase.run (.ended item (.item before outer))
            (.comma :: (tokens next ++ (itemTokens items ++ .closeList :: rest)))
          = Phase.run (.demanded (.item (before ++ [item]) outer))
              (tokens next ++ (itemTokens items ++ .closeList :: rest)) := rfl
        _ = Phase.run (.ended next (.item (before ++ [item]) outer))
              (itemTokens items ++ .closeList :: rest) := run_tokens next _ _
        _ = Phase.run (.ended (.list (before ++ item :: next :: items)) outer) rest := read

theorem run_fieldTokens (fields : List (String × Json)) (name : String) (value : Json)
    (before : List (String × Json)) (outer : Context) (rest : List Token) :
    Phase.run (.ended value (.field before name outer)) (fieldTokens fields ++ .closeRecord :: rest) =
      Phase.run (.ended (.record (before ++ (name, value) :: fields)) outer) rest := by
  match fields with
  | [] =>
      rw [fieldTokens]
      rfl
  | (name', value') :: fields =>
      have read := run_fieldTokens fields name' value' (before ++ [(name, value)]) outer rest
      rw [List.append_assoc] at read
      simp only [fieldTokens, List.cons_append, List.append_assoc]
      calc Phase.run (.ended value (.field before name outer)) (.comma :: .text name' :: .colon ::
            (tokens value' ++ (fieldTokens fields ++ .closeRecord :: rest)))
          = Phase.run (.demanded (.field (before ++ [(name, value)]) name' outer))
              (tokens value' ++ (fieldTokens fields ++ .closeRecord :: rest)) := rfl
        _ = Phase.run (.ended value' (.field (before ++ [(name, value)]) name' outer))
              (fieldTokens fields ++ .closeRecord :: rest) := run_tokens value' _ _
        _ = Phase.run (.ended (.record (before ++ (name, value) :: (name', value') :: fields)) outer)
              rest := read

end

/-- **The text of a value is read as that value.** -/
theorem read?_pretty (value : Json) : read? value.pretty = some value := by
  have scanned := scan_chars 0 value (fun _ found => nomatch found : Delimited [])
  have ran := run_tokens value .whole []
  rw [List.append_nil] at scanned ran
  rw [read?, pretty, String.toList_ofList, scanned]
  simp only [scan, Pending.close, Option.map_some, List.append_nil, Option.bind_eq_bind,
    Option.bind_some, ran]
  rfl

end SinglePath.Json
