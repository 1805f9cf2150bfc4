/-
**The summary for machines.**

* `Summary.toJson` — the summary as a JSON value; every fact of it is a field.
* `Summary.machine` — its indented text.
-/

import SinglePath.Json
import SinglePath.Summary.Basic

namespace SinglePath

/-- A counted fact as a record; its kind comes first. -/
def Statistic.toJson : Statistic → Json
  | .fetch instruction count =>
    .record [("kind", .text "fetch"), ("instruction", .text instruction), ("count", .number count)]
  | .cycles label count =>
    .record [("kind", .text "cycles"), ("label", .text label), ("count", .text count)]
  | .calls function count =>
    .record [("kind", .text "calls"), ("function", .text function), ("count", .text count)]

/-- A configuration as a record. -/
def ConfigurationSummary.toJson (c : ConfigurationSummary) : Json :=
  .record
    [("flags", .text c.flags),
     ("single_path", .bool c.singlePath),
     ("executions", .number c.executions),
     ("compared", .number c.compared),
     ("fingerprint", .text c.fingerprint),
     ("statistics", .list (c.statistics.map Statistic.toJson))]

/-- A summary as a record. -/
def Summary.toJson (s : Summary) : Json :=
  .record
    [("program", .text s.program),
     ("execution_args", .list (s.arguments.map Json.text)),
     ("configurations", .list (s.configurations.map ConfigurationSummary.toJson))]

/-- The summary for machines. -/
def Summary.machine (s : Summary) : String :=
  s.toJson.pretty

end SinglePath
