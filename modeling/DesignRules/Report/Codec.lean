/-
**The JSON form of reports.**

* `Report.toJson`, `Report.ofJson?`: writing and reading.
* `Report.text`, `Report.ofText?`: the same for texts.
-/

import DesignRules.Design.Codec
import DesignRules.Report.Basic

namespace DesignRules

open Json

namespace Diagnostic

/-- All levels with their names. -/
def Level.names : List (String × Level) :=
  [("error", .error), ("warning", .warning), ("info", .info)]

def toJson (diagnostic : Diagnostic) : Json :=
  .record
    [("level", .text diagnostic.level.name), ("line", orNull ofNat diagnostic.line),
      ("rule", orNull .text diagnostic.rule), ("message", .text diagnostic.message)]

def ofJson? (json : Json) : Option Diagnostic := do
  match ← json.fields? ["level", "line", "rule", "message"] with
  | [level, line, rule, message] =>
    return ⟨← required? (oneOf? Level.names) level,
      ← optional? (toNatUpTo? Number.largestWord) line, ← optional? toText? rule,
      ← required? toText? message⟩
  | _ => none

end Diagnostic

namespace Violation

/-- All kinds with their keywords. -/
def kindNames : List (String × ConstraintKind) :=
  ConstraintKind.all.map fun kind => (kind.keyword, kind)

/-- Four coordinates. -/
def boxOfJson? : Json → Option (Box Float)
  | .array [left, bottom, right, top] =>
    return ⟨⟨← toFloat? left, ← toFloat? bottom⟩, ⟨← toFloat? right, ← toFloat? top⟩⟩
  | _ => none

def toJson (violation : Violation Float) : Json :=
  .record
    [("id", violation.id.toJson), ("provider", .text violation.check),
      ("constraint", .text violation.kind.keyword), ("severity", .text violation.severity.name),
      ("rule_name", .text violation.ruleName), ("message", .text violation.message),
      ("layer_id", orNull layerIdToJson violation.layer),
      ("bbox", .array (violation.box.coordinates.map ofFloat)),
      ("items", .array (violation.items.map Identity.toJson))]

def ofJson? (json : Json) : Option (Violation Float) := do
  match ← json.fields?
    ["id", "provider", "constraint", "severity", "rule_name", "message", "layer_id", "bbox",
      "items"] with
  | [id, check, kind, severity, ruleName, message, layer, box, items] =>
    return {
      id := ← required? Identity.ofJson? id
      check := ← required? toText? check
      kind := ← required? (oneOf? kindNames) kind
      severity := ← required? (oneOf? Severity.words) severity
      ruleName := ← required? toText? ruleName
      message := ← required? toText? message
      layer := ← optional? layerIdOfJson? layer
      box := ← required? boxOfJson? box
      items := ← required? (toList? Identity.ofJson?) items }
  | _ => none

end Violation

namespace Report

/-- The JSON array of some texts. -/
def texts (values : List String) : Json := .array (values.map .text)

def toJson (report : Report Float) : Json :=
  .record
    [("violations", .array (report.violations.map Violation.toJson)),
      ("aux_messages", texts report.notes),
      ("diagnostics", .array (report.diagnostics.map Diagnostic.toJson)),
      ("providers_run", texts report.checksRun), ("providers_skipped", texts report.checksSkipped),
      ("cancelled", .bool report.cancelled), ("truncated", .bool report.truncated)]

def ofJson? (json : Json) : Option (Report Float) := do
  match ← json.fields?
    ["violations", "aux_messages", "diagnostics", "providers_run", "providers_skipped",
      "cancelled", "truncated"] with
  | [violations, notes, diagnostics, checksRun, checksSkipped, cancelled, truncated] =>
    return {
      violations := ← required? (toList? Violation.ofJson?) violations
      notes := ← required? (toList? toText?) notes
      diagnostics := ← required? (toList? Diagnostic.ofJson?) diagnostics
      checksRun := ← required? (toList? toText?) checksRun
      checksSkipped := ← required? (toList? toText?) checksSkipped
      cancelled := ← required? toBool? cancelled
      truncated := ← withDefault? false toBool? truncated }
  | _ => none

/-- The text of a report. -/
def text (report : Report Float) : String := pretty report.toJson

/-- The report that a text denotes. -/
def ofText? (text : String) : Option (Report Float) := (Json.ofText? text).bind ofJson?

end Report

end DesignRules
