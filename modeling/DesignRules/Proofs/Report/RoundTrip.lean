/-
**A report is read back as it was written.**

Lines of documents are counted by machine words; apart from that, and from numbers that are not
finite, nothing in a report is lost on the way through its text.

* `Diagnostic.HasWordLine`, `Report.numbers`: the lines and the numbers of a report.
* `Diagnostic.ofJson?_toJson`, `Violation.ofJson?_toJson`: its parts.
* `Report.ofJson?_toJson`, `Report.writable_toJson`: whole reports as values.
* `Report.ofText?_text_of_finite`: whole reports as texts.
-/

import DesignRules.Proofs.Design.RoundTrip
import DesignRules.Report.Codec

namespace DesignRules

open Json (ReadsBack Writable fields?_record nullable?_orNull optional? required? toFloat?_ofFloat
  toList?_array toText?_text withDefault? writable_array_map writable_ofFloat writable_ofNat
  writable_orNull writable_record)

/-! ### Diagnostics -/

namespace Diagnostic

/-- Whether the line of a diagnostic, if it has one, is a machine word. -/
def HasWordLine (diagnostic : Diagnostic) : Prop :=
  ∀ line ∈ diagnostic.line, line ≤ Json.Number.largestWord

instance (diagnostic : Diagnostic) : Decidable diagnostic.HasWordLine :=
  inferInstanceAs (Decidable (∀ line ∈ diagnostic.line, line ≤ Json.Number.largestWord))

theorem ofJson?_toJson {diagnostic : Diagnostic} (counted : diagnostic.HasWordLine) :
    ofJson? diagnostic.toJson = some diagnostic := by
  obtain ⟨level, line, rule, message⟩ := diagnostic
  have named : Json.oneOf? Level.names (.text level.name) = some level := by
    cases level <;> decide
  have placed : Json.nullable? (Json.toNatUpTo? Json.Number.largestWord)
      (Json.orNull Json.ofNat line) = some line :=
    nullable?_orNull line (fun value given => Json.toNatUpTo?_ofNat (counted value given))
      fun _ => nofun
  have attributed : Json.nullable? Json.toText? (Json.orNull .text rule) = some rule :=
    nullable?_orNull rule (fun name _ => toText?_text name) fun _ => nofun
  rw [ofJson?, toJson, fields?_record (by rfl) (by decide)]
  simp [required?, optional?, named, placed, attributed, toText?_text]

theorem writable_toJson (diagnostic : Diagnostic) : diagnostic.toJson.Writable := by
  refine writable_record ?_
  simp [Writable.text, writable_ofNat, writable_orNull]

end Diagnostic

/-! ### Violations -/

namespace Violation

/-- The numbers of a violation. -/
def numbers (violation : Violation Float) : List Float := violation.box.coordinates

/-- A box is written as its four coordinates. -/
theorem boxOfJson?_coordinates {box : Box Float} (back : ∀ x ∈ box.coordinates, ReadsBack x) :
    boxOfJson? (.array (box.coordinates.map Json.ofFloat)) = some box := by
  have left := toFloat?_ofFloat (back box.min.x (by simp [Box.coordinates]))
  have bottom := toFloat?_ofFloat (back box.min.y (by simp [Box.coordinates]))
  have right := toFloat?_ofFloat (back box.max.x (by simp [Box.coordinates]))
  have top := toFloat?_ofFloat (back box.max.y (by simp [Box.coordinates]))
  simp [boxOfJson?, Box.coordinates, left, bottom, right, top]

theorem ofJson?_toJson {violation : Violation Float} (back : ∀ x ∈ violation.numbers, ReadsBack x) :
    ofJson? violation.toJson = some violation := by
  obtain ⟨id, check, kind, severity, ruleName, message, layer, box, items⟩ := violation
  have limited : Json.oneOf? kindNames (.text kind.keyword) = some kind := by
    cases kind <;> decide
  have weighed : Json.oneOf? Severity.words (.text severity.name) = some severity := by
    cases severity <;> decide
  have layered : Json.nullable? layerIdOfJson? (Json.orNull layerIdToJson layer) = some layer :=
    nullable?_orNull layer (fun layer _ => layerIdOfJson?_toJson layer) fun _ => nofun
  have placed := boxOfJson?_coordinates back
  have listed := toList?_array fun item (_ : item ∈ items) => item.ofJson?_toJson
  rw [ofJson?, toJson, fields?_record (by rfl) (by decide)]
  simp [required?, optional?, Identity.ofJson?_toJson, toText?_text, limited, weighed, layered,
    placed, listed]

theorem writable_toJson (violation : Violation Float) : violation.toJson.Writable := by
  have placed : (Json.array (violation.box.coordinates.map Json.ofFloat)).Writable :=
    writable_array_map fun x _ => writable_ofFloat x
  have listed : (Json.array (violation.items.map Identity.toJson)).Writable :=
    writable_array_map fun item _ => item.writable_toJson
  refine writable_record ?_
  simp [Identity.writable_toJson, Writable.text, writable_orNull, writable_layerIdToJson, placed,
    listed]

end Violation

/-! ### Reports -/

namespace Report

/-- The numbers of a report. -/
def numbers (report : Report Float) : List Float := report.violations.flatMap Violation.numbers

theorem toList?_texts (values : List String) :
    Json.toList? Json.toText? (texts values) = some values :=
  toList?_array fun value _ => toText?_text value

theorem writable_texts (values : List String) : (texts values).Writable :=
  writable_array_map fun value _ => .text value

/-- **A report is read back from its JSON value.** -/
theorem ofJson?_toJson {report : Report Float} (back : ∀ x ∈ report.numbers, ReadsBack x)
    (counted : ∀ diagnostic ∈ report.diagnostics, diagnostic.HasWordLine) :
    ofJson? report.toJson = some report := by
  have violations : Json.toList? Violation.ofJson?
      (.array (report.violations.map Violation.toJson)) = some report.violations :=
    toList?_array fun violation listed => Violation.ofJson?_toJson fun x member =>
      back x (List.mem_flatMap.mpr ⟨violation, listed, member⟩)
  have diagnostics : Json.toList? Diagnostic.ofJson?
      (.array (report.diagnostics.map Diagnostic.toJson)) = some report.diagnostics :=
    toList?_array fun diagnostic listed => Diagnostic.ofJson?_toJson (counted diagnostic listed)
  rw [ofJson?, toJson, fields?_record (by rfl) (by decide)]
  simp [required?, withDefault?, violations, diagnostics, toList?_texts, Json.toBool?]

theorem writable_toJson (report : Report Float) : report.toJson.Writable := by
  have violations : (Json.array (report.violations.map Violation.toJson)).Writable :=
    writable_array_map fun violation _ => violation.writable_toJson
  have diagnostics : (Json.array (report.diagnostics.map Diagnostic.toJson)).Writable :=
    writable_array_map fun diagnostic _ => diagnostic.writable_toJson
  refine writable_record ?_
  simp [violations, diagnostics, writable_texts, Writable.bool]

/-- **A report is read back from its text.** A report whose boxes are finite, and whose diagnostics
name lines that are machine words, is read back with all that it holds, if the text of each of its
numbers reads back as that number. -/
theorem ofText?_text_of_finite (report : Report Float)
    (finite : ∀ x ∈ report.numbers, x.isFinite = true)
    (back : ∀ x ∈ report.numbers, x.isFinite = true → ReadsBack x)
    (counted : ∀ diagnostic ∈ report.diagnostics, diagnostic.HasWordLine) :
    ofText? report.text = some report := by
  have parsed : Json.ofText? report.text = some report.toJson :=
    Json.ofText?_pretty report.writable_toJson
  rw [ofText?, parsed]
  exact ofJson?_toJson (fun x member => back x member (finite x member)) counted

/-- A cancelled and truncated report with a violation of each severity. Layers, items, lines and
rules are absent and given, and the texts hold quotes, control characters and characters of four
bytes. -/
def fourSeverities : Report Float where
  violations :=
    [{ id := .nil, check := "clearance", kind := .clearance, severity := .error
       ruleName := "HV \"Ω\"", message := "0.4 mm \\ 1 mm", layer := some 4294967295, box := ⟨⟨-0.0, 0.1⟩, ⟨1e300, 5e-324⟩⟩
       items := [.numbered 0, .numbered 1] },
      { id := .numbered 9, check := "", kind := .trackWidth, severity := .warning, ruleName := ""
        message := "\u0000\u001f\n\t", layer := none, box := ⟨⟨0.0, 0.0⟩, ⟨0.0, 0.0⟩⟩
        items := [] },
      { id := .nil, check := "area", kind := .minArea, severity := .info, ruleName := "𝄞"
        message := "裏", layer := some 0, box := ⟨⟨1e16, -1e-5⟩, ⟨123456.75, 1e-7⟩⟩
        items := [.nil] },
      { id := .nil, check := "via", kind := .viaDiameter, severity := .ignore, ruleName := "r"
        message := "", layer := some 31, box := ⟨⟨-2.5, 0.3⟩, ⟨0.25, 3.0⟩⟩, items := [.nil, .nil] }]
  notes := ["", "clearance: 2 item(s)"]
  diagnostics :=
    [⟨.error, none, some "area", "gave up"⟩, ⟨.warning, some 18446744073709551615, none, "late"⟩,
      ⟨.info, none, none, ""⟩, ⟨.warning, some 0, some "\r", "\x7f"⟩]
  checksRun := ["clearance", "clearance"]
  checksSkipped := ["disallow"]
  cancelled := true
  truncated := true

theorem ofText?_text_of_four_severities :
    (∀ x ∈ fourSeverities.numbers, x.isFinite = true) ∧
      (∀ x ∈ fourSeverities.numbers, x.isFinite = true → ReadsBack x) ∧
        (∀ diagnostic ∈ fourSeverities.diagnostics, diagnostic.HasWordLine) ∧
          ofText? fourSeverities.text = some fourSeverities := by
  have finite : ∀ x ∈ fourSeverities.numbers, x.isFinite = true := by decide +kernel
  have back : ∀ x ∈ fourSeverities.numbers, x.isFinite = true → ReadsBack x := by decide +kernel
  have counted : ∀ diagnostic ∈ fourSeverities.diagnostics, diagnostic.HasWordLine := by
    decide +kernel
  exact ⟨finite, back, counted, ofText?_text_of_finite fourSeverities finite back counted⟩

end Report

end DesignRules
