/-
**Reading rules.**

Each form of a document that starts with `rule` gives one rule, at its place in the document. What
is wrong with a clause is reported; a rule with an unknown or a damaged clause is kept with a
condition that never holds, so that its constraints still count where all constraints are compared.

* `Constraint.ofForm`: the constraint of a clause.
* `Rule.ofForm`: the rule of a form.
* `Rules.ofText`: the rules of a document and the diagnostics.
-/

import DesignRules.Condition.Compile
import DesignRules.RuleText.Form
import DesignRules.Rule.Basic

namespace DesignRules

open RuleText (Form Forms)
open Condition (Code Fault SlotTable)

variable {K : Type}

/-! ### Constraints -/

/-- What is wrong with a constraint clause. -/
inductive ConstraintFault where
  | noKind
  | unknownKind (word : String)
  | listAmongKeywords (kind : ConstraintKind)
  | unknownKeyword (kind : ConstraintKind) (word : String)
  | noKeywords (kind : ConstraintKind)
  | noBoundForm (kind : ConstraintKind)
  | noValue (part : String)
  | invalidValue (text : String)
  | unknownUnit (suffix : String)
  | unknownPart (kind : ConstraintKind) (part : String)
  | noBound (kind : ConstraintKind)
  deriving DecidableEq, Repr

/-- The words by which constraints forbid kinds of objects. -/
def disallowKeywords : List String := Kind.all.map Kind.keyword

/-- The text of a fault. -/
def ConstraintFault.message : ConstraintFault → String
  | .noKind => "constraint needs a type"
  | .unknownKind word => ConstraintKind.unknownMessage word
  | .listAmongKeywords kind => kind.keyword ++ " expects keywords, not a list"
  | .unknownKeyword kind word =>
    "unknown " ++ kind.keyword ++ " keyword '" ++ word ++ "' (expected one of " ++
      ", ".intercalate disallowKeywords ++ ")"
  | .noKeywords kind => kind.keyword ++ " constraint lists nothing"
  | .noBoundForm kind => kind.keyword ++ " expects (min ...), (opt ...) or (max ...)"
  | .noValue part => "(" ++ part ++ ") needs a value"
  | .invalidValue text => "invalid value '" ++ text ++ "'"
  | .unknownUnit suffix => "unknown unit '" ++ suffix ++ "'"
  | .unknownPart kind part => "unknown bound '" ++ part ++ "' in " ++ kind.keyword
  | .noBound kind => kind.keyword ++ " constraint has no min, opt or max"

/-- The unit of limits that are written without one. -/
def bareUnit : LengthUnit := .millimetre

/-- The unit by which an area is scaled once more: the one written after the number. -/
def areaUnit (text : String) : Except ConstraintFault LengthUnit :=
  let suffix := text.toList.dropWhile fun c => !isUnitLetter c
  if suffix.isEmpty then .ok bareUnit
  else
    match LengthUnit.ofSuffix? (String.ofList suffix) with
    | some unit => .ok unit
    | none => .error (.unknownUnit (String.ofList suffix))

section

variable [Scalar K]

/-- The value of a limit: a length, or for areas a length times its unit. -/
def limitValue (kind : ConstraintKind) (text : String) : Except ConstraintFault K :=
  match Length.ofText? text (some bareUnit) with
  | none => .error (.invalidValue text)
  | some value =>
    if kind.isArea then (areaUnit text).map fun unit => value * unit.scale else .ok value

/-- A bound with one more part. -/
def Bound.set (bound : Bound K) (kind : ConstraintKind) (part : String) (value : K) :
    Except ConstraintFault (Bound K) :=
  match part with
  | "min" => .ok { bound with min := some value }
  | "opt" => .ok { bound with opt := some value }
  | "max" => .ok { bound with max := some value }
  | part => .error (.unknownPart kind part)

/-- A bound with the part that a form gives. -/
def Bound.add (kind : ConstraintKind) (bound : Bound K) (form : Form) :
    Except ConstraintFault (Bound K) :=
  match form.head? with
  | none => .error (.noBoundForm kind)
  | some part =>
    match form.argument? with
    | none => .error (.noValue part)
    | some text => limitValue kind text >>= bound.set kind part

/-- The demand of a constraint with bounds. -/
def boundDemand (kind : ConstraintKind) (forms : List Form) : Except ConstraintFault (Demand K) := do
  let bound ← forms.foldlM (Bound.add kind) {}
  if bound.isEmpty then .error (.noBound kind) else return .bound bound

end

/-- The word of a form in a list of keywords. -/
def keywordOf (kind : ConstraintKind) (form : Form) : Except ConstraintFault String :=
  match form.atom? with
  | none => .error (.listAmongKeywords kind)
  | some word =>
    if disallowKeywords.contains word then .ok word else .error (.unknownKeyword kind word)

/-- The demand of a constraint that lists keywords. -/
def categoryDemand (kind : ConstraintKind) (forms : List Form) :
    Except ConstraintFault (Demand K) := do
  let words ← forms.mapM (keywordOf kind)
  if words.isEmpty then .error (.noKeywords kind) else return .categories words

/-- The kind that a constraint clause names. -/
def kindOf (form : Form) : Except ConstraintFault ConstraintKind :=
  match form.argument? with
  | none => .error .noKind
  | some word =>
    match ConstraintKind.ofKeyword? word with
    | some kind => .ok kind
    | none => .error (.unknownKind word)

variable [Scalar K]

/-- The kind and the demand of a constraint clause. -/
def demandOf (form : Form) : Except ConstraintFault (ConstraintKind × Demand K) := do
  let kind ← kindOf form
  let forms := form.arguments.drop 1
  let demand ← if kind.isCategorical then categoryDemand kind forms else boundDemand kind forms
  return (kind, demand)

/-- The constraint of a clause of a rule. -/
def Constraint.ofForm (rule : Rule K) (form : Form) : Except ConstraintFault (Constraint K) :=
  (demandOf form).map fun (kind, demand) => ⟨kind, demand, rule.name, rule.priority⟩

/-! ### Rules -/

/-- What is wrong with a rule. -/
inductive RuleFault where
  | noName
  | duplicateCondition
  | conditionWithoutText
  | condition (text : String) (fault : Fault)
  | constraint (fault : ConstraintFault)
  | layerWithoutName
  | unknownSeverity (word : String)
  | severityWithoutValue
  | unknownClause (word : String)
  | strayPart (text : String)
  | noConstraints
  deriving DecidableEq, Repr

/-- The text of a fault. -/
def RuleFault.message : RuleFault → String
  | .noName => "rule has no name; it will never match"
  | .duplicateCondition => "duplicate condition ignored"
  | .conditionWithoutText => "condition needs an expression string; rule will never match"
  | .condition text fault =>
    "condition \"" ++ text ++ "\" does not compile: " ++ fault.message ++ "; rule will never match"
  | .constraint fault => fault.message
  | .layerWithoutName => "layer needs a layer name or pattern; rule will never match"
  | .unknownSeverity word => Severity.unknownMessage word
  | .severityWithoutValue => "severity needs a value"
  | .unknownClause word => "unknown clause '" ++ word ++ "'; rule will never match"
  | .strayPart text => "unexpected '" ++ text ++ "' in rule body; rule will never match"
  | .noConstraints => "rule declares no constraints"

/-- A rule while it is read: whether a condition clause was seen, whether the rule is damaged, and
what was reported so far. -/
structure RuleDraft (K : Type) where
  rule : Rule K
  hasCondition : Bool := false
  isBroken : Bool := false
  diagnostics : List Diagnostic := []

namespace RuleDraft

omit [Scalar K] in
/-- Reports a fault of the rule. -/
def report (draft : RuleDraft K) (line : Nat) (fault : RuleFault) : RuleDraft K :=
  { draft with
    diagnostics :=
      draft.diagnostics ++ [(Diagnostic.warning line fault.message).inRule draft.rule.name] }

omit [Scalar K] in
/-- Reports a fault that makes the rule unusable. -/
def damage (draft : RuleDraft K) (line : Nat) (fault : RuleFault) : RuleDraft K :=
  { draft.report line fault with isBroken := true }

/-- The text of a condition; a blank one is no condition. -/
def setCondition (slots : SlotTable) (draft : RuleDraft K) (line : Nat) (text : String) :
    RuleDraft K :=
  if text.toList.all Text.isBlank then draft
  else
    match Code.ofText slots text with
    | .ok code => { draft with rule := { draft.rule with condition := some code } }
    | .error fault =>
      let draft := draft.damage line (.condition text fault)
      { draft with rule := { draft.rule with condition := some (.never text) } }

/-- A condition clause; only the first one counts. -/
def addCondition (slots : SlotTable) (draft : RuleDraft K) (clause : Form) : RuleDraft K :=
  if draft.hasCondition then draft.report clause.line .duplicateCondition
  else
    let draft := { draft with hasCondition := true }
    match clause.argument? with
    | none => draft.damage clause.line .conditionWithoutText
    | some text => draft.setCondition slots clause.line text

/-- A constraint clause. -/
def addConstraint (draft : RuleDraft K) (clause : Form) : RuleDraft K :=
  match Constraint.ofForm draft.rule clause with
  | .ok constraint =>
    { draft with
      rule := { draft.rule with constraints := draft.rule.constraints ++ [constraint] } }
  | .error fault => draft.report clause.line (.constraint fault)

omit [Scalar K] in
/-- A layer clause. -/
def setLayer (draft : RuleDraft K) (clause : Form) : RuleDraft K :=
  match clause.argument? with
  | some pattern => { draft with rule := { draft.rule with layer := some ⟨pattern⟩ } }
  | none => draft.damage clause.line .layerWithoutName

omit [Scalar K] in
/-- A severity clause. -/
def setSeverity (draft : RuleDraft K) (clause : Form) : RuleDraft K :=
  match clause.argument? with
  | none => draft.report clause.line .severityWithoutValue
  | some word =>
    match Severity.ofWord? word with
    | some severity => { draft with rule := { draft.rule with severity := severity } }
    | none => draft.report clause.line (.unknownSeverity word)

/-- One more clause. -/
def add (slots : SlotTable) (draft : RuleDraft K) (clause : Form) : RuleDraft K :=
  match clause.head? with
  | some "condition" => draft.addCondition slots clause
  | some "constraint" => draft.addConstraint clause
  | some "layer" => draft.setLayer clause
  | some "severity" => draft.setSeverity clause
  | some "disabled" => { draft with rule := { draft.rule with enabled := false } }
  | some word => draft.damage clause.line (.unknownClause word)
  | none => draft.damage clause.line (.strayPart (clause.atom?.getD "(...)"))

/-- The end of the rule: a damaged one keeps the text of its condition only. -/
def finish (draft : RuleDraft K) : RuleDraft K :=
  let source := (draft.rule.condition.map Code.source).getD ""
  let draft :=
    if draft.isBroken then
      { draft with rule := { draft.rule with condition := some (.never source) } }
    else draft
  if draft.rule.constraints.isEmpty then draft.report draft.rule.line .noConstraints else draft

end RuleDraft

/-- The name of a rule that gives none. -/
def placeholderName (priority : Nat) : String := "<unnamed rule " ++ toString (priority + 1) ++ ">"

/-- The rule of a form, which is the one at position `priority`, with its diagnostics. -/
def Rule.ofForm (slots : SlotTable) (priority : Nat) (form : Form) : Rule K × List Diagnostic :=
  let named := form.argument?
  let start : RuleDraft K :=
    { rule := { name := named.getD (placeholderName priority), priority, line := form.line } }
  let start := if named.isNone then start.damage form.line .noName else start
  let clauses := if named.isSome then form.arguments.drop 1 else form.arguments
  let draft := (clauses.foldl (RuleDraft.add slots) start).finish
  (draft.rule, draft.diagnostics)

/-! ### Documents -/

/-- The version that documents are written in. -/
def supportedVersion : String := "1"

/-- What is wrong with a form of the top level. -/
inductive FormFault where
  | version (written : Option String)
  | unknown (word : Option String)
  deriving DecidableEq, Repr

/-- The text of a fault. -/
def FormFault.message : FormFault → String
  | .version written =>
    "unsupported rule document version " ++ written.getD "<missing>" ++
      "; reading as version " ++ supportedVersion
  | .unknown word => "unknown top-level form '" ++ word.getD "<list>" ++ "'"

/-- The rules of a document in order, with the diagnostics. -/
structure Rules (K : Type) where
  rules : List (Rule K) := []
  diagnostics : List Diagnostic := []

namespace Rules

/-- The rules and diagnostics of some forms, the first rule of which is at position `priority`. -/
def ofForms (slots : SlotTable) : Nat → List Form → Rules K
  | _, [] => {}
  | priority, form :: forms =>
    match form.head? with
    | some "rule" =>
      let (rule, diagnostics) := Rule.ofForm slots priority form
      let rest := ofForms slots (priority + 1) forms
      ⟨rule :: rest.rules, diagnostics ++ rest.diagnostics⟩
    | some "version" =>
      let rest := ofForms slots priority forms
      if form.argument? = some supportedVersion then rest
      else
        let fault := FormFault.version form.argument?
        ⟨rest.rules, .warning form.line fault.message :: rest.diagnostics⟩
    | word =>
      let rest := ofForms slots priority forms
      ⟨rest.rules, .warning form.line (FormFault.unknown word).message :: rest.diagnostics⟩

/-- The rules of a document. -/
def ofText (slots : SlotTable) (text : String) : Rules K :=
  let document := Forms.ofText text
  let rules := ofForms slots 0 document.forms
  ⟨rules.rules, document.diagnostics ++ rules.diagnostics⟩

end Rules

end DesignRules
