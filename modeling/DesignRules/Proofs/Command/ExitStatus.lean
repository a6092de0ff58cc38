/-
**The exit status of a check.**

The program ends with status one if an error is among the violations of its report. Under a limit a
report lists the first violations only, so the status tells whether an error is among these: one
that comes after them is not seen. How often the checks look whether to stop makes no difference.

* `Session.violations_run_of_plans`: a report under a limit, beside one without a limit.
* `CheckCommand.status_eq`, `CheckCommand.load_eq_ok`, `Ending.exists_finished`: the status for a
  report, what is loaded, and how the program ends.
* `Ending.status_of_first_violations`: the status of the program.
* `Ending.limit_can_hide_error`: a limit that changes the status.
-/

import DesignRules.Command.Run
import DesignRules.Proofs.Design.RoundTrip
import DesignRules.Proofs.Session.Tail

namespace DesignRules

/-! ### Sessions that are loaded before checks are registered -/

namespace Session

variable {K : Type} [Scalar K]

theorem plan_registerAll_load (settings : Settings) (rules : String) (checks : List (Check K)) :
    ((Session.load { settings } rules).registerAll checks).plan =
      Plan.ofRules settings (rulesOf (some rules)) checks := by
  have performed : (Session.load { settings } rules).registerAll checks =
      after { settings } (.load rules :: checks.map .register) := by
    rw [after, List.foldl_cons, List.foldl_map]
    rfl
  have documents : (Operation.load rules :: checks.map Operation.register).filterMap
      Operation.document? = [rules] := by
    rw [List.filterMap_cons, documents_map_register]
    rfl
  have registers : registered (.load rules :: checks.map .register) = checks :=
    registered_map_register checks
  rw [performed, plan_after, registers, lastDocument?, documents]
  rfl

/-- **A report under a limit** lists the first violations of one without a limit, whatever else the
settings are. -/
theorem violations_run_of_plans {session other : Session K} {settings others : Settings}
    {rules : Rules K} {checks : List (Check K)}
    (planned : session.plan = Plan.ofRules settings rules checks)
    (planned' : other.plan = Plan.ofRules others rules checks)
    (unset : session.signal = .never) (unset' : other.signal = .never)
    (unlimited : others.maxViolations = none)
    (standard : ∀ check ∈ checks, check ∈ Check.standard) (design : Design K) :
    (session.run design).2.report.violations =
      admitted settings.maxViolations (other.run design).2.report.violations := by
  have catalogs : session.plan.catalog = other.plan.catalog := by
    rw [planned, planned']
    rfl
  have rosters : session.plan.roster = other.plan.roster := by
    rw [planned, planned']
    rfl
  have set : session.settings = settings :=
    session.compiled_frame.1.symm.trans (congrArg Plan.settings planned)
  have set' : other.settings = others :=
    other.compiled_frame.1.symm.trans (congrArg Plan.settings planned')
  have registers : session.checks = checks := by
    rw [← map_fst_roster, planned, Plan.ofRules, List.map_map]
    exact List.map_id checks
  have tours : ∀ check ∈ session.checks, check.IsTour := by
    rw [registers]
    exact fun check member => isTour_of_mem_standard (standard check member)
  have free : other.settings.maxViolations = none := by rw [set', unlimited]
  have cuts := cuts_finalState_of_plan catalogs rosters unset unset' free tours design
  rw [violations_run, violations_run, cuts.violations, set]

end Session

/-! ### Commands -/

/-- The exit status for a report. -/
theorem CheckCommand.status_eq (report : Report Float) :
    status report =
      if report.violations.any fun violation => violation.severity == .error then 1 else 0 := by
  have errors : report.hasErrors =
      report.violations.any fun violation => violation.severity == .error := by
    rw [Bool.eq_iff_iff, Report.hasErrors, decide_eq_true_eq, Report.count, List.countP_pos_iff,
      List.any_eq_true]
  rw [status, errors]

section Loaded

variable {arguments : List String} {files : Files} {command : CheckCommand} {settings : Settings}
  {rules text : String} {design : Design Float}

/-- What is loaded from files that can be read. -/
theorem CheckCommand.load_eq_ok (chosen : command.loadSettings files = .ok settings)
    (ruled : files command.rules = some rules) (drawn : files command.design = some text)
    (valid : Design.ofText text = .ok design) :
    command.load files = .ok (Session.load { settings } rules, design) := by
  have rulesRead : files.read command.rules = .ok rules := by rw [Files.read, ruled]
  have designRead : files.read command.design = .ok text := by rw [Files.read, drawn]
  simp only [load, chosen, rulesRead, designRead, valid, bind, Except.bind, pure, Except.pure]

namespace Ending

variable (asks : Invocation.read {} arguments = .ok (.check command))
  (chosen : command.loadSettings files = .ok settings) (ruled : files command.rules = some rules)
  (drawn : files command.design = some text) (valid : Design.ofText text = .ok design)

include asks chosen ruled drawn valid

/-- How the program ends that can load everything. -/
theorem exists_finished :
    ∃ output log, ofArguments arguments files =
      .finished (CheckCommand.status
        (((Session.load { settings } rules).registerAll Check.standard).run design).2.report)
        output log := by
  have loaded := CheckCommand.load_eq_ok chosen ruled drawn valid
  rw [ofArguments, asks]
  dsimp only
  rw [CheckCommand.execute, loaded]
  exact ⟨_, _, rfl⟩

/-- **The exit status tells of the first violations.** Where rules, design and settings can be
loaded, the program ends with status one if an error is among the violations that are found without
a limit, as many of them from the first on as the limit admits, and with status zero otherwise. How
often the checks look whether to stop makes no difference, in either run. -/
theorem status_of_first_violations (others : Settings) (unlimited : others.maxViolations = none) :
    let found :=
      ((Session.fresh others Check.standard (some rules)).run design).2.report.violations
    let seen := admitted settings.maxViolations found
    ∃ output log, ofArguments arguments files =
      .finished (if seen.any fun violation => violation.severity == .error then 1 else 0)
        output log := by
  intro found seen
  obtain ⟨output, log, ends⟩ := exists_finished asks chosen ruled drawn valid
  have unset : ((Session.load { settings } rules).registerAll
      (Check.standard : List (Check Float))).signal = .never :=
    Session.signal_registerAll _ _
  have cut := Session.violations_run_of_plans (Session.plan_registerAll_load settings rules _)
    (Session.plan_fresh others _ (some rules)) unset (Session.signal_fresh ..) unlimited
    (fun _ => id) design
  rw [CheckCommand.status_eq, cut] at ends
  exact ⟨output, log, ends⟩

end Ending

end Loaded

/-! ### A limit that hides an error -/

namespace Ending

/-- A square on a layer. -/
def squareOn (layer : LayerId) (name : String) : Item Float :=
  { id := .nil, name, shape := .rectangle ⟨layer, ⟨0.0, 0.0⟩, ⟨1.0, 1.0⟩⟩ }

/-- A square on each of two layers. -/
def twoSides : Design Float where
  id := .nil
  name := "two sides"
  stack := ⟨[⟨0, "F.Cu", .conductor, ""⟩, ⟨1, "B.Cu", .conductor, ""⟩]⟩
  items := [squareOn 0 "front", squareOn 1 "back"]

/-- Rectangles in front deserve a warning, and others are errors. -/
def softInFront : String :=
  "(rule soft (layer F.Cu) (severity warning) (constraint disallow rect))\n" ++
    "(rule hard (constraint disallow rect))"

/-- The rules, the design, and settings with a limit of one. -/
def onDisk : Files := fun name =>
  if name = "rules" then some softInFront
  else if name = "design" then some twoSides.text
  else if name = "settings" then some "\x7b\"max_violations\": 1\x7d"
  else none

/-- The arguments that name all three files. -/
def allThree : List String :=
  ["--rules", "rules", "--design", "design", "--settings", "settings"]

/-- The command that these arguments give. -/
def checkAllThree : CheckCommand := ⟨"rules", "design", some "settings", .text, false⟩

theorem read_allThree : Invocation.read {} allThree = .ok (.check checkAllThree) := by
  decide +kernel

theorem loadSettings_onDisk :
    checkAllThree.loadSettings onDisk = .ok { maxViolations := some 1 } := by
  decide +kernel

theorem ofText_twoSides : Design.ofText twoSides.text = .ok twoSides := by
  have back : ∀ x ∈ twoSides.numbers, Json.ReadsBack x := by decide +kernel
  rw [Design.ofText_text_eq_validate back]
  decide +kernel

theorem status_of_first_violations_of_two_sides :
    Invocation.read {} allThree = .ok (.check checkAllThree) ∧
      checkAllThree.loadSettings onDisk = .ok { maxViolations := some 1 } ∧
      onDisk "rules" = some softInFront ∧ onDisk "design" = some twoSides.text ∧
      Design.ofText twoSides.text = .ok twoSides ∧
      ∃ output log, ofArguments allThree onDisk = .finished 0 output log := by
  have ruled : onDisk "rules" = some softInFront := rfl
  have drawn : onDisk "design" = some twoSides.text := rfl
  have ends := status_of_first_violations read_allThree loadSettings_onDisk ruled drawn
    ofText_twoSides { progressInterval := 1 } rfl
  have harmless : (admitted (some 1)
      ((Session.fresh { progressInterval := 1 } Check.standard (some softInFront)).run
        twoSides).2.report.violations).any (fun violation => violation.severity == .error) =
          false := by
    decide +kernel
  refine ⟨read_allThree, loadSettings_onDisk, ruled, drawn, ofText_twoSides, ?_⟩
  dsimp only at ends
  rw [harmless] at ends
  exact ends

/-- **A limit can hide an error**: the first violation is a warning, and the second one, which is an
error, is not recorded. -/
theorem limit_can_hide_error :
    (∃ output log, ofArguments allThree onDisk = .finished 0 output log) ∧
      ((Session.fresh {} Check.standard (some softInFront)).run twoSides).2.report.hasErrors =
        true := by
  have harmless : CheckCommand.status
      (((Session.load { settings := { maxViolations := some 1 } } softInFront).registerAll
        Check.standard).run twoSides).2.report = 0 := by
    decide +kernel
  have ends := exists_finished read_allThree loadSettings_onDisk rfl rfl ofText_twoSides
  rw [harmless] at ends
  exact ⟨ends, by decide +kernel⟩

end Ending

end DesignRules
