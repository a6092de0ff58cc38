/-
**Reports as plain lines.**

* `Report.lines`: diagnostics, violations and indented notes, each on a line, and a closing line.
* `Report.closing`: how many violations there are and which checks took part.
-/

import DesignRules.Report.Basic

namespace DesignRules

namespace Report

variable {K : Type}

/-- Some names, or a word that says that there are none. -/
def listed (names : List String) : String :=
  if names.isEmpty then "none" else ", ".intercalate names

/-- The closing line. -/
def closing (report : Report K) : String :=
  toString report.violations.length ++ " violation(s); providers run: " ++
    listed report.checksRun ++ "; skipped: " ++ listed report.checksSkipped ++
    (if report.truncated then "; truncated" else "") ++
    (if report.cancelled then "; cancelled" else "")

/-- The lines of a report. -/
def lines (report : Report K) : List String :=
  report.diagnostics.map Diagnostic.text ++ report.violations.map Violation.text ++
    report.notes.map ("  " ++ ·) ++ [report.closing]

end Report

end DesignRules
