import DesignRules.Check.Scripted
import DesignRules.Condition.Grammar
import DesignRules.Condition.Meaning
import DesignRules.Glob.Wildcard
import DesignRules.Main
import DesignRules.RuleText.Written
import DesignRules.Proofs.Condition.Execution
import DesignRules.Proofs.Condition.MissingField
import DesignRules.Proofs.Condition.Acceptance
import DesignRules.Proofs.Catalog.Entries
import DesignRules.Proofs.Catalog.FirstMatch
import DesignRules.Proofs.Catalog.Extreme
import DesignRules.Proofs.Catalog.Worst
import DesignRules.Proofs.Clearance.Window
import DesignRules.Proofs.Check.Course
import DesignRules.Proofs.Rule.Relocation
import DesignRules.Proofs.Session.Plan
import DesignRules.Proofs.Session.History
import DesignRules.Proofs.Session.Limit
import DesignRules.Proofs.Session.Tail
import DesignRules.Proofs.Session.Cancel
import DesignRules.Proofs.Check.Whole
import DesignRules.Proofs.Session.Whole
import DesignRules.Proofs.Clearance.Pairs
import DesignRules.Proofs.Rule.Occurrences
import DesignRules.Proofs.Session.Stages
import DesignRules.Proofs.Decimal.Digits
import DesignRules.Proofs.Json.Literal
import DesignRules.Proofs.Json.Quoted
import DesignRules.Proofs.Json.RoundTrip
import DesignRules.Proofs.Json.Records
import DesignRules.Proofs.Identity
import DesignRules.Proofs.Design.RoundTrip
import DesignRules.Proofs.Session.Account
import DesignRules.Proofs.Rule.Warnings
import DesignRules.Proofs.Session.Backing
import DesignRules.Proofs.Condition.Faults
import DesignRules.Proofs.Catalog.LayerNames
import DesignRules.Proofs.Report.RoundTrip
import DesignRules.Proofs.RuleText.ReadBack
import DesignRules.Proofs.Rule.Lines
import DesignRules.Proofs.Command.ExitStatus
import DesignRules.Proofs.Decimal.Signs
import DesignRules.Proofs.Geometry.Rounded
import DesignRules.Proofs.Rule.Consistency
import DesignRules.Proofs.Check.Recorded
import DesignRules.Proofs.Clearance.Justified
import DesignRules.Proofs.Clearance.Order
import DesignRules.Proofs.Design.Corners
import DesignRules.Proofs.Condition.Strictness
import DesignRules.Proofs.Condition.Impasse
import DesignRules.Proofs.Condition.Resolution
import DesignRules.Proofs.Session.Itemwise
import DesignRules.Proofs.Condition.Masks
import DesignRules.Proofs.Condition.Lossless
import DesignRules.Proofs.Catalog.Shadow
import DesignRules.Proofs.Rule.Quiet
import DesignRules.Proofs.Rule.Condensed
import DesignRules.Proofs.Rule.Limits
import DesignRules.Proofs.Rule.Surplus
import DesignRules.Proofs.Condition.Commuting
import DesignRules.Proofs.Condition.Exchange
import DesignRules.Proofs.Report.Callers
import DesignRules.Proofs.Catalog.Hiders
import DesignRules.Proofs.Geometry.Distance
import DesignRules.Proofs.Geometry.Outline
import DesignRules.Proofs.Length.Grammar
import DesignRules.Proofs.Rule.Areas
import DesignRules.Proofs.Condition.Lengths
