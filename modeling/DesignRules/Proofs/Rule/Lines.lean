/-
**The lines of rules and of what is reported.**

Lines are counted by the line ends of a document, except for those that a backslash in a text takes
as they are: each of these puts everything after it one line too high, whether it is a token, a
form, a rule or what is reported.

* `Rules.ruleLines_ofText`: the lines of the rules.
* `Rules.lines_count_unescaped_breaks`: all lines of a document.
* `Rules.escaped_break_is_not_counted`: a text with an escaped line end.
-/

import DesignRules.Proofs.Rule.Warnings

namespace DesignRules.Rules

open Condition (SlotTable)
open RuleText (Form Forms Located Scanner StartsAfter Token WarnsOfFlaw ruleLines)

variable {K : Type} [Scalar K]

/-- The rules of a document bear the lines of the parentheses before the word `rule`. -/
theorem ruleLines_ofText (slots : SlotTable) (text : String) :
    (ofText slots text : Rules K).rules.map Rule.line =
      ruleLines (Token.ofCharacters text.toList) := by
  have forms := Forms.nodes_ofTokens (Token.ofCharacters text.toList)
  rw [← RuleText.ruleLines_standings 0, ← forms, RuleText.ruleLines_forms]
  exact lines_ofForms slots 0 (Forms.ofText text).forms

/-- What is meant by what is reported about a form starts with a token. -/
theorem exists_startsWith_part {slots : SlotTable} {tokens : List Located} {form part : Form}
    (listed : form ∈ (Forms.ofTokens tokens).forms) {diagnostic : Diagnostic}
    (notice : Notice K slots form part diagnostic) :
    ∃ located ∈ tokens, part.StartsWith located := by
  rcases notice.part with rfl | given
  · exact Forms.exists_startsWith_form listed
  · exact Forms.exists_startsWith_argument listed given

/-- **Lines count all line ends but the escaped ones.** On any document:

* Each token starts somewhere. Its line is one and the number of line ends before its first
  character, less the number of those that a backslash in a text takes.
* Each list and each atom bears the line of the token that it starts with.
* The rules bear the lines of the parentheses before the word `rule`, in order.
* Whatever is reported bears the line of a token: of the one that has a flaw, or of the first one of
  the form or the clause that has a fault. -/
theorem lines_count_unescaped_breaks (slots : SlotTable) (text : String) :
    let characters := text.toList
    let tokens := Token.ofCharacters characters
    let document := Forms.ofText text
    let rules : Rules K := ofText slots text
    (∀ place located, tokens[place]? = some located →
      (∃ front, StartsAfter characters front place) ∧
        ∀ front, StartsAfter characters front place →
          located.token.first? = characters[front.length]? ∧
            located.line + Scanner.start.escapedBreaks front = 1 + front.count '\n') ∧
    (∀ node ∈ Form.allNodes 0 document.forms, ∃ located ∈ tokens, node.StartsWith located) ∧
    rules.rules.map Rule.line = ruleLines tokens ∧
    ∀ diagnostic ∈ rules.diagnostics, ∃ located ∈ tokens, diagnostic.line = some located.line ∧
      (WarnsOfFlaw located diagnostic ∨
        ∃ form ∈ document.forms, ∃ part, part.StartsWith located ∧
          Notice K slots form part diagnostic) := by
  intro characters tokens document rules
  refine ⟨fun place located listed => ?_, fun node => Forms.exists_startsWith,
    ruleLines_ofText slots text, fun diagnostic reported => ?_⟩
  · have inside : place < tokens.length := (List.getElem?_eq_some_iff.mp listed).1
    exact ⟨RuleText.exists_startsAfter characters inside,
      fun front starts => RuleText.line_of_startsAfter starts listed⟩
  · rcases exists_cause reported with ⟨located, listed, warns⟩ | ⟨form, listed, part, notice⟩
    · refine ⟨located, listed, ?_, .inl warns⟩
      obtain ⟨flaw, -, rfl⟩ := warns
      rfl
    · obtain ⟨located, token, starts⟩ := exists_startsWith_part listed notice
      refine ⟨located, token, ?_, .inr ⟨form, listed, part, starts, notice⟩⟩
      rw [notice.line, Form.line_of_startsWith starts]

/-- **An escaped line end is not counted**: what stands in the third line bears the second one. -/
theorem escaped_break_is_not_counted :
    let front := "(rule \"a\\\nb\")\n"
    let text := front ++ "(rule c)"
    let rules : Rules Float := ofText .standard text
    StartsAfter text.toList front.toList 4 ∧ 1 + front.toList.count '\n' = 3 ∧
      (Token.ofCharacters text.toList)[4]? = some ⟨.opening, 2⟩ ∧
      rules.rules.map Rule.line = [1, 2] ∧
      rules.diagnostics.map Diagnostic.line = [some 1, some 2] :=
  ⟨⟨'(', "rule c)".toList, by decide +kernel, by decide +kernel, by decide +kernel⟩,
    by decide +kernel, by decide +kernel, by decide +kernel, by decide +kernel⟩

end DesignRules.Rules
