/-
**Which rules a document has.**

A parenthesis before the word `rule` always starts a rule, wherever it stands and whatever was left
open before it, and nothing else does. So the rules of a document are counted by these words, each
at its place, and damage to one rule does not shift the places of the others.

* `depth_le_of_mem_nodes`: what is in a form is further inside than the form.
* `ruleLines_forms`, `ruleLines_standings`: the rules among the forms, and among the tokens.
* `Rules.rules_ofForms`, `Rule.line_ofForm`: the rules of some forms, with their lines.
* `Rules.reader_is_faithful`: what becomes of each token of a document.
-/

import DesignRules.Proofs.Rule.Damaged
import DesignRules.Proofs.RuleText.Nodes

namespace DesignRules

namespace RuleText

open Form (allNodes)

/-! ### Rules among the forms -/

/-- How many lists stand around a form. -/
def Node.depth : Node → Nat
  | .list depth _ _ => depth
  | .leaf depth _ _ _ => depth

mutual

/-- What is in a form is as far inside as the form, or further. -/
theorem depth_le_of_mem_nodes {depth : Nat} {node : Node} :
    (form : Form) → node ∈ form.nodes depth → depth ≤ node.depth
  | .atom text quoted line, member => by
    rw [Form.nodes, List.mem_singleton] at member
    exact Nat.le_of_eq (congrArg Node.depth member).symm
  | .list items line, member => by
    rw [Form.nodes] at member
    rcases List.mem_cons.mp member with rfl | inside
    · exact Nat.le_refl depth
    · exact Nat.le_of_succ_le (depth_le_of_mem_allNodes items inside)

theorem depth_le_of_mem_allNodes {depth : Nat} {node : Node} :
    (forms : List Form) → node ∈ allNodes depth forms → depth ≤ node.depth
  | [], member => absurd member List.not_mem_nil
  | form :: forms, member => by
    rw [allNodes] at member
    rcases List.mem_append.mp member with inside | later
    · exact depth_le_of_mem_nodes form inside
    · exact depth_le_of_mem_allNodes forms later

end

/-- The line of a list of the top level that starts with the word `rule`. -/
def Node.ruleLine? : Node → Option Nat
  | .list 0 line (some "rule") => some line
  | _ => none

theorem ruleLine?_eq_none {node : Node} (inside : 0 < node.depth) : node.ruleLine? = none := by
  cases node with
  | leaf depth line text quoted => rfl
  | list depth line head =>
    cases depth with
    | zero => exact absurd inside (Nat.lt_irrefl 0)
    | succ depth => rfl

theorem ruleLine?_list (line : Nat) (head : Option String) :
    (Node.list 0 line head).ruleLine? = if head = some "rule" then some line else none := by
  unfold Node.ruleLine?
  split
  · rename_i same
    cases same
    rfl
  · rename_i other
    rw [if_neg fun same => other line (by rw [same])]

/-- **The rules among some forms** are the forms that start with the word `rule`. -/
theorem ruleLines_forms (forms : List Form) :
    (allNodes 0 forms).filterMap Node.ruleLine? = (forms.filter Form.isRule).map Form.line := by
  induction forms with
  | nil => rfl
  | cons form forms ih =>
    rw [allNodes, List.filterMap_append, ih, List.filter_cons]
    cases form with
    | atom text quoted line => rfl
    | list items line =>
      have inside : (allNodes 1 items).filterMap Node.ruleLine? = [] :=
        List.filterMap_eq_nil_iff.mpr fun node member =>
          ruleLine?_eq_none (depth_le_of_mem_allNodes items member)
      rw [Form.nodes, List.filterMap_cons, inside, ruleLine?_list, Form.isRule]
      by_cases starts : (Form.list items line).head? = some "rule"
      · simp [starts, Form.line]
      · simp [starts]

/-! ### Rules among the tokens -/

/-- The lines of the parentheses that the bare word `rule` follows at once. -/
def ruleLines (tokens : List Located) : List Nat :=
  (tokens.zip tokens.tail).filterMap fun (first, second) =>
    if first.token = .opening ∧ second.token = .word "rule" then some first.line else none

theorem nextWord?_eq_some_iff {next : Option Located} {name : String} :
    nextWord? next = some name ↔ ∃ located, next = some located ∧ located.token = .word name := by
  constructor
  · intro named
    obtain ⟨located, rfl, word⟩ := Option.bind_eq_some_iff.mp named
    obtain ⟨token, line⟩ := located
    cases token with
    | opening => cases word
    | closing => cases word
    | text content closed => cases word
    | word other =>
      obtain rfl := Option.some.inj word
      exact ⟨_, rfl, rfl⟩
  · rintro ⟨located, rfl, word⟩
    show located.token.bareWord? = some name
    rw [word]
    rfl

/-- The words of the top level close what is open. -/
theorem closes_of_nextWord? {next : Option Located} {name : String}
    (named : nextWord? next = some name) (top : name = "rule" ∨ name = "version") :
    Reading.closes next = true := by
  obtain ⟨located, rfl, word⟩ := nextWord?_eq_some_iff.mp named
  show Reading.isTopLevelWord located.token = true
  rw [word]
  simpa [Reading.isTopLevelWord] using top

/-- A list that starts with a word of the top level stands in no other list. -/
theorem depth_eq_zero_of_node? {standing : Standing} {depth line : Nat} {name : String}
    (starts : standing.node? = some (.list depth line (some name)))
    (top : name = "rule" ∨ name = "version") : depth = 0 := by
  obtain ⟨⟨token, start⟩, next, open'⟩ := standing
  unfold Standing.node? at starts
  cases token with
  | opening =>
    obtain ⟨rfl, -, named⟩ := Node.list.inj (Option.some.inj starts)
    exact if_pos (closes_of_nextWord? named top)
  | closing => simp [Token.atom?] at starts
  | word text => simp [Token.atom?] at starts
  | text content closed => simp [Token.atom?] at starts

theorem ruleLine?_node? (standing : Standing) :
    standing.node?.bind Node.ruleLine? =
      if standing.located.token = .opening ∧ nextWord? standing.next = some "rule" then
        some standing.located.line
      else none := by
  obtain ⟨⟨token, line⟩, next, depth⟩ := standing
  cases token with
  | opening =>
    by_cases named : nextWord? next = some "rule"
    · simp [Standing.node?, closes_of_nextWord? named (.inl rfl), ruleLine?_list, named]
    · simp only [Standing.node?, Option.bind_some, named, and_false, if_false]
      cases closes : Reading.closes next with
      | true => exact (ruleLine?_list line _).trans (if_neg named)
      | false =>
        cases depth with
        | zero => exact (ruleLine?_list line _).trans (if_neg named)
        | succ depth => rfl
  | closing => simp [Standing.node?, Token.atom?]
  | word name =>
    by_cases outside : depth = 0 <;> simp [Standing.node?, Token.atom?, Node.ruleLine?, outside]
  | text content closed =>
    by_cases outside : depth = 0 <;> simp [Standing.node?, Token.atom?, Node.ruleLine?, outside]

/-- **The rules among the tokens** are the parentheses before the word `rule`. -/
theorem ruleLines_standings (depth : Nat) (tokens : List Located) :
    ((standings depth tokens).filterMap Standing.node?).filterMap Node.ruleLine? =
      ruleLines tokens := by
  rw [List.filterMap_filterMap, ruleLines]
  induction tokens generalizing depth with
  | nil => rfl
  | cons located rest ih =>
    rw [standings, List.filterMap_cons, ih, ruleLine?_node?]
    cases rest with
    | nil => simp [nextWord?]
    | cons second rest =>
      have follows : nextWord? (second :: rest).head? = some "rule" ↔
          second.token = .word "rule" := by
        rw [List.head?_cons, nextWord?_eq_some_iff]
        constructor
        · rintro ⟨located, same, word⟩
          obtain rfl := Option.some.inj same
          exact word
        · exact fun word => ⟨second, rfl, word⟩
      have tail : (located :: second :: rest).tail = second :: rest := rfl
      rw [tail, List.zip_cons_cons, List.filterMap_cons]
      simp only [follows, List.tail_cons]

end RuleText

variable {K : Type} [Scalar K]

/-! ### Lines of rules -/

namespace RuleDraft

open Condition (SlotTable)
open RuleText (Form)

theorem line_setCondition (slots : SlotTable) (draft : RuleDraft K) (line : Nat) (text : String) :
    (draft.setCondition slots line text).rule.line = draft.rule.line := by
  unfold setCondition
  split
  · rfl
  · split <;> rfl

/-- A clause does not change the line of its rule. -/
theorem line_add (slots : SlotTable) (draft : RuleDraft K) (clause : Form) :
    (draft.add slots clause).rule.line = draft.rule.line := by
  have effect := effect_add slots draft clause
  generalize draft.add slots clause = after at effect ⊢
  cases effect with
  | condition =>
    unfold addCondition
    split
    · rfl
    · dsimp only
      split
      · rfl
      · exact line_setCondition slots _ _ _
  | constraint =>
    unfold addConstraint
    split <;> rfl
  | layer =>
    unfold setLayer
    split <;> rfl
  | severity =>
    unfold setSeverity
    split
    · rfl
    · split <;> rfl
  | disabled => rfl
  | unknown => rfl
  | headless => rfl

theorem line_foldl (slots : SlotTable) (clauses : List Form) (draft : RuleDraft K) :
    (clauses.foldl (add slots) draft).rule.line = draft.rule.line := by
  induction clauses generalizing draft with
  | nil => rfl
  | cons clause clauses ih => exact (ih _).trans (line_add slots draft clause)

end RuleDraft

open Condition (SlotTable)
open RuleText (Form Forms Node Standing Token Flaw Located standings ruleLines isOutside)

theorem Rule.line_ofForm (slots : SlotTable) (priority : Nat) (form : Form) :
    (Rule.ofForm slots priority form : Rule K × List Diagnostic).1.line = form.line := by
  have sealed (draft : RuleDraft K) : draft.finish.rule.line = draft.rule.line := by
    rw [RuleDraft.rule_finish]
    unfold RuleDraft.sealed
    split <;> rfl
  rw [ofForm_eq, sealed, drafted, RuleDraft.line_foldl]
  unfold opening
  split <;> rfl

namespace Rules

/-- **The rules of some forms** are those of the forms that start with the word `rule`, each at its
place among them. -/
theorem rules_ofForms (slots : SlotTable) (priority : Nat) (forms : List Form) :
    (ofForms slots priority forms : Rules K).rules =
      (forms.filter Form.isRule).mapIdx fun place form =>
        (Rule.ofForm slots (priority + place) form).1 := by
  induction forms generalizing priority with
  | nil => rfl
  | cons form forms ih =>
    cases isRule : form.isRule with
    | true =>
      rw [ofForms_of_isRule isRule, append, ih, List.filter_cons_of_pos isRule, List.mapIdx_cons]
      simp only [List.singleton_append, Nat.add_zero, Nat.add_assoc, Nat.add_comm 1]
    | false =>
      rw [ofForms_of_not_isRule isRule, append, ih,
        List.filter_cons_of_neg (ne_true_of_eq_false isRule), List.nil_append]

theorem lines_ofForms (slots : SlotTable) (priority : Nat) (forms : List Form) :
    (ofForms slots priority forms : Rules K).rules.map Rule.line =
      (forms.filter Form.isRule).map Form.line := by
  refine List.ext_getElem? fun place => ?_
  rw [rules_ofForms, List.getElem?_map, List.getElem?_mapIdx, List.getElem?_map, Option.map_map]
  exact congrFun (congrArg Option.map (funext fun form => Rule.line_ofForm slots _ form)) _

/-- **The reader loses nothing and invents nothing.** On any document:

* The forms, written down with their depths, are the opening parentheses and the atoms where a form
  is open, in the order of the tokens.
* There is one list for each opening parenthesis, in order and with its line.
* Each atom stands in a list or outside of all forms. The first ones are the atoms among the forms,
  with their texts, quotes and lines; each of the others has its warning.
* A list that starts with the word `rule` or `version` stands at the top level.
* The rules are those of the top-level forms that start with the word `rule`, each at its place
  among them, and these are the parentheses that the word follows at once. -/
theorem reader_is_faithful (slots : SlotTable) (text : String) :
    let tokens := Token.ofCharacters text.toList
    let document := Forms.ofText text
    let nodes := Form.allNodes 0 document.forms
    let rules := (ofText slots text : Rules K).rules
    nodes = (standings 0 tokens).filterMap Standing.node? ∧
    nodes.filterMap Node.listLine? = tokens.filterMap Located.openingLine? ∧
    (standings 0 tokens).map Standing.located = tokens ∧
    nodes.filterMap Node.atom? =
      ((standings 0 tokens).filter (·.depth ≠ 0)).filterMap (·.located.atom?) ∧
    document.diagnostics.filter isOutside =
      (((standings 0 tokens).filter (·.depth = 0)).filterMap (·.located.atom?)).map
        (fun atom => (Flaw.strayAtom atom.1).diagnostic atom.2.2) ∧
    (∀ depth line name, .list depth line (some name) ∈ nodes → name = "rule" ∨ name = "version" →
      depth = 0) ∧
    rules = (document.forms.filter Form.isRule).mapIdx
      (fun place form => (Rule.ofForm slots place form).1) ∧
    rules.map Rule.line = ruleLines tokens := by
  intro tokens document nodes rules
  have written : nodes = (standings 0 tokens).filterMap Standing.node? :=
    Forms.nodes_ofTokens tokens
  refine ⟨written, ?_, RuleText.map_located_standings 0 tokens, ?_, ?_, ?_, ?_, ?_⟩
  · rw [written, RuleText.listLines_standings]
  · rw [written, RuleText.atoms_standings]
  · exact (Forms.outside_ofTokens tokens).trans (RuleText.strays_standings 0 tokens)
  · intro depth line name listed top
    rw [written] at listed
    obtain ⟨standing, -, starts⟩ := List.mem_filterMap.mp listed
    exact RuleText.depth_eq_zero_of_node? starts top
  · refine (rules_ofForms slots 0 document.forms).trans ?_
    simp only [Nat.zero_add]
  · rw [← RuleText.ruleLines_standings 0 tokens, ← written, RuleText.ruleLines_forms]
    exact lines_ofForms slots 0 document.forms

end Rules

end DesignRules
