/-
**Written forms are read back.**

The words `rule` and `version` are for lists of the top level. If no list inside of another one
starts with them, the reader has nothing to repair: it closes each list at its own parenthesis, so
that any text of some lists is read as these lists, and nothing is reported.

* `Form.isInner`, `Form.isOuter`: forms that can stand in a list, and lists of the top level.
* `Form.isSpelled`, `exists_writtenItems`: forms that can be written, and a text for them.
* `Form.unlined`: a form apart from its lines.
* `Reading.read_list`, `Reading.read_inner`, `Reading.read_outer`: a list whose items are read back,
  a form, and the lists of a document.
* `Forms.written_forms_read_back`: any text of a document.
-/

import DesignRules.Proofs.RuleText.Spelling

namespace DesignRules.RuleText

/-! ### Forms in their places -/

namespace Form

mutual

/-- Whether no list in a form, the form itself included, starts with a word of the top level. -/
def isInner : Form → Bool
  | .atom _ _ _ => true
  | .list items line =>
    !((Form.list items line).head?.any fun name => Reading.isTopLevelWord (.word name)) &&
      allInner items

/-- Whether no list in some forms starts with a word of the top level. -/
def allInner : List Form → Bool
  | [] => true
  | form :: forms => form.isInner && allInner forms

end

/-- Whether a form is a list in which no other list starts with a word of the top level. -/
def isOuter : Form → Bool
  | .atom _ _ _ => false
  | .list items _ => allInner items

mutual

/-- Whether each bare atom in a form can be written bare. -/
def isSpelled : Form → Bool
  | .atom text quoted _ => quoted || isBare text
  | .list items _ => allSpelled items

/-- Whether each bare atom in some forms can be written bare. -/
def allSpelled : List Form → Bool
  | [] => true
  | form :: forms => form.isSpelled && allSpelled forms

end

mutual

/-- A form without its lines. -/
def unlined : Form → Form
  | .atom text quoted _ => .atom text quoted 0
  | .list items _ => .list (allUnlined items) 0

/-- Some forms without their lines. -/
def allUnlined : List Form → List Form
  | [] => []
  | form :: forms => form.unlined :: allUnlined forms

end

theorem allUnlined_eq_map (forms : List Form) : allUnlined forms = forms.map unlined := by
  induction forms with
  | nil => rfl
  | cons form forms ih => rw [allUnlined, ih, List.map_cons]

theorem allSpelled_iff {forms : List Form} :
    allSpelled forms = true ↔ ∀ form ∈ forms, form.isSpelled = true := by
  induction forms with
  | nil => simp [allSpelled]
  | cons form forms ih => rw [allSpelled, Bool.and_eq_true, ih, List.forall_mem_cons]

mutual

/-- Every text among the tokens of a form is closed. -/
theorem not_mem_tokens (content : String) : (form : Form) →
    Token.text content false ∉ form.tokens
  | .atom _ true _ => by simp [tokens]
  | .atom _ false _ => by simp [tokens]
  | .list items _ => by
    have inside := not_mem_allTokens content items
    simp [tokens, inside]

theorem not_mem_allTokens (content : String) : (forms : List Form) →
    Token.text content false ∉ allTokens forms
  | [] => List.not_mem_nil
  | form :: forms => by
    rw [allTokens, List.mem_append]
    exact not_or.mpr ⟨not_mem_tokens content form, not_mem_allTokens content forms⟩

end

end Form

open Form (allInner allSpelled allTokens allUnlined)

/-! ### Forms that can be written -/

theorem gap_space : Gap [' '] := .blank (by decide) .nothing

mutual

/-- A form whose bare atoms can be written bare has a text. -/
theorem exists_written : (form : Form) → form.isSpelled = true → ∃ text, Written form text
  | .atom text true _, _ => ⟨quotedText text, .quoted⟩
  | .atom text false _, spelled => ⟨text.toList, .bare spelled⟩
  | .list items _, spelled => by
    obtain ⟨text, written⟩ := exists_writtenItems items spelled
    exact ⟨'(' :: text ++ [')'], .list written⟩

theorem exists_writtenItems : (forms : List Form) → allSpelled forms = true →
    ∃ text, WrittenItems forms text
  | [], _ => ⟨[], .none .nothing⟩
  | [form], spelled => by
    rw [allSpelled, Bool.and_eq_true] at spelled
    obtain ⟨text, written⟩ := exists_written form spelled.1
    exact ⟨_, .last .nothing written .nothing⟩
  | form :: next :: forms, spelled => by
    rw [allSpelled, Bool.and_eq_true] at spelled
    obtain ⟨text, written⟩ := exists_written form spelled.1
    obtain ⟨others, follow⟩ := exists_writtenItems (next :: forms) spelled.2
    exact ⟨_, .more .nothing written gap_space (List.cons_ne_nil _ _) follow⟩

end

/-! ### Reading the tokens of forms -/

namespace Reading

/-- An atom goes into the open list. -/
theorem read_atom {reading : Reading} (inside : reading.pending ≠ []) (text : String)
    (quoted : Bool) (line : Nat) :
    reading.addAtom text quoted line = reading.add (.atom text quoted line) := by
  unfold addAtom
  exact if_neg fun empty => inside (List.isEmpty_iff.mp empty)

theorem pending_add_ne_nil {reading : Reading} (inside : reading.pending ≠ []) (form : Form) :
    (reading.add form).pending ≠ [] := by
  obtain ⟨pending, forms, diagnostics⟩ := reading
  cases pending with
  | nil => exact absurd rfl inside
  | cons list outer => exact List.cons_ne_nil _ _

/-- Forms that are added after a parenthesis are the items of its list. -/
theorem closeList_foldl_add (reading : Reading) (reversed forms : List Form) (line other : Nat) :
    (forms.foldl add { reading with pending := ⟨reversed, line⟩ :: reading.pending }).closeList
        other =
      reading.add (.list (reversed.reverse ++ forms) line) := by
  induction forms generalizing reversed with
  | nil =>
    rw [List.append_nil]
    rfl
  | cons form forms ih =>
    have added := ih (form :: reversed)
    rw [List.reverse_cons, List.append_assoc] at added
    exact added

/-- The first token of some items, or the parenthesis after them, is a word of the top level only if
the list starts with one. -/
theorem closes_items {items : List Form} {line : Nat}
    (inner : ((Form.list items line).head?.any fun name => isTopLevelWord (.word name)) = false)
    {front : List Located} (tokens : front.map Located.token = allTokens items) {last : Located}
    (closing : last.token = .closing) (back : List Located) :
    closes (front ++ last :: back).head? = false := by
  have ends : isTopLevelWord last.token = false := by rw [closing]; rfl
  cases front with
  | nil => exact ends
  | cons first front =>
    show isTopLevelWord first.token = false
    cases items with
    | nil => cases tokens
    | cons form items =>
      cases form with
      | atom text quoted start =>
        cases quoted with
        | true =>
          obtain ⟨starts, -⟩ := List.cons.inj tokens
          rw [starts]
          rfl
        | false =>
          obtain ⟨starts, -⟩ := List.cons.inj tokens
          rw [starts]
          exact inner
      | list others start =>
        obtain ⟨starts, -⟩ := List.cons.inj tokens
        rw [starts]
        rfl

/-- The tokens of a list: its items between two parentheses. -/
theorem exists_of_tokens_list {items : List Form} {line : Nat} {front : List Located}
    (tokens : front.map Located.token = (Form.list items line).tokens) :
    ∃ first inside last, front = first :: (inside ++ [last]) ∧ first.token = .opening ∧
      inside.map Located.token = allTokens items ∧ last.token = .closing := by
  rw [Form.tokens, List.map_eq_cons_iff] at tokens
  obtain ⟨first, others, rfl, opening, tokens⟩ := tokens
  obtain ⟨inside, ending, rfl, inner, ends⟩ := List.map_eq_append_iff.mp tokens
  obtain ⟨last, rfl, closing⟩ := List.map_eq_singleton_iff.mp ends
  exact ⟨first, inside, last, rfl, opening, inner, closing⟩

/-- An opening parenthesis repairs nothing at the top level, nor before what is no word of the top
level. -/
theorem openList_of_inner (reading : Reading) (line : Nat) {next : Option Located}
    (placed : reading.pending = [] ∨ closes next = false) :
    reading.openList line next = reading.opened line := by
  rw [openList_eq]
  rcases placed with empty | inner
  · rw [empty]
    simp
  · rw [inner]
    simp

/-- Whether some items are read back, but for their lines, wherever a list is open. -/
def AreReadBack (items : List Form) : Prop :=
  ∀ {front : List Located}, front.map Located.token = allTokens items →
    ∀ {reading : Reading}, reading.pending ≠ [] → ∀ back : List Located,
      ∃ others : List Form, others.map Form.unlined = items.map Form.unlined ∧
        reading.read (front ++ back) = (others.foldl add reading).read back

/-- **A list is read back** that stands at the top level or starts with no word of it, if its items
are. -/
theorem read_list {items : List Form} (readBack : AreReadBack items) {line : Nat}
    {front : List Located} (tokens : front.map Located.token = (Form.list items line).tokens)
    {reading : Reading} (placed : reading.pending = [] ∨
      ((Form.list items line).head?.any fun name => isTopLevelWord (.word name)) = false)
    (back : List Located) :
    ∃ other : Form, other.unlined = (Form.list items line).unlined ∧
      reading.read (front ++ back) = (reading.add other).read back := by
  obtain ⟨⟨first, start⟩, inside, ⟨last, finish⟩, rfl, opens, written, ends⟩ :=
    exists_of_tokens_list tokens
  obtain rfl : first = .opening := opens
  obtain rfl : last = .closing := ends
  have next : reading.pending = [] ∨
      closes (inside ++ ⟨.closing, finish⟩ :: back).head? = false :=
    placed.imp_right fun free => closes_items free written rfl back
  have begun := openList_of_inner reading start next
  have isOpen : (reading.opened start).pending ≠ [] := List.cons_ne_nil _ _
  obtain ⟨others, same, reads⟩ := readBack written isOpen (⟨.closing, finish⟩ :: back)
  refine ⟨.list others start, ?_, ?_⟩
  · rw [Form.unlined, Form.unlined, Form.allUnlined_eq_map, Form.allUnlined_eq_map, same]
  · calc
      reading.read (⟨.opening, start⟩ :: (inside ++ [⟨.closing, finish⟩]) ++ back)
        = (reading.openList start (inside ++ ⟨.closing, finish⟩ :: back).head?).read
            (inside ++ ⟨.closing, finish⟩ :: back) := by
          rw [List.cons_append, List.append_assoc]
          rfl
      _ = ((others.foldl add (reading.opened start)).closeList finish).read back := by
          rw [begun, reads]
          rfl
      _ = (reading.add (.list others start)).read back := by
          rw [opened, closeList_foldl_add]
          rfl

mutual

/-- **A form that stands in a list is read back**, but for its lines. -/
theorem read_inner : (form : Form) → form.isInner = true → ∀ {front : List Located},
    front.map Located.token = form.tokens → ∀ {reading : Reading}, reading.pending ≠ [] →
    ∀ back : List Located, ∃ other : Form, other.unlined = form.unlined ∧
      reading.read (front ++ back) = (reading.add other).read back
  | .atom text quoted line, _, front, tokens, reading, inside, back => by
    cases quoted with
    | true =>
      obtain ⟨⟨token, start⟩, rfl, written⟩ := List.map_eq_singleton_iff.mp tokens
      obtain rfl : token = .text text true := written
      refine ⟨.atom text true start, rfl, ?_⟩
      rw [← read_atom inside]
      rfl
    | false =>
      obtain ⟨⟨token, start⟩, rfl, written⟩ := List.map_eq_singleton_iff.mp tokens
      obtain rfl : token = .word text := written
      refine ⟨.atom text false start, rfl, ?_⟩
      rw [← read_atom inside]
      rfl
  | .list items line, inner, front, tokens, reading, inside, back => by
    rw [Form.isInner, Bool.and_eq_true, Bool.not_eq_true'] at inner
    exact read_list (read_items items inner.2) tokens (.inr inner.1) back

/-- The items of a list are read back. -/
theorem read_items : (items : List Form) → allInner items = true → AreReadBack items
  | [], _, front, tokens, reading, _, back => by
    obtain rfl : front = [] := List.map_eq_nil_iff.mp tokens
    exact ⟨[], rfl, rfl⟩
  | form :: forms, inner, front, tokens, reading, inside, back => by
    rw [allInner, Bool.and_eq_true] at inner
    obtain ⟨here, later, rfl, first, rest⟩ := List.map_eq_append_iff.mp tokens
    obtain ⟨other, same, reads⟩ := read_inner form inner.1 first inside (later ++ back)
    obtain ⟨others, alike, goesOn⟩ := read_items forms inner.2 rest
      (pending_add_ne_nil inside other) back
    refine ⟨other :: others, ?_, ?_⟩
    · rw [List.map_cons, List.map_cons, same, alike]
    · rw [List.append_assoc, reads, goesOn]
      rfl

end

/-- **The lists of a document are read back**, and nothing is reported. -/
theorem read_outer {forms : List Form} (outer : ∀ form ∈ forms, form.isOuter = true)
    {tokens : List Located} (written : tokens.map Located.token = allTokens forms)
    {reading : Reading} (outside : reading.pending = []) :
    ∃ others : List Form, others.map Form.unlined = forms.map Form.unlined ∧
      reading.read tokens = { reading with forms := others.reverse ++ reading.forms } := by
  induction forms generalizing tokens reading with
  | nil =>
    obtain rfl : tokens = [] := List.map_eq_nil_iff.mp written
    exact ⟨[], rfl, rfl⟩
  | cons form forms ih =>
    obtain ⟨here, others⟩ := List.forall_mem_cons.mp outer
    obtain ⟨front, back, rfl, first, rest⟩ := List.map_eq_append_iff.mp written
    cases form with
    | atom text quoted line => cases here
    | list items line =>
      obtain ⟨other, same, reads⟩ := read_list (read_items items here) first (.inl outside) back
      have added : reading.add other = { reading with forms := other :: reading.forms } := by
        rw [add, outside]
      have still : (reading.add other).pending = [] := by
        rw [added]
        exact outside
      obtain ⟨more, alike, goesOn⟩ := ih others rest still
      refine ⟨other :: more, ?_, ?_⟩
      · rw [List.map_cons, List.map_cons, same, alike]
      · rw [reads, goesOn, added, List.reverse_cons, List.append_assoc]
        rfl

end Reading

/-! ### Documents -/

namespace Forms

/-- **The lists that some tokens make up are read back**, and nothing is reported. -/
theorem ofTokens_of_outer {forms : List Form} (outer : ∀ form ∈ forms, form.isOuter = true)
    {tokens : List Located} (written : tokens.map Located.token = allTokens forms) :
    (ofTokens tokens).forms.map Form.unlined = forms.map Form.unlined ∧
      (ofTokens tokens).diagnostics = [] := by
  have closed : unterminated tokens = [] := by
    refine List.filterMap_eq_nil_iff.mpr fun located member => ?_
    split
    · rename_i content ends
      have listed := List.mem_map_of_mem (f := Located.token) member
      rw [ends, written] at listed
      exact absurd listed (Form.not_mem_allTokens content forms)
    · rfl
  have outside : ({} : Reading).pending = [] := rfl
  obtain ⟨others, same, reads⟩ := Reading.read_outer outer written outside
  have finished : (Reading.read {} tokens).finish = ⟨[], others.reverse, []⟩ := by
    rw [reads, List.append_nil]
    rfl
  refine ⟨?_, ?_⟩
  · rw [ofTokens, finished]
    show others.reverse.reverse.map Form.unlined = _
    rw [List.reverse_reverse, same]
  · rw [ofTokens, finished, closed]
    rfl

/-- **Written forms are read back.** Lists in which no list starts with the word `rule` or
`version`, and whose bare atoms can be written bare, have a text. However such lists are written,
with white space and comments between their items, reading the text gives these lists, apart from
the lines at which they stand, and reports nothing. -/
theorem written_forms_read_back (forms : List Form) (outer : ∀ form ∈ forms, form.isOuter = true)
    (spelled : ∀ form ∈ forms, form.isSpelled = true) :
    (∃ text : String, WrittenItems forms text.toList) ∧
      ∀ text : String, WrittenItems forms text.toList →
        (ofText text).forms.map Form.unlined = forms.map Form.unlined ∧
          (ofText text).diagnostics = [] := by
  refine ⟨?_, fun text written => ?_⟩
  · obtain ⟨characters, written⟩ := exists_writtenItems forms (Form.allSpelled_iff.mpr spelled)
    exact ⟨String.ofList characters, String.toList_ofList ▸ written⟩
  · obtain ⟨later, spells⟩ := spells_writtenItems written 1
    have tokens := spells [] stopsWord_nil
    rw [List.append_nil] at tokens
    exact ofTokens_of_outer outer (tokens.trans (List.append_nil _))

/-- A version and a rule, whose name needs escapes. Inside of the rule stand an empty list, a list
that starts with a list, and one that starts with a quoted word of the top level. -/
def versionAndRule : List Form :=
  [.list [.atom "version" false 1, .atom "1" false 1] 1,
    .list
      [.atom "rule" false 2, .atom "\"a\"\n\\" true 2, .list [] 3,
        .list [.list [.atom "min" false 3, .atom "2mm" false 4] 3] 3,
        .list [.atom "rule" true 4, .atom "" true 4] 4] 2]

/-- How they may be written: a comment with a quote and a parenthesis stands between them, and
another one ends a word. -/
def versionAndRuleText : String :=
  "(version 1)# \"one (\n(rule \"\\\"a\\\"\\n\\\\\"\n() ((min#\n2mm)) (\"rule\" \"\"))"

theorem written_versionAndRule : WrittenItems versionAndRule versionAndRuleText.toList := by
  have between : Gap ['\n'] := .blank (by decide) .nothing
  have comment : Gap ('#' :: " \"one (".toList ++ ['\n']) := .comment (by decide) .nothing
  have empty : Gap ('#' :: [] ++ ['\n']) := .comment (by decide) .nothing
  have word (name : String) (line : Nat) (bare : isBare name = true := by decide) :
      Written (.atom name false line) name.toList := .bare bare
  have text (content : String) (line : Nat) :
      Written (.atom content true line) (quotedText content) := .quoted
  have list {items : List Form} {characters : List Char} (line : Nat)
      (written : WrittenItems items characters) :
      Written (.list items line) ('(' :: characters ++ [')']) := .list written
  have last {form : Form} {characters : List Char} (written : Written form characters) :
      WrittenItems [form] characters := by
    have alone := WrittenItems.last .nothing written .nothing
    rwa [List.nil_append, List.append_nil] at alone
  have more {form next : Form} {forms : List Form} {characters gap others : List Char}
      (written : Written form characters) (free : Gap gap) (apart : gap ≠ [])
      (follow : WrittenItems (next :: forms) others) :
      WrittenItems (form :: next :: forms) (characters ++ gap ++ others) :=
    .more .nothing written free apart follow
  have version := more (word "version" 1) gap_space (by decide) (last (word "1" 1))
  have least := more (word "min" 3) empty (by decide) (last (word "2mm" 4))
  have quoted := more (text "rule" 4) gap_space (by decide) (last (text "" 4))
  have rule := more (word "rule" 2) gap_space (by decide) <|
    more (text "\"a\"\n\\" 2) between (by decide) <|
      more (list 3 (.none .nothing)) gap_space (by decide) <|
        more (list 3 (last (list 3 least))) gap_space (by decide) <|
          last (list 4 quoted)
  exact more (list 1 version) comment (by decide) (last (list 2 rule))

theorem written_forms_read_back_of_version_and_rule :
    (∀ form ∈ versionAndRule, form.isOuter = true) ∧
      (∀ form ∈ versionAndRule, form.isSpelled = true) ∧
        WrittenItems versionAndRule versionAndRuleText.toList ∧
          (ofText versionAndRuleText).forms.map Form.unlined =
              versionAndRule.map Form.unlined ∧
            (ofText versionAndRuleText).diagnostics = [] := by
  have outer : ∀ form ∈ versionAndRule, form.isOuter = true := by decide
  have spelled : ∀ form ∈ versionAndRule, form.isSpelled = true := by decide
  have back := (written_forms_read_back versionAndRule outer spelled).2 versionAndRuleText
    written_versionAndRule
  exact ⟨outer, spelled, written_versionAndRule, back⟩

end Forms

end DesignRules.RuleText
