/-
**What becomes of the tokens of a rule document.**

Written down from the outside in and from left to right, the forms of a document are its opening
parentheses and its atoms, in their order: nothing is lost and nothing is added, however unbalanced
the parentheses are. The depth of each form tells the lists that it stands in.

* `Node`, `Form.nodes`: a form written down.
* `Standing`, `standings`: a token with the number of forms that are open before it.
* `Reading.nodes`: what is read so far, written down.
* `Reading.gathered_read`, `Reading.nodes_step`, `Reading.nodes_read`: one more token, and all of
  them.
* `Forms.nodes_ofTokens`, `Forms.outside_ofTokens`: the forms of a document, and the atoms that have
  no place in them.
* `listLines_standings`, `atoms_standings`, `strays_standings`: the same for lists and atoms apart.
-/

import DesignRules.Proofs.RuleText.Seam

namespace DesignRules.RuleText

/-! ### Forms written down -/

/-- A list with the bare word that starts it, or an atom; the depth is the number of lists around
it. -/
inductive Node where
  | list (depth line : Nat) (head : Option String)
  | leaf (depth line : Nat) (text : String) (quoted : Bool)
  deriving DecidableEq, Repr

namespace Form

mutual

/-- A form at a depth and all that is in it, from left to right. -/
def nodes : Nat → Form → List Node
  | depth, .atom text quoted line => [.leaf depth line text quoted]
  | depth, .list items line =>
    .list depth line (Form.list items line).head? :: allNodes (depth + 1) items

/-- Some forms at a depth and all that is in them. -/
def allNodes : Nat → List Form → List Node
  | _, [] => []
  | depth, form :: forms => form.nodes depth ++ allNodes depth forms

end

theorem allNodes_append (depth : Nat) (front back : List Form) :
    allNodes depth (front ++ back) = allNodes depth front ++ allNodes depth back := by
  induction front with
  | nil => rfl
  | cons form front ih => rw [List.cons_append, allNodes, allNodes, ih, List.append_assoc]

theorem allNodes_singleton (depth : Nat) (form : Form) :
    allNodes depth [form] = form.nodes depth := List.append_nil _

/-- The bare word that a form is. -/
def bareWord? : Form → Option String
  | .atom text false _ => some text
  | _ => none

/-- The bare word that starts a list is its first form. -/
theorem head?_list (items : List Form) (line : Nat) :
    (Form.list items line).head? = items.head?.bind bareWord? := by
  cases items with
  | nil => rfl
  | cons first rest =>
    cases first with
    | atom text quoted start => cases quoted <;> rfl
    | list inner start => rfl

end Form

open Form (allNodes)

/-! ### Tokens in their places -/

/-- The name of a bare word. -/
def Token.bareWord? : Token → Option String
  | .word name => some name
  | _ => none

/-- The text of an atom, and whether it is quoted. -/
def Token.atom? : Token → Option (String × Bool)
  | .word name => some (name, false)
  | .text content _ => some (content, true)
  | _ => none

/-- The bare word that comes next. -/
def nextWord? (next : Option Located) : Option String :=
  next.bind fun located => located.token.bareWord?

/-- A token with the one after it and the number of forms that are open before it. -/
structure Standing where
  located : Located
  next : Option Located
  depth : Nat

namespace Standing

/-- How many forms are open after a token. -/
def depthAfter (standing : Standing) : Nat :=
  match standing.located.token with
  | .opening => if Reading.closes standing.next then 1 else standing.depth + 1
  | .closing => standing.depth - 1
  | _ => standing.depth

/-- The form that a token starts: a list, or an atom if some form is open. -/
def node? (standing : Standing) : Option Node :=
  match standing.located.token with
  | .opening =>
    some (.list (if Reading.closes standing.next then 0 else standing.depth) standing.located.line
      (nextWord? standing.next))
  | token =>
    if standing.depth = 0 then none
    else token.atom?.map fun atom => .leaf standing.depth standing.located.line atom.1 atom.2

/-- The warning about an atom where no form is open. -/
def stray? (standing : Standing) : Option Diagnostic :=
  if standing.depth = 0 then
    standing.located.token.atom?.map fun atom =>
      (Flaw.strayAtom atom.1).diagnostic standing.located.line
  else none

end Standing

/-- The tokens of a document in their places, the first one where some forms are open. -/
def standings (depth : Nat) : List Located → List Standing
  | [] => []
  | located :: rest =>
    ⟨located, rest.head?, depth⟩ ::
      standings (Standing.depthAfter ⟨located, rest.head?, depth⟩) rest

theorem map_located_standings (depth : Nat) (tokens : List Located) :
    (standings depth tokens).map Standing.located = tokens := by
  induction tokens generalizing depth with
  | nil => rfl
  | cons located rest ih => rw [standings, List.map_cons, ih]

/-! ### Open lists written down -/

namespace OpenList

/-- The bare word that starts a list, which for an empty one is yet to come. -/
def head? (coming : Option String) (list : OpenList) : Option String :=
  if list.reversed.isEmpty then coming else list.form.head?

/-- An open list at a depth and all that is in it. -/
def nodes (coming : Option String) (depth : Nat) (list : OpenList) : List Node :=
  .list depth list.line (list.head? coming) :: allNodes (depth + 1) list.reversed.reverse

/-- An open list with one more form. -/
def push (list : OpenList) (form : Form) : OpenList :=
  { list with reversed := form :: list.reversed }

theorem head?_push (list : OpenList) (form : Form) (coming : Option String) :
    (list.push form).head? coming = list.head? form.bareWord? := by
  obtain ⟨reversed, line⟩ := list
  unfold head? push OpenList.form
  simp only [Form.head?_list, List.reverse_cons, List.isEmpty_cons, List.head?_append]
  cases reversed with
  | nil => rfl
  | cons last rest =>
    cases backwards : (last :: rest).reverse with
    | nil => exact absurd backwards (by simp)
    | cons first others => rfl

theorem nodes_push (list : OpenList) (form : Form) (coming : Option String) (depth : Nat) :
    (list.push form).nodes coming depth =
      list.nodes form.bareWord? depth ++ form.nodes (depth + 1) := by
  have items : (list.push form).reversed.reverse = list.reversed.reverse ++ [form] :=
    List.reverse_cons
  rw [nodes, nodes, head?_push, items, Form.allNodes_append, Form.allNodes_singleton,
    List.cons_append]
  rfl

/-- A list that is closed is written down as the open one to which no word is to come. -/
theorem nodes_form (list : OpenList) (depth : Nat) :
    list.form.nodes depth = list.nodes none depth := by
  obtain ⟨reversed, line⟩ := list
  cases reversed with
  | nil => rfl
  | cons last rest => rfl

end OpenList

/-- Some open lists, from the innermost, and all that is in them. -/
def openNodes : List OpenList → List Node
  | [] => []
  | list :: outer => openNodes outer ++ list.nodes none outer.length

namespace Reading

/-- What is read so far; `next` is the token that comes next. -/
def nodes (reading : Reading) (next : Option Located) : List Node :=
  allNodes 0 reading.forms.reverse ++
    match reading.pending with
    | [] => []
    | list :: outer => openNodes outer ++ list.nodes (nextWord? next) outer.length

/-- A form in which open lists are closed is written down as those and what is in them. -/
theorem nodes_collapse {inner : Form} (noWord : inner.bareWord? = none) (outer : List OpenList) :
    (collapse inner outer).nodes 0 = openNodes outer ++ inner.nodes outer.length := by
  induction outer generalizing inner with
  | nil => rfl
  | cons list outer ih =>
    have pushed : collapse inner (list :: outer) = collapse (list.push inner).form outer := rfl
    have isList : (list.push inner).form.bareWord? = none := rfl
    rw [pushed, ih isList, OpenList.nodes_form, OpenList.nodes_push, noWord, openNodes,
      List.length_cons, List.append_assoc]

@[simp] theorem nodes_report (reading : Reading) (line : Nat) (flaw : Flaw)
    (next : Option Located) : (reading.report line flaw).nodes next = reading.nodes next := rfl

theorem pending_closeAll (reading : Reading) : reading.closeAll.pending = [] := by
  obtain ⟨pending, forms, diagnostics⟩ := reading
  cases pending <;> rfl

/-- Closing all lists does not change what is written down. -/
theorem nodes_closeAll (reading : Reading) {next : Option Located} (noWord : nextWord? next = none)
    (other : Option Located) : reading.closeAll.nodes other = reading.nodes next := by
  obtain ⟨pending, forms, diagnostics⟩ := reading
  cases pending with
  | nil => rfl
  | cons list outer =>
    have isList : list.form.bareWord? = none := rfl
    show allNodes 0 (collapse list.form outer :: forms).reverse ++ [] =
      allNodes 0 forms.reverse ++ (openNodes outer ++ list.nodes (nextWord? next) outer.length)
    rw [List.append_nil, List.reverse_cons, Form.allNodes_append, Form.allNodes_singleton,
      nodes_collapse isList, OpenList.nodes_form, noWord]

/-- A list is opened. -/
theorem nodes_opened (reading : Reading) (line : Nat) {next : Option Located}
    (noWord : nextWord? next = none) (after : Option Located) :
    (reading.opened line).nodes after =
      reading.nodes next ++ [.list reading.pending.length line (nextWord? after)] := by
  obtain ⟨pending, forms, diagnostics⟩ := reading
  cases pending with
  | nil => simp [opened, nodes, openNodes, OpenList.nodes, OpenList.head?, Form.allNodes]
  | cons list outer =>
    simp [opened, nodes, openNodes, OpenList.nodes, OpenList.head?, Form.allNodes, noWord]

/-- A complete form is added to an open list. -/
theorem nodes_add {reading : Reading} {list : OpenList} {outer : List OpenList}
    (pending : reading.pending = list :: outer) (form : Form) {next : Option Located}
    (coming : nextWord? next = form.bareWord?) (after : Option Located) :
    (reading.add form).nodes after =
      reading.nodes next ++ form.nodes (outer.length + 1) := by
  obtain ⟨_, forms, diagnostics⟩ := reading
  obtain rfl := pending
  show allNodes 0 forms.reverse ++
      (openNodes outer ++ (list.push form).nodes (nextWord? after) outer.length) = _
  rw [OpenList.nodes_push, ← coming]
  simp [nodes]

theorem nodes_closeList (reading : Reading) (line : Nat) {next : Option Located}
    (noWord : nextWord? next = none) (after : Option Located) :
    (reading.closeList line).nodes after = reading.nodes next := by
  obtain ⟨pending, forms, diagnostics⟩ := reading
  cases pending with
  | nil => rfl
  | cons list outer =>
    cases outer with
    | nil =>
      show allNodes 0 (list.form :: forms).reverse ++ [] = _
      rw [List.append_nil, List.reverse_cons, Form.allNodes_append, Form.allNodes_singleton,
        OpenList.nodes_form]
      simp [nodes, openNodes, noWord]
    | cons parent outer =>
      have isList : nextWord? next = list.form.bareWord? := noWord
      have pending : (⟨parent :: outer, forms, diagnostics⟩ : Reading).pending = parent :: outer :=
        rfl
      have added := nodes_add pending list.form isList after
      refine added.trans ?_
      rw [OpenList.nodes_form]
      simp [nodes, openNodes, noWord]

theorem length_pending_add (reading : Reading) (form : Form) :
    (reading.add form).pending.length = reading.pending.length := by
  obtain ⟨pending, forms, diagnostics⟩ := reading
  cases pending <;> rfl

/-! ### One more token -/

/-- **How many forms are open after one more token.** -/
theorem length_pending_step (reading : Reading) (located : Located) (next : Option Located) :
    (reading.step located next).pending.length =
      Standing.depthAfter ⟨located, next, reading.pending.length⟩ := by
  obtain ⟨token, line⟩ := located
  have atom (text : String) (quoted : Bool) :
      (reading.addAtom text quoted line).pending.length = reading.pending.length := by
    unfold addAtom
    split
    · rfl
    · exact reading.length_pending_add _
  cases token with
  | word name => exact atom name false
  | text content closed => exact atom content true
  | closing =>
    obtain ⟨pending, forms, diagnostics⟩ := reading
    cases pending with
    | nil => rfl
    | cons list outer => exact length_pending_add ⟨outer, forms, diagnostics⟩ list.form
  | opening =>
    show (reading.openList line next).pending.length =
      if closes next then 1 else reading.pending.length + 1
    rw [openList_eq, opened, List.length_cons]
    cases closes next with
    | false => rfl
    | true =>
      by_cases empty : reading.pending.isEmpty = true
      · simp [List.isEmpty_iff.mp empty]
      · simp [empty, pending_closeAll]

/-- An opening parenthesis is written down after the tokens before it, at the top level if it closes
everything that is open. -/
theorem nodes_openList (reading : Reading) (line : Nat) (next : Option Located) :
    (reading.openList line next).nodes next =
      reading.nodes (some ⟨.opening, line⟩) ++
        [.list (if closes next then 0 else reading.pending.length) line (nextWord? next)] := by
  have noWord : nextWord? (some ⟨.opening, line⟩) = none := rfl
  rw [openList_eq]
  cases closes next with
  | false => exact nodes_opened reading line noWord next
  | true =>
    by_cases empty : reading.pending.isEmpty = true
    · have opened := nodes_opened reading line noWord next
      simpa [List.isEmpty_iff.mp empty] using opened
    · have closed := nodes_closeAll (reading.report line (.missingParenthesis line)) noWord
        (some ⟨.opening, line⟩)
      have opened := nodes_opened (reading.report line (.missingParenthesis line)).closeAll line
        noWord next
      rw [closed, pending_closeAll] at opened
      simpa [empty] using opened

/-- An atom is written down after the tokens before it, unless no form is open. -/
theorem nodes_addAtom (reading : Reading) {text : String} {quoted : Bool} {line : Nat}
    {located : Option Located} (coming : nextWord? located = (Form.atom text quoted line).bareWord?)
    (next : Option Located) :
    (reading.addAtom text quoted line).nodes next =
      reading.nodes located ++
        (if reading.pending.length = 0 then none
          else some (.leaf reading.pending.length line text quoted)).toList := by
  unfold addAtom
  cases pending : reading.pending with
  | nil => simp [nodes, report, pending]
  | cons list outer =>
    have added := nodes_add pending (.atom text quoted line) coming next
    simpa [pending, Form.nodes] using added

/-- **One more token** is written down after those before it. -/
theorem nodes_step (reading : Reading) (located : Located) (next : Option Located) :
    (reading.step located next).nodes next =
      reading.nodes (some located) ++
        (Standing.node? ⟨located, next, reading.pending.length⟩).toList := by
  obtain ⟨token, line⟩ := located
  cases token with
  | opening => exact nodes_openList reading line next
  | closing =>
    have noWord : nextWord? (some ⟨.closing, line⟩) = none := rfl
    refine (nodes_closeList reading line noWord next).trans ?_
    simp [Standing.node?, Token.atom?]
  | word name =>
    have coming : nextWord? (some ⟨.word name, line⟩) = (Form.atom name false line).bareWord? := rfl
    exact nodes_addAtom reading coming next
  | text content closed =>
    have coming : nextWord? (some ⟨.text content closed, line⟩) =
        (Form.atom content true line).bareWord? := rfl
    exact nodes_addAtom reading coming next

/-- **All tokens** add up to what each of them adds. -/
theorem gathered_read {α : Type} (gathered : Reading → Option Located → List α)
    (value? : Standing → Option α)
    (adds : ∀ reading located next, gathered (step reading located next) next =
      gathered reading (some located) ++
        (value? ⟨located, next, reading.pending.length⟩).toList)
    (reading : Reading) (tokens : List Located) :
    gathered (reading.read tokens) none =
      gathered reading tokens.head? ++
        (standings reading.pending.length tokens).filterMap value? := by
  induction tokens generalizing reading with
  | nil => exact (List.append_nil _).symm
  | cons located rest ih =>
    rw [read, ih, adds, length_pending_step, standings, List.append_assoc, List.filterMap_cons]
    cases value? ⟨located, rest.head?, reading.pending.length⟩ <;> rfl

theorem nodes_read (reading : Reading) (tokens : List Located) :
    (reading.read tokens).nodes none =
      reading.nodes tokens.head? ++
        (standings reading.pending.length tokens).filterMap Standing.node? :=
  gathered_read nodes Standing.node? nodes_step reading tokens

end Reading

/-! ### Atoms outside of all forms -/

/-- How the warning about an atom outside of all forms ends. -/
def outsideEnding : List Char := "' outside of a form".toList

/-- Whether a diagnostic is about an atom outside of all forms. -/
def isOutside (diagnostic : Diagnostic) : Bool :=
  outsideEnding.isSuffixOf diagnostic.message.toList

/-- Whether a flaw is an atom outside of all forms. -/
def Flaw.isStrayAtom : Flaw → Bool
  | .strayAtom _ => true
  | _ => false

/-- No other flaw has a message with the same ending. -/
theorem isOutside_diagnostic (line : Nat) (flaw : Flaw) :
    isOutside (flaw.diagnostic line) = flaw.isStrayAtom := by
  cases flaw with
  | unterminatedText =>
    show outsideEnding.isSuffixOf Flaw.unterminatedText.message.toList = false
    decide
  | strayParenthesis =>
    show outsideEnding.isSuffixOf Flaw.strayParenthesis.message.toList = false
    decide
  | unclosedForm =>
    show outsideEnding.isSuffixOf Flaw.unclosedForm.message.toList = false
    decide
  | strayAtom text =>
    refine List.isSuffixOf_iff_suffix.mpr ?_
    show outsideEnding <:+ ("unexpected '" ++ text ++ "' outside of a form").toList
    rw [String.toList_append]
    exact List.suffix_append _ _
  | missingParenthesis before =>
    refine eq_false_of_ne_true fun outside => ?_
    have ending : outsideEnding <:+
        ("missing ')' before line " ++ toString before ++ "; closing the open form").toList :=
      List.isSuffixOf_iff_suffix.mp outside
    rw [String.toList_append] at ending
    have shorter := List.suffix_of_suffix_length_le ending
      (List.suffix_append _ "; closing the open form".toList) (by decide)
    exact absurd shorter (by decide)

namespace Reading

/-- The warnings about atoms outside of all forms so far. -/
def outside (reading : Reading) : List Diagnostic := reading.diagnostics.reverse.filter isOutside

theorem outside_report (reading : Reading) (line : Nat) (flaw : Flaw) :
    (reading.report line flaw).outside =
      reading.outside ++ if flaw.isStrayAtom then [flaw.diagnostic line] else [] := by
  show (flaw.diagnostic line :: reading.diagnostics).reverse.filter isOutside = _
  rw [List.reverse_cons, List.filter_append, List.filter_cons, List.filter_nil,
    isOutside_diagnostic]
  rfl

theorem outside_closeAll (reading : Reading) : reading.closeAll.outside = reading.outside := by
  obtain ⟨pending, forms, diagnostics⟩ := reading
  cases pending <;> rfl

theorem outside_add (reading : Reading) (form : Form) :
    (reading.add form).outside = reading.outside := by
  obtain ⟨pending, forms, diagnostics⟩ := reading
  cases pending <;> rfl

theorem outside_openList (reading : Reading) (line : Nat) (next : Option Located) :
    (reading.openList line next).outside = reading.outside := by
  rw [openList_eq]
  split
  · refine (outside_closeAll _).trans ?_
    rw [outside_report]
    exact List.append_nil _
  · rfl

theorem outside_closeList (reading : Reading) (line : Nat) :
    (reading.closeList line).outside = reading.outside := by
  obtain ⟨pending, forms, diagnostics⟩ := reading
  cases pending with
  | nil => exact (outside_report _ line .strayParenthesis).trans (List.append_nil _)
  | cons list outer => exact outside_add ⟨outer, forms, diagnostics⟩ list.form

/-- An atom is reported just if no form is open. -/
theorem outside_addAtom (reading : Reading) (text : String) (quoted : Bool) (line : Nat) :
    (reading.addAtom text quoted line).outside =
      reading.outside ++
        (if reading.pending.length = 0 then some ((Flaw.strayAtom text).diagnostic line)
          else none).toList := by
  unfold addAtom
  cases pending : reading.pending with
  | nil => exact outside_report reading line (.strayAtom text)
  | cons list outer => exact (outside_add reading _).trans (List.append_nil _).symm

/-- **One more token** is reported just if it is an atom where no form is open. -/
theorem outside_step (reading : Reading) (located : Located) (next : Option Located) :
    (reading.step located next).outside =
      reading.outside ++ (Standing.stray? ⟨located, next, reading.pending.length⟩).toList := by
  obtain ⟨token, line⟩ := located
  cases token with
  | opening =>
    refine (outside_openList reading line next).trans ?_
    simp [Standing.stray?, Token.atom?]
  | closing =>
    refine (outside_closeList reading line).trans ?_
    simp [Standing.stray?, Token.atom?]
  | word name => exact outside_addAtom reading name false line
  | text content closed => exact outside_addAtom reading content true line

theorem outside_read (reading : Reading) (tokens : List Located) :
    (reading.read tokens).outside =
      reading.outside ++ (standings reading.pending.length tokens).filterMap Standing.stray? :=
  gathered_read (fun reading _ => reading.outside) Standing.stray? outside_step reading tokens

/-- The end of a document is no atom. -/
theorem outside_finish (reading : Reading) : reading.finish.outside = reading.outside := by
  unfold finish
  split
  · rfl
  · rw [outside_closeAll, outside_report]
    exact List.append_nil _

end Reading

/-! ### Documents -/

namespace Forms

/-- **The forms of a document** are its opening parentheses and the atoms inside, in order. -/
theorem nodes_ofTokens (tokens : List Located) :
    allNodes 0 (ofTokens tokens).forms = (standings 0 tokens).filterMap Standing.node? := by
  have forms : (ofTokens tokens).forms = (Reading.read {} tokens).closeAll.forms.reverse :=
    congrArg List.reverse (Reading.forms_finish _)
  have closed : allNodes 0 (Reading.read {} tokens).closeAll.forms.reverse =
      (Reading.read {} tokens).closeAll.nodes none := by
    rw [Reading.nodes, Reading.pending_closeAll, List.append_nil]
  have noWord : nextWord? none = none := rfl
  rw [forms, closed, Reading.nodes_closeAll _ noWord, Reading.nodes_read]
  rfl

/-- The word `rule` closes the open list, and the first atom has no place. -/
example :
    allNodes 0 (ofText "x (a (rule b)").forms =
      [.list 0 1 (some "a"), .leaf 1 1 "a" false, .list 0 1 (some "rule"), .leaf 1 1 "rule" false,
        .leaf 1 1 "b" false] := by
  decide +kernel

/-- **The atoms outside of all forms** are reported in order. -/
theorem outside_ofTokens (tokens : List Located) :
    (ofTokens tokens).diagnostics.filter isOutside =
      (standings 0 tokens).filterMap Standing.stray? := by
  have texts : (unterminated tokens).filter isOutside = [] := by
    refine List.filter_eq_nil_iff.mpr fun diagnostic member => ?_
    obtain ⟨located, -, reported⟩ := List.mem_filterMap.mp member
    split at reported
    · rw [← Option.some.inj reported, isOutside_diagnostic]
      exact Bool.false_ne_true
    · cases reported
  show (unterminated tokens ++ (Reading.read {} tokens).finish.diagnostics.reverse).filter
    isOutside = _
  rw [List.filter_append, texts, List.nil_append]
  exact (Reading.outside_finish _).trans (Reading.outside_read {} tokens)

end Forms

/-! ### Lists and atoms -/

/-- The line of a list. -/
def Node.listLine? : Node → Option Nat
  | .list _ line _ => some line
  | .leaf .. => none

/-- The text of an atom, whether it is quoted, and its line. -/
def Node.atom? : Node → Option (String × Bool × Nat)
  | .list .. => none
  | .leaf _ line text quoted => some (text, quoted, line)

/-- The line of an opening parenthesis. -/
def Located.openingLine? (located : Located) : Option Nat :=
  if located.token = .opening then some located.line else none

/-- The text of an atom, whether it is quoted, and its line. -/
def Located.atom? (located : Located) : Option (String × Bool × Nat) :=
  located.token.atom?.map fun atom => (atom.1, atom.2, located.line)

namespace Standing

theorem listLine?_node? (standing : Standing) :
    standing.node?.bind Node.listLine? = standing.located.openingLine? := by
  obtain ⟨⟨token, line⟩, next, depth⟩ := standing
  cases token with
  | opening => rfl
  | closing => simp [node?, Token.atom?, Located.openingLine?]
  | word name =>
    by_cases outside : depth = 0 <;>
      simp [node?, Token.atom?, Located.openingLine?, Node.listLine?, outside]
  | text content closed =>
    by_cases outside : depth = 0 <;>
      simp [node?, Token.atom?, Located.openingLine?, Node.listLine?, outside]

theorem atom?_node? (standing : Standing) :
    standing.node?.bind Node.atom? =
      if standing.depth ≠ 0 then standing.located.atom? else none := by
  obtain ⟨⟨token, line⟩, next, depth⟩ := standing
  cases token with
  | opening => simp [node?, Node.atom?, Located.atom?, Token.atom?]
  | closing => simp [node?, Token.atom?, Located.atom?]
  | word name =>
    by_cases outside : depth = 0 <;>
      simp [node?, Token.atom?, Located.atom?, Node.atom?, outside]
  | text content closed =>
    by_cases outside : depth = 0 <;>
      simp [node?, Token.atom?, Located.atom?, Node.atom?, outside]

theorem stray?_eq (standing : Standing) :
    standing.stray? =
      if standing.depth = 0 then
        standing.located.atom?.map fun atom => (Flaw.strayAtom atom.1).diagnostic atom.2.2
      else none := by
  unfold stray? Located.atom?
  rw [Option.map_map]
  rfl

end Standing

/-- Lists are for opening parentheses only. -/
theorem listLines_standings (depth : Nat) (tokens : List Located) :
    ((standings depth tokens).filterMap Standing.node?).filterMap Node.listLine? =
      tokens.filterMap Located.openingLine? := by
  conv_rhs => rw [← map_located_standings depth tokens]
  rw [List.filterMap_filterMap, List.filterMap_map]
  exact List.filterMap_congr fun standing _ => standing.listLine?_node?

/-- The atoms inside are those where some form is open. -/
theorem atoms_standings (depth : Nat) (tokens : List Located) :
    ((standings depth tokens).filterMap Standing.node?).filterMap Node.atom? =
      ((standings depth tokens).filter (·.depth ≠ 0)).filterMap (·.located.atom?) := by
  rw [List.filterMap_filterMap, List.filterMap_filter]
  refine List.filterMap_congr fun standing _ => ?_
  simpa using standing.atom?_node?

/-- The warnings are about the atoms where no form is open. -/
theorem strays_standings (depth : Nat) (tokens : List Located) :
    (standings depth tokens).filterMap Standing.stray? =
      (((standings depth tokens).filter (·.depth = 0)).filterMap (·.located.atom?)).map
        (fun atom => (Flaw.strayAtom atom.1).diagnostic atom.2.2) := by
  rw [List.map_filterMap, List.filterMap_filter]
  refine List.filterMap_congr fun standing _ => ?_
  simpa using standing.stray?_eq

end DesignRules.RuleText
