/-
**The lines of a document.**

A scanner counts the line ends that it passes, wherever they stand: between tokens, at the end of a
comment, after a word, and where they end a text. It misses those that a backslash in a text takes
as they are. So a token bears the line at which it starts, less the line ends that escapes have
taken.

* `Scanner.escapedBreaks`, `Scanner.line_after`: the line ends that are missed, and the line of a
  scanner.
* `StartsAfter`: where a token starts.
* `Scanner.marks_step`, `exists_startsAfter`, `line_of_startsAfter`: each character starts at most
  one token, and how that token is marked.
* `Node.StartsWith`, `Forms.exists_startsWith`: each list and each atom bears the line of a token.
* `Flaw.IsAbout`, `Reading.IsOf`, `Forms.exists_warnsOfFlaw`: so does each warning about the
  structure of a document.
-/

import DesignRules.Proofs.RuleText.Nodes
import Mathlib.Data.List.Induction

namespace DesignRules.RuleText

/-! ### The line of a scanner -/

namespace Scanner

/-- Whether the next character is one that a backslash takes as it is. -/
def isEscaping (scanner : Scanner) : Bool :=
  match scanner.mode with
  | .escape _ _ => true
  | _ => false

/-- How many line ends a backslash takes in some characters. -/
def escapedBreaks (scanner : Scanner) : List Char → Nat
  | [] => 0
  | c :: rest =>
    (if scanner.isEscaping ∧ c = '\n' then 1 else 0) + (scanner.step c).1.escapedBreaks rest

theorem line_stepBetween (line : Nat) (c : Char) :
    (stepBetween line c).1.line = line + if c = '\n' then 1 else 0 := by
  unfold stepBetween
  by_cases breaks : c = '\n'
  · subst breaks
    rfl
  · simp only [if_neg breaks]
    split_ifs <;> rfl

/-- **One more character** is counted if it is a line end that no backslash takes. -/
theorem line_step (scanner : Scanner) (c : Char) :
    (scanner.step c).1.line + (if scanner.isEscaping ∧ c = '\n' then 1 else 0) =
      scanner.line + if c = '\n' then 1 else 0 := by
  obtain ⟨mode, line⟩ := scanner
  have between := line_stepBetween line c
  cases mode with
  | between =>
    rw [if_neg fun escaped => Bool.false_ne_true escaped.1]
    exact between
  | comment =>
    rw [if_neg fun escaped => Bool.false_ne_true escaped.1]
    by_cases breaks : c = '\n'
    · subst breaks
      rfl
    · simp [step, breaks]
  | word reversed =>
    rw [if_neg fun escaped => Bool.false_ne_true escaped.1]
    by_cases ends : endsWord c = true
    · simpa [step, ends] using between
    · have inside : c ≠ '\n' := by
        rintro rfl
        exact ends (by decide)
      simp [step, ends, inside]
  | text start reversed =>
    rw [if_neg fun escaped => Bool.false_ne_true escaped.1]
    by_cases breaks : c = '\n'
    · subst breaks
      rfl
    · simp only [step, if_neg breaks]
      split_ifs <;> rfl
  | escape start reversed =>
    have escaping : isEscaping ⟨.escape start reversed, line⟩ = true := rfl
    simp [step, escaping]

/-- **The line of a scanner** is that at which it started and one more for each line end that no
backslash has taken. -/
theorem line_after (scanner : Scanner) (front : List Char) :
    (scanner.after front).line + scanner.escapedBreaks front =
      scanner.line + front.count '\n' := by
  induction front generalizing scanner with
  | nil => rfl
  | cons c front ih =>
    have stepped := scanner.line_step c
    have others := ih (scanner.step c).1
    have passed : scanner.after (c :: front) = (scanner.step c).1.after front := rfl
    rw [passed, escapedBreaks, List.count_cons]
    simp only [beq_iff_eq]
    omega

end Scanner

/-! ### Where tokens start -/

/-- The first character of a token. -/
def Token.first? : Token → Option Char
  | .opening => some '('
  | .closing => some ')'
  | .word name => name.toList.head?
  | .text _ _ => some '"'

/-- The first character of a token and its line. -/
def Located.mark (located : Located) : Option Char × Nat := (located.token.first?, located.line)

/-- Whether the token at a place among those of a document starts after some characters: these make
up as many tokens as stand before it, and the next character makes one more. -/
def StartsAfter (characters front : List Char) (place : Nat) : Prop :=
  ∃ c back, characters = front ++ c :: back ∧ (Token.ofCharacters front).length = place ∧
    (Token.ofCharacters (front ++ [c])).length = place + 1

namespace Scanner

/-- Whether a word that is being read has a first character. -/
def HasBegun (scanner : Scanner) : Prop := scanner.mode ≠ .word []

theorem hasBegun_stepBetween (line : Nat) (c : Char) : (stepBetween line c).1.HasBegun := by
  unfold stepBetween
  split_ifs <;> simp [HasBegun]

/-- A character leaves no word without a first one. -/
theorem hasBegun_step (scanner : Scanner) (c : Char) : (scanner.step c).1.HasBegun := by
  obtain ⟨mode, line⟩ := scanner
  have between := hasBegun_stepBetween line c
  cases mode with
  | between => exact between
  | comment =>
    rw [step]
    dsimp only
    split_ifs
    · exact between
    · simp [HasBegun]
  | word reversed =>
    rw [step]
    dsimp only
    split_ifs
    · exact between
    · simp [HasBegun]
  | text start reversed =>
    rw [step]
    dsimp only
    split_ifs
    · simp [HasBegun]
    · exact between
    · simp [HasBegun]
    · simp [HasBegun]
  | escape start reversed => simp [step, HasBegun]

theorem hasBegun_after (front : List Char) {scanner : Scanner} (begun : scanner.HasBegun) :
    (scanner.after front).HasBegun := by
  induction front generalizing scanner with
  | nil => exact begun
  | cons c front ih => exact ih (hasBegun_step scanner c)

/-- What a character between tokens leaves: nothing, or a token that it starts. -/
theorem marks_stepBetween (line : Nat) (c : Char) :
    ((stepBetween line c).2 ++ (stepBetween line c).1.finish).map Located.mark = [] ∨
      ((stepBetween line c).2 ++ (stepBetween line c).1.finish).map Located.mark =
        [(some c, line)] := by
  unfold stepBetween
  split
  · exact .inl rfl
  split
  · exact .inl rfl
  split
  · rename_i opens
    exact .inr (by rw [opens]; rfl)
  split
  · rename_i closes
    exact .inr (by rw [closes]; rfl)
  split
  · rename_i quotes
    exact .inr (by rw [quotes]; rfl)
  · refine .inr ?_
    simp [finish, Located.mark, Token.first?, unreversed]

/-- The first character of a word stays the same while the word goes on. -/
theorem first?_word_cons {reversed : List Char} (begun : reversed ≠ []) (c : Char) :
    (Token.word (unreversed (c :: reversed))).first? =
      (Token.word (unreversed reversed)).first? := by
  simp only [Token.first?, unreversed, String.toList_ofList, List.reverse_cons]
  exact List.head?_append_of_ne_nil _ (List.reverse_ne_nil_iff.mpr begun)

/-- **One more character** leaves the marks of the tokens so far, and starts at most one more token,
which bears the line of the scanner. -/
theorem marks_step {scanner : Scanner} (begun : scanner.HasBegun) (c : Char) :
    ((scanner.step c).2 ++ (scanner.step c).1.finish).map Located.mark =
        scanner.finish.map Located.mark ∨
      ((scanner.step c).2 ++ (scanner.step c).1.finish).map Located.mark =
        scanner.finish.map Located.mark ++ [(some c, scanner.line)] := by
  obtain ⟨mode, line⟩ := scanner
  have between := marks_stepBetween line c
  cases mode with
  | between => exact between
  | comment =>
    by_cases breaks : c = '\n'
    · subst breaks
      exact .inl rfl
    · rw [step]
      dsimp only
      rw [if_neg breaks]
      exact .inl rfl
  | word reversed =>
    have written : reversed ≠ [] := fun empty => begun (by rw [empty])
    rw [step]
    dsimp only
    by_cases ends : endsWord c = true
    · rw [if_pos ends]
      dsimp only
      refine between.imp (fun nothing => ?_) fun starts => ?_
      · rw [List.cons_append, List.map_cons, nothing]
        rfl
      · rw [List.cons_append, List.map_cons, starts]
        rfl
    · rw [if_neg ends]
      refine .inl ?_
      simp only [finish, List.nil_append, List.map_cons, List.map_nil, Located.mark,
        first?_word_cons written]
  | text start reversed =>
    by_cases quotes : c = '"'
    · subst quotes
      exact .inl rfl
    by_cases breaks : c = '\n'
    · subst breaks
      exact .inl rfl
    · rw [step]
      dsimp only
      rw [if_neg quotes, if_neg breaks]
      split_ifs <;> exact .inl rfl
  | escape start reversed => exact .inl rfl

end Scanner

/-- **One more character of a document** leaves the marks of the tokens so far, and starts at most
one more token. -/
theorem marks_snoc (front : List Char) (c : Char) :
    (Token.ofCharacters (front ++ [c])).map Located.mark =
        (Token.ofCharacters front).map Located.mark ∨
      (Token.ofCharacters (front ++ [c])).map Located.mark =
        (Token.ofCharacters front).map Located.mark ++
          [(some c, (Scanner.start.after front).line)] := by
  have begun : (Scanner.start.after front).HasBegun :=
    Scanner.hasBegun_after front (by simp [Scanner.start, Scanner.HasBegun])
  have before : Token.ofCharacters front =
      Scanner.start.completed front ++ (Scanner.start.after front).finish := by
    have parts := Scanner.tokens_append front [] Scanner.start
    rwa [List.append_nil] at parts
  have after : Token.ofCharacters (front ++ [c]) = Scanner.start.completed front ++
      (((Scanner.start.after front).step c).2 ++ ((Scanner.start.after front).step c).1.finish) :=
    Scanner.tokens_append front [c] Scanner.start
  refine (Scanner.marks_step begun c).imp (fun same => ?_) fun starts => ?_
  · rw [after, List.map_append, same, before, List.map_append]
  · rw [after, List.map_append, starts, before, List.map_append, List.append_assoc]

/-- The marks of the tokens so far stay, whatever follows. -/
theorem marks_prefix (front back : List Char) :
    (Token.ofCharacters front).map Located.mark <+:
      (Token.ofCharacters (front ++ back)).map Located.mark := by
  induction back generalizing front with
  | nil => exact ⟨[], by rw [List.append_nil, List.append_nil]⟩
  | cons c back ih =>
    have others := ih (front ++ [c])
    rw [List.append_assoc, List.singleton_append] at others
    refine List.IsPrefix.trans ?_ others
    rcases marks_snoc front c with same | starts
    · exact ⟨[], by rw [List.append_nil, same]⟩
    · exact ⟨_, starts.symm⟩

/-- Each token of a document starts somewhere. -/
theorem exists_startsAfter (characters : List Char) {place : Nat}
    (listed : place < (Token.ofCharacters characters).length) :
    ∃ front, StartsAfter characters front place := by
  induction characters using List.reverseRecOn with
  | nil => exact absurd listed (Nat.not_lt_zero place)
  | append_singleton characters c ih =>
    by_cases earlier : place < (Token.ofCharacters characters).length
    · obtain ⟨front, first, back, split, before, starts⟩ := ih earlier
      refine ⟨front, first, back ++ [c], ?_, before, starts⟩
      rw [split, List.append_assoc]
      rfl
    · have grown : (Token.ofCharacters (characters ++ [c])).length ≤
          (Token.ofCharacters characters).length + 1 := by
        rcases marks_snoc characters c with same | starts
        · have sizes := congrArg List.length same
          rw [List.length_map, List.length_map] at sizes
          omega
        · have sizes := congrArg List.length starts
          rw [List.length_append, List.length_map, List.length_map, List.length_singleton] at sizes
          omega
      exact ⟨characters, c, [], rfl, by omega, by omega⟩

/-- **A token bears the line at which it starts**, less the line ends that escapes have taken before
it. -/
theorem line_of_startsAfter {characters front : List Char} {place : Nat} {located : Located}
    (starts : StartsAfter characters front place)
    (listed : (Token.ofCharacters characters)[place]? = some located) :
    located.token.first? = characters[front.length]? ∧
      located.line + Scanner.start.escapedBreaks front = 1 + front.count '\n' := by
  obtain ⟨c, back, split, before, grown⟩ := starts
  have marked : (Token.ofCharacters (front ++ [c])).map Located.mark =
      (Token.ofCharacters front).map Located.mark ++
        [(some c, (Scanner.start.after front).line)] := by
    refine (marks_snoc front c).resolve_left fun same => ?_
    have sizes := congrArg List.length same
    rw [List.length_map, List.length_map] at sizes
    omega
  have kept := marks_prefix (front ++ [c]) back
  rw [List.append_assoc, List.singleton_append, ← split, marked] at kept
  have here : ((Token.ofCharacters characters).map Located.mark)[place]? =
      some (some c, (Scanner.start.after front).line) := by
    obtain ⟨others, whole⟩ := kept
    rw [← whole, List.append_assoc, ← before, ← List.length_map (f := Located.mark),
      List.getElem?_append_right (Nat.le_refl _), Nat.sub_self]
    rfl
  rw [List.getElem?_map, listed] at here
  obtain ⟨first, line⟩ := Prod.mk.inj (Option.some.inj here)
  refine ⟨?_, ?_⟩
  · rw [split, List.getElem?_append_right (Nat.le_refl _), Nat.sub_self]
    exact first
  · have counted := Scanner.start.line_after front
    rw [show located.line = (Scanner.start.after front).line from line]
    exact counted

/-! ### Lists and atoms -/

open Form (allNodes)

/-- Whether a list or an atom starts with a token and bears its line. -/
def Node.StartsWith (node : Node) (located : Located) : Prop :=
  match node with
  | .list _ line _ => located = ⟨.opening, line⟩
  | .leaf _ line text quoted => located.atom? = some (text, quoted, line)

theorem Standing.startsWith_of_node? {standing : Standing} {node : Node}
    (starts : standing.node? = some node) : node.StartsWith standing.located := by
  obtain ⟨⟨token, line⟩, next, depth⟩ := standing
  have ofAtom {atom : String × Bool} (isAtom : token.atom? = some atom)
      (inside : (if depth = 0 then none
        else token.atom?.map fun atom => Node.leaf depth line atom.1 atom.2) = some node) :
      node.StartsWith ⟨token, line⟩ := by
    rw [isAtom] at inside
    split at inside
    · cases inside
    · obtain rfl := Option.some.inj inside
      show token.atom?.map (fun atom => (atom.1, atom.2, line)) = _
      rw [isAtom]
      rfl
  cases token with
  | opening =>
    obtain rfl := Option.some.inj starts
    rfl
  | closing => simp [node?, Token.atom?] at starts
  | word name => exact ofAtom rfl starts
  | text content closed => exact ofAtom rfl starts

/-- **Each list and each atom of a document** bears the line of the token that it starts with. -/
theorem Forms.exists_startsWith {tokens : List Located} {node : Node}
    (listed : node ∈ allNodes 0 (ofTokens tokens).forms) :
    ∃ located ∈ tokens, node.StartsWith located := by
  rw [nodes_ofTokens] at listed
  obtain ⟨standing, stands, starts⟩ := List.mem_filterMap.mp listed
  have token := List.mem_map_of_mem (f := Standing.located) stands
  rw [map_located_standings] at token
  exact ⟨standing.located, token, Standing.startsWith_of_node? starts⟩

namespace Form

/-- A form without what is in it. -/
def node (depth : Nat) : Form → Node
  | .atom text quoted line => .leaf depth line text quoted
  | .list items line => .list depth line (Form.list items line).head?

/-- Whether a form starts with a token and bears its line. -/
def StartsWith (form : Form) (located : Located) : Prop := (form.node 0).StartsWith located

theorem startsWith_iff (form : Form) (depth : Nat) (located : Located) :
    form.StartsWith located ↔ (form.node depth).StartsWith located := by
  cases form <;> rfl

theorem line_of_startsWith {form : Form} {located : Located} (starts : form.StartsWith located) :
    form.line = located.line := by
  cases form with
  | atom text quoted line =>
    obtain ⟨atom, -, same⟩ := Option.map_eq_some_iff.mp starts
    exact (congrArg (·.2.2) same).symm
  | list items line => exact (congrArg Located.line starts).symm

theorem node_mem_nodes (form : Form) (depth : Nat) : form.node depth ∈ form.nodes depth := by
  cases form with
  | atom text quoted line => exact List.mem_singleton_self _
  | list items line => exact List.mem_cons_self

theorem nodes_subset_allNodes {forms : List Form} {form : Form} (listed : form ∈ forms)
    (depth : Nat) : form.nodes depth ⊆ allNodes depth forms := by
  obtain ⟨front, back, rfl⟩ := List.append_of_mem listed
  rw [allNodes_append, allNodes]
  exact fun node member => List.mem_append_right _ (List.mem_append_left _ member)

/-- What stands in a form is written down with it. -/
theorem node_mem_of_argument {form part : Form} (given : part ∈ form.arguments) (depth : Nat) :
    part.node (depth + 1) ∈ form.nodes depth := by
  cases form with
  | atom text quoted line => cases given
  | list items line =>
    have inside : part ∈ items := List.mem_of_mem_drop given
    exact List.mem_cons_of_mem _
      (nodes_subset_allNodes inside (depth + 1) (part.node_mem_nodes (depth + 1)))

end Form

namespace Forms

variable {tokens : List Located} {form part : Form}

/-- Each form of a document starts with one of its tokens. -/
theorem exists_startsWith_form (listed : form ∈ (ofTokens tokens).forms) :
    ∃ located ∈ tokens, form.StartsWith located :=
  exists_startsWith (Form.nodes_subset_allNodes listed 0 (form.node_mem_nodes 0))

/-- So does each argument of a form. -/
theorem exists_startsWith_argument (listed : form ∈ (ofTokens tokens).forms)
    (given : part ∈ form.arguments) : ∃ located ∈ tokens, part.StartsWith located := by
  have written := Form.nodes_subset_allNodes listed 0 (Form.node_mem_of_argument given 0)
  obtain ⟨located, token, starts⟩ := exists_startsWith written
  exact ⟨located, token, (part.startsWith_iff 1 located).mpr starts⟩

end Forms

/-! ### Warnings about the structure -/

/-- Whether a token has a flaw. -/
def Flaw.IsAbout (located : Located) : Flaw → Prop
  | .unterminatedText => ∃ content, located.token = .text content false
  | .missingParenthesis line => located = ⟨.opening, line⟩
  | .strayParenthesis => located.token = .closing
  | .strayAtom text => ∃ quoted, located.token.atom? = some (text, quoted)
  | .unclosedForm => located.token = .opening

/-- Whether a diagnostic warns of a flaw of a token, at the line of that token. -/
def WarnsOfFlaw (located : Located) (diagnostic : Diagnostic) : Prop :=
  ∃ flaw : Flaw, flaw.IsAbout located ∧ diagnostic = flaw.diagnostic located.line

/-- Whether the open lists of a reading start with some tokens, and what it has reported is about
them. -/
structure Reading.IsOf (tokens : List Located) (reading : Reading) : Prop where
  opened : ∀ list ∈ reading.pending, ⟨.opening, list.line⟩ ∈ tokens
  reported : ∀ diagnostic ∈ reading.diagnostics, ∃ located ∈ tokens, WarnsOfFlaw located diagnostic

namespace Reading

theorem diagnostics_closeAll (reading : Reading) :
    reading.closeAll.diagnostics = reading.diagnostics := by
  unfold closeAll
  split <;> rfl

namespace IsOf

variable {tokens : List Located} {reading : Reading}

theorem report (sound : reading.IsOf tokens) {located : Located} (listed : located ∈ tokens)
    {flaw : Flaw} (about : flaw.IsAbout located) :
    (reading.report located.line flaw).IsOf tokens where
  opened := sound.opened
  reported :=
    List.forall_mem_cons.mpr ⟨⟨located, listed, flaw, about, rfl⟩, sound.reported⟩

theorem add (sound : reading.IsOf tokens) (form : Form) : (reading.add form).IsOf tokens := by
  obtain ⟨pending, forms, diagnostics⟩ := reading
  cases pending with
  | nil => exact ⟨sound.opened, sound.reported⟩
  | cons list outer =>
    obtain ⟨first, others⟩ := List.forall_mem_cons.mp sound.opened
    exact ⟨List.forall_mem_cons.mpr ⟨first, others⟩, sound.reported⟩

theorem closeAll (sound : reading.IsOf tokens) : reading.closeAll.IsOf tokens where
  opened := by
    rw [pending_closeAll]
    exact List.forall_mem_nil _
  reported := by
    rw [diagnostics_closeAll]
    exact sound.reported

theorem addAtom (sound : reading.IsOf tokens) {located : Located} (listed : located ∈ tokens)
    {text : String} {quoted : Bool} (isAtom : located.token.atom? = some (text, quoted)) :
    (reading.addAtom text quoted located.line).IsOf tokens := by
  unfold Reading.addAtom
  split
  · exact sound.report listed ⟨quoted, isAtom⟩
  · exact sound.add _

/-- **One more token.** -/
theorem step (sound : reading.IsOf tokens) {located : Located} (listed : located ∈ tokens)
    (next : Option Located) : (reading.step located next).IsOf tokens := by
  obtain ⟨token, line⟩ := located
  cases token with
  | word name => exact sound.addAtom listed rfl
  | text content closed => exact sound.addAtom listed rfl
  | closing =>
    show (reading.closeList line).IsOf tokens
    obtain ⟨pending, forms, diagnostics⟩ := reading
    cases pending with
    | nil =>
      have about : Flaw.strayParenthesis.IsAbout ⟨.closing, line⟩ := rfl
      exact sound.report listed about
    | cons list outer =>
      have inner : (⟨outer, forms, diagnostics⟩ : Reading).IsOf tokens :=
        ⟨(List.forall_mem_cons.mp sound.opened).2, sound.reported⟩
      exact inner.add list.form
  | opening =>
    have opens {reading : Reading} (sound : reading.IsOf tokens) :
        (reading.opened line).IsOf tokens :=
      ⟨List.forall_mem_cons.mpr ⟨listed, sound.opened⟩, sound.reported⟩
    show (reading.openList line next).IsOf tokens
    rw [openList_eq]
    split
    · have about : (Flaw.missingParenthesis line).IsAbout ⟨.opening, line⟩ := rfl
      exact opens (sound.report listed about).closeAll
    · exact opens sound

/-- **All tokens.** -/
theorem read (sound : reading.IsOf tokens) {rest : List Located} (listed : rest ⊆ tokens) :
    (reading.read rest).IsOf tokens := by
  induction rest generalizing reading with
  | nil => exact sound
  | cons located rest ih =>
    obtain ⟨first, others⟩ := List.cons_subset.mp listed
    exact ih (sound.step first rest.head?) others

theorem finish (sound : reading.IsOf tokens) : reading.finish.IsOf tokens := by
  unfold Reading.finish
  split
  · exact sound
  · rename_i outermost last
    have listed := sound.opened outermost (List.mem_of_getLast? last)
    have about : Flaw.unclosedForm.IsAbout ⟨.opening, outermost.line⟩ := rfl
    exact (sound.report listed about).closeAll

end IsOf

end Reading

/-- **Each warning about the structure of a document** is about one of its tokens and bears its
line. -/
theorem Forms.exists_warnsOfFlaw {tokens : List Located} {diagnostic : Diagnostic}
    (reported : diagnostic ∈ (ofTokens tokens).diagnostics) :
    ∃ located ∈ tokens, WarnsOfFlaw located diagnostic := by
  rcases List.mem_append.mp reported with texts | structural
  · obtain ⟨located, listed, warns⟩ := List.mem_filterMap.mp texts
    split at warns
    · rename_i content unclosed
      exact ⟨located, listed, .unterminatedText, ⟨content, unclosed⟩,
        (Option.some.inj warns).symm⟩
    · cases warns
  · have begun : ({} : Reading).IsOf tokens := ⟨List.forall_mem_nil _, List.forall_mem_nil _⟩
    have read := (begun.read (List.Subset.refl tokens)).finish
    exact read.reported diagnostic (List.mem_reverse.mp structural)

end DesignRules.RuleText
