/-
**The reader accepts exactly the grammar.**

The tokens that were read are cut into what each pending part on the stack began with and the
operand that was read last. Settling moves a pending part over to the operand and keeps the cut.

* `Begun`: the tokens that led to a stack.
* `Cut.settle`: settling keeps what was read, as a phrase of the rank at which it settles.
* `Reached`, `reached_step`, `reached_run`: the tokens that led to a state; one token, and all.
* `ofLexemes_accepts_grammar`: which tokens have a tree, that they have only one, and which offsets
  it keeps.
-/

import DesignRules.Proofs.Condition.Reading

namespace DesignRules.Condition

/-! ### The tokens of a stack -/

/-- The tokens of some arguments, the last of them first, each with a comma after it. -/
inductive Separated : List Lexeme → List Expression → Prop where
  | none : Separated [] []
  | more {front phrase : List Lexeme} {arguments : List Expression} {argument : Expression}
      {comma : Lexeme} :
      Separated front arguments → Derives .disjunction phrase argument → comma.token = .comma →
      Separated (front ++ phrase ++ [comma]) (argument :: arguments)

/-- A last argument completes the arguments before it. -/
theorem Separated.sequence_append {front : List Lexeme} {arguments : List Expression}
    (separated : Separated front arguments) {rest : List Lexeme} {others : List Expression}
    (sequence : DerivesSequence rest others) :
    DerivesSequence (front ++ rest) (arguments.reverse ++ others) := by
  induction separated generalizing rest others with
  | none => exact sequence
  | @more front phrase arguments argument comma _ derives separates ih =>
    have joined := ih (.more separates derives sequence)
    simpa using joined

/-- The tokens that led to a stack. -/
inductive Begun : List Lexeme → Stack → Prop where
  | nothing : Begun [] []
  | unary {before : List Lexeme} {stack : Stack} {operator : UnaryOperator} {lexeme : Lexeme} :
      Begun before stack → lexeme.token.unary? = some operator →
      Begun (before ++ [lexeme]) (.unary operator :: stack)
  | binary {before phrase : List Lexeme} {stack : Stack} {operator : BinaryOperator}
      {left : Expression} {lexeme : Lexeme} :
      Begun before stack → Admits operator.category stack →
      Derives operator.leftCategory phrase left → lexeme.token.binary? = some operator →
      Begun (before ++ phrase ++ [lexeme]) (.binary operator left :: stack)
  | group {before : List Lexeme} {stack : Stack} {opening : Lexeme} :
      Begun before stack → opening.token = .opening →
      Begun (before ++ [opening]) (.group :: stack)
  | applied {before phrase listed : List Lexeme} {stack : Stack} {callee : Callee} {offset : Nat}
      {arguments : List Expression} {opening : Lexeme} {pending : Pending} :
      Begun before stack → callee.Spelled phrase offset → opening.token = .opening →
      Separated listed arguments → callee.pending offset arguments = pending →
      Begun (before ++ phrase ++ opening :: listed) (pending :: stack)

section Begun

variable {lexemes : List Lexeme} {stack : Stack}

theorem Begun.of_unary {operator : UnaryOperator}
    (begun : Begun lexemes (.unary operator :: stack)) :
    ∃ before lexeme, lexemes = before ++ [lexeme] ∧ Begun before stack ∧
      lexeme.token.unary? = some operator := by
  cases begun with
  | unary begun stands => exact ⟨_, _, rfl, begun, stands⟩
  | @applied _ _ _ _ callee _ _ _ _ _ _ _ _ waits => cases callee <;> cases waits

theorem Begun.of_binary {operator : BinaryOperator} {left : Expression}
    (begun : Begun lexemes (.binary operator left :: stack)) :
    ∃ before phrase lexeme, lexemes = before ++ phrase ++ [lexeme] ∧ Begun before stack ∧
      Admits operator.category stack ∧ Derives operator.leftCategory phrase left ∧
      lexeme.token.binary? = some operator := by
  cases begun with
  | binary begun admits derives stands => exact ⟨_, _, _, rfl, begun, admits, derives, stands⟩
  | @applied _ _ _ _ callee _ _ _ _ _ _ _ _ waits => cases callee <;> cases waits

theorem Begun.of_group (begun : Begun lexemes (.group :: stack)) :
    ∃ before opening, lexemes = before ++ [opening] ∧ Begun before stack ∧
      opening.token = .opening := by
  cases begun with
  | group begun opens => exact ⟨_, _, rfl, begun, opens⟩
  | @applied _ _ _ _ callee _ _ _ _ _ _ _ _ waits => cases callee <;> cases waits

theorem Begun.of_pending {callee : Callee} {offset : Nat} {arguments : List Expression}
    (begun : Begun lexemes (callee.pending offset arguments :: stack)) :
    ∃ before phrase opening listed, lexemes = before ++ phrase ++ opening :: listed ∧
      Begun before stack ∧ callee.Spelled phrase offset ∧ opening.token = .opening ∧
      Separated listed arguments := by
  generalize waits : callee.pending offset arguments = pending at begun
  cases begun with
  | unary => cases callee <;> cases waits
  | binary => cases callee <;> cases waits
  | group => cases callee <;> cases waits
  | @applied _ _ _ _ other _ _ _ _ begun spelled opens separated same =>
    cases callee <;> cases other <;> cases waits <;> cases same <;>
      exact ⟨_, _, _, _, rfl, begun, spelled, opens, separated⟩

end Begun

/-- Some tokens, cut into those that led to a stack and a phrase with a tree. -/
def Cut (category : Category) (lexemes : List Lexeme) (stack : Stack) (tree : Expression) : Prop :=
  ∃ before phrase, lexemes = before ++ phrase ∧ Begun before stack ∧ Admits category stack ∧
    Derives category phrase tree

theorem cut_of_primary {before phrase : List Lexeme} {stack : Stack} {tree : Expression}
    (begun : Begun before stack) (derives : Derives .primary phrase tree) :
    Cut .primary (before ++ phrase) stack tree :=
  ⟨before, phrase, rfl, begun, admits_of_operand_le (Nat.le_succ _) stack, derives⟩

theorem Cut.of_unary {category : Category} {lexemes : List Lexeme} {stack : Stack}
    {operator : UnaryOperator} {tree : Expression}
    (cut : Cut category lexemes (.unary operator :: stack) tree) :
    Cut .operand lexemes stack (.unary operator tree) := by
  obtain ⟨_, phrase, rfl, begun, admits, derives⟩ := cut
  obtain ⟨before, lexeme, rfl, begun, stands⟩ := begun.of_unary
  refine ⟨before, lexeme :: phrase, List.append_cons .. |>.symm, begun, ?_, ?_⟩
  · exact admits_of_operand_le (Nat.le_refl _) stack
  · exact (derives.ofRank admits).unary stands

theorem Cut.of_binary {category : Category} {lexemes : List Lexeme} {stack : Stack}
    {operator : BinaryOperator} {left tree : Expression}
    (cut : Cut category lexemes (.binary operator left :: stack) tree) :
    Cut operator.category lexemes stack (.binary operator left tree) := by
  obtain ⟨_, phrase, rfl, begun, tighter, derives⟩ := cut
  obtain ⟨before, front, lexeme, rfl, begun, admits, first, stands⟩ := begun.of_binary
  have right : operator.rightCategory.rank ≤ category.rank := operator.rank_rightCategory ▸ tighter
  refine ⟨before, front ++ lexeme :: phrase, by simp, begun, admits, ?_⟩
  exact first.binary stands (derives.ofRank right)

/-- **Settling keeps the tokens** and leaves a phrase of the rank at which it settles. -/
theorem Cut.settle {category : Category} {lexemes : List Lexeme} {stack : Stack}
    {tree : Expression} (cut : Cut category lexemes stack tree) (target : Category)
    (looser : target.rank ≤ category.rank)
    (loose : target.rank < Category.rank .operand) :
    Cut target lexemes (settle target.rank stack tree).1 (settle target.rank stack tree).2 := by
  induction stack generalizing category tree with
  | nil =>
    obtain ⟨before, phrase, rfl, begun, -, derives⟩ := cut
    exact ⟨before, phrase, rfl, begun, trivial, derives.ofRank looser⟩
  | cons pending stack ih =>
    have stays (admits : Admits target (pending :: stack)) :
        Cut target lexemes (pending :: stack) tree := by
      obtain ⟨before, phrase, rfl, begun, -, derives⟩ := cut
      exact ⟨before, phrase, rfl, begun, admits, derives.ofRank looser⟩
    cases pending with
    | unary operator => exact ih cut.of_unary (Nat.le_of_lt loose)
    | binary operator left =>
      by_cases tight : target.rank ≤ operator.level.rank
      · rw [settle_binary tight]
        exact ih cut.of_binary (operator.rank_category ▸ tight)
      · rw [DesignRules.Condition.settle, if_neg tight]
        exact stays (Nat.lt_of_not_le tight)
    | group => exact stays trivial
    | call name offset arguments => exact stays trivial
    | method slot name offset arguments => exact stays trivial

/-! ### The tokens of a state -/

/-- The tokens that led to a state. -/
inductive Reached : List Lexeme → State → Prop where
  | operand {before : List Lexeme} {stack : Stack} :
      Begun before stack → Reached before (.operand stack)
  | firstArgument {before phrase : List Lexeme} {stack : Stack} {callee : Callee} {offset : Nat}
      {opening : Lexeme} :
      Begun before stack → callee.Spelled phrase offset → opening.token = .opening →
      Reached (before ++ phrase ++ [opening]) (.firstArgument (callee.pending offset [] :: stack))
  | dotted {before : List Lexeme} {stack : Stack} {lexeme dot : Lexeme} {slot : String} :
      Begun before stack → lexeme.token = .word slot → dot.token = .dot →
      Reached (before ++ [lexeme, dot]) (.dotted stack slot lexeme.offset)
  | callee {before phrase : List Lexeme} {stack : Stack} {callee : Callee} {offset : Nat} :
      Begun before stack → callee.Spelled phrase offset →
      Reached (before ++ phrase) (callee.state stack offset)
  | operator {before phrase : List Lexeme} {stack : Stack} {tree : Expression} :
      Begun before stack → Derives .primary phrase tree →
      Reached (before ++ phrase) (.operator stack tree)

variable {lexemes : List Lexeme} {stack : Stack} {lexeme : Lexeme} {next : State}

/-- **A token where an operand has to come.** -/
theorem reached_begin (begun : Begun lexemes stack) (begins : begin? stack lexeme = some next) :
    Reached (lexemes ++ [lexeme]) next := by
  unfold begin? at begins
  split at begins
  next quantity token => cases begins; exact .operator begun (.number token)
  next content token => cases begins; exact .operator begun (.text token)
  next name token => cases begins; exact .callee begun (.function token)
  next opens => cases begins; exact .operand (.group begun opens)
  next =>
    obtain ⟨operator, stands, rfl⟩ := Option.map_eq_some_iff.mp begins
    exact .operand (.unary begun stands)

theorem cut_settle_disjunction {operand : Expression} (cut : Cut .primary lexemes stack operand) :
    Cut .disjunction lexemes (settle 0 stack operand).1 (settle 0 stack operand).2 :=
  cut.settle .disjunction (Nat.zero_le _) (by decide)

/-- The last argument of a callee. -/
theorem reached_of_last (callee : Callee) {offset : Nat} {arguments : List Expression}
    {last : Expression}
    (cut : Cut .disjunction lexemes (callee.pending offset arguments :: stack) last)
    (closing : lexeme.token = .closing) :
    Reached (lexemes ++ [lexeme])
      (.operator stack (callee.applied (last :: arguments).reverse offset)) := by
  obtain ⟨_, phrase, rfl, begun, -, derives⟩ := cut
  obtain ⟨before, head, opening, listed, rfl, begun, spelled, opens, separated⟩ :=
    begun.of_pending
  have all := separated.sequence_append (.last derives)
  have whole := Reached.operator begun (spelled.derives_applied opens closing (.some all))
  simpa using whole

/-- An argument of a callee that others follow. -/
theorem reached_of_more (callee : Callee) {offset : Nat} {arguments : List Expression}
    {argument : Expression}
    (cut : Cut .disjunction lexemes (callee.pending offset arguments :: stack) argument)
    (comma : lexeme.token = .comma) :
    Reached (lexemes ++ [lexeme])
      (.operand (callee.pending offset (argument :: arguments) :: stack)) := by
  obtain ⟨_, phrase, rfl, begun, -, derives⟩ := cut
  obtain ⟨before, head, opening, listed, rfl, begun, spelled, opens, separated⟩ :=
    begun.of_pending
  have all := Reached.operand
    (.applied begun spelled opens (.more separated derives comma) rfl)
  simpa using all

/-- **A closing parenthesis.** -/
theorem reached_close {operand : Expression} (cut : Cut .primary lexemes stack operand)
    (closing : lexeme.token = .closing) (closes : close? stack operand = some next) :
    Reached (lexemes ++ [lexeme]) next := by
  have settled := cut_settle_disjunction cut
  unfold close? at closes
  split at closes
  next stack tree ends =>
    cases closes
    rw [ends] at settled
    obtain ⟨_, phrase, rfl, begun, -, derives⟩ := settled
    obtain ⟨before, opening, rfl, begun, opens⟩ := begun.of_group
    have whole := Reached.operator begun (.group opens closing derives)
    simpa using whole
  next name offset arguments stack last ends =>
    cases closes
    rw [ends] at settled
    exact reached_of_last (.function name) settled closing
  next slot name offset arguments stack last ends =>
    cases closes
    rw [ends] at settled
    exact reached_of_last (.member slot name) settled closing
  next => cases closes

/-- **A comma.** -/
theorem reached_separate {operand : Expression} (cut : Cut .primary lexemes stack operand)
    (comma : lexeme.token = .comma) (separates : separate? stack operand = some next) :
    Reached (lexemes ++ [lexeme]) next := by
  have settled := cut_settle_disjunction cut
  unfold separate? at separates
  split at separates
  next name offset arguments stack argument ends =>
    cases separates
    rw [ends] at settled
    exact reached_of_more (.function name) settled comma
  next slot name offset arguments stack argument ends =>
    cases separates
    rw [ends] at settled
    exact reached_of_more (.member slot name) settled comma
  next => cases separates

/-- **A token where an operand was read.** -/
theorem reached_proceed {operand : Expression} (cut : Cut .primary lexemes stack operand)
    (proceeds : proceed? stack operand lexeme.token = some next) :
    Reached (lexemes ++ [lexeme]) next := by
  unfold proceed? at proceeds
  split at proceeds
  next closing => exact reached_close cut closing proceeds
  next comma => exact reached_separate cut comma proceeds
  next =>
    obtain ⟨operator, stands, joins⟩ := Option.bind_eq_some_iff.mp proceeds
    obtain ⟨admits, rfl⟩ := (joinedBy?_eq_some_iff rfl).mp joins
    obtain ⟨before, phrase, rfl, begun, -, derives⟩ :=
      cut.settle operator.leftCategory (operator.leftCategory.rank_le_primary)
        operator.rank_leftCategory_lt
    exact .operand (.binary begun admits derives stands)

/-- **A token after a callee.** -/
theorem reached_after_callee {before phrase : List Lexeme} {callee : Callee} {offset : Nat}
    (begun : Begun before stack) (spelled : callee.Spelled phrase offset)
    (steps : (callee.state stack offset).step? lexeme = some next) :
    Reached (before ++ phrase ++ [lexeme]) next := by
  have cut := cut_of_primary begun spelled.derives_alone
  by_cases opens : lexeme.token = .opening
  · rw [step?_opening callee stack offset opens] at steps
    cases steps
    exact .firstArgument begun spelled opens
  · by_cases points : lexeme.token = .dot
    · cases spelled with
      | function word =>
        simp only [Callee.state, State.step?, points, Option.some.injEq] at steps
        rw [← steps, List.append_assoc]
        exact .dotted begun word points
      | member =>
        simp only [Callee.state, State.step?, points, proceed?, Token.binary?] at steps
        cases steps
    · rw [step?_of_operand? (operand?_callee ..) opens points] at steps
      exact reached_proceed cut steps

/-- **One token.** -/
theorem reached_step {state : State} (reached : Reached lexemes state)
    (steps : state.step? lexeme = some next) : Reached (lexemes ++ [lexeme]) next := by
  cases reached with
  | operand begun => exact reached_begin begun steps
  | callee begun spelled => exact reached_after_callee begun spelled steps
  | operator begun derives => exact reached_proceed (cut_of_primary begun derives) steps
  | @dotted before stack word dot slot begun isWord points =>
    rw [State.step?] at steps
    split at steps
    next name token =>
      cases steps
      have whole : Reached (before ++ [word, dot, lexeme])
          (.membered stack slot name word.offset) :=
        .callee begun (.member isWord points token)
      simpa using whole
    next => cases steps
  | @firstArgument before phrase stack callee offset opening begun spelled opens =>
    by_cases closing : lexeme.token = .closing
    · rw [State.step?, if_pos closing, closeEmpty?_pending] at steps
      cases steps
      have whole := Reached.operator begun (spelled.derives_applied opens closing .none)
      simpa using whole
    · rw [State.step?, if_neg closing] at steps
      exact reached_begin (.applied begun spelled opens .none rfl) steps

/-- **All tokens.** -/
theorem reached_run {state : State} (reached : Reached lexemes state) {rest : List Lexeme}
    (runs : state.run? rest = some next) : Reached (lexemes ++ rest) next := by
  induction rest generalizing lexemes state with
  | nil =>
    cases runs
    rw [List.append_nil]
    exact reached
  | cons lexeme rest ih =>
    obtain ⟨middle, steps, runs⟩ := Option.bind_eq_some_iff.mp runs
    have all := ih (reached_step reached steps) runs
    rw [List.append_assoc, List.singleton_append] at all
    exact all

/-- The operand of a state that was read last. -/
theorem cut_of_reached {state : State} (reached : Reached lexemes state) {operand : Expression}
    (holds : state.operand? = some (stack, operand)) : Cut .primary lexemes stack operand := by
  cases reached with
  | operand => cases holds
  | firstArgument => cases holds
  | dotted => cases holds
  | callee begun spelled =>
    rw [operand?_callee] at holds
    cases holds
    exact cut_of_primary begun spelled.derives_alone
  | operator begun derives =>
    cases holds
    exact cut_of_primary begun derives

/-- **What the end finds is derived from all tokens.** -/
theorem derives_of_reached {state : State} (reached : Reached lexemes state) {tree : Expression}
    (ends : state.finish? = some tree) : Derives .disjunction lexemes tree := by
  obtain ⟨stack, operand, holds⟩ := exists_operand?_of_finish? ends
  have settles : settle 0 stack operand = ([], tree) := (finish?_of_operand? holds).mp ends
  have settled := cut_settle_disjunction (cut_of_reached reached holds)
  rw [settles] at settled
  obtain ⟨before, phrase, rfl, begun, -, derives⟩ := settled
  cases begun
  exact derives

/-! ### The grammar of the reader -/

/-- A tree is read from the tokens before the end exactly if it is derived from them. -/
theorem ofLexemes_eq_ok_iff {lexemes : List Lexeme} {finish : Lexeme}
    (ends : finish.token = .finish) (inner : ∀ lexeme ∈ lexemes, lexeme.token ≠ .finish)
    {tree : Expression} :
    Expression.ofLexemes (lexemes ++ [finish]) = .ok tree ↔ Derives .disjunction lexemes tree := by
  have accepts : Derives .disjunction lexemes tree ↔
      ∃ last, (State.operand []).run? lexemes = some last ∧ last.finish? = some tree := by
    constructor
    · exact run?_of_derives
    · rintro ⟨last, runs, found⟩
      exact derives_of_reached (reached_run (.operand .nothing) runs) found
  rw [accepts]
  cases lexemes with
  | nil =>
    obtain ⟨token, offset, text⟩ := finish
    obtain rfl : token = .finish := ends
    simp [Expression.ofLexemes, State.run?, State.finish?]
  | cons lexeme rest =>
    obtain ⟨token, offset, text⟩ := lexeme
    have starts : Expression.ofLexemes (⟨token, offset, text⟩ :: rest ++ [finish]) =
        (State.operand []).read (⟨token, offset, text⟩ :: rest ++ [finish]) := by
      rw [List.cons_append, Expression.ofLexemes]
      rintro offset text _ ⟨⟩
      exact inner _ List.mem_cons_self rfl
    rw [starts, State.read_eq_ok_iff ends inner]

/-- **The reader accepts exactly the grammar.** Before the end of a text, a tree is read from some
tokens exactly if the grammar derives it from them. No two trees are read from the same tokens, and
the names of the tree keep the offsets of the words that start them. -/
theorem ofLexemes_accepts_grammar (lexemes : List Lexeme) (finish : Lexeme)
    (ends : finish.token = .finish) (inner : ∀ lexeme ∈ lexemes, lexeme.token ≠ .finish) :
    (∀ tree, Expression.ofLexemes (lexemes ++ [finish]) = .ok tree ↔
        Derives .disjunction lexemes tree) ∧
      (∀ tree other, Derives .disjunction lexemes tree → Derives .disjunction lexemes other →
        tree = other) ∧
      ∀ tree, Derives .disjunction lexemes tree → tree.heads = leadingWords false lexemes := by
  refine ⟨fun tree => ofLexemes_eq_ok_iff ends inner, ?_, fun tree => Derives.heads_eq⟩
  intro tree other first second
  have read := (ofLexemes_eq_ok_iff ends inner).mpr first
  rw [(ofLexemes_eq_ok_iff ends inner).mpr second] at read
  exact (Except.ok.inj read).symm

/-- The tokens of the text `!A.Net == max(x, 'y') || z`, without the end. -/
def mixedTokens : List Lexeme :=
  [⟨.not, 0, "!"⟩, ⟨.word "A", 1, "A"⟩, ⟨.dot, 2, "."⟩, ⟨.word "Net", 3, "Net"⟩,
    ⟨.compare .equal, 7, "=="⟩, ⟨.word "max", 10, "max"⟩, ⟨.opening, 13, "("⟩,
    ⟨.word "x", 14, "x"⟩, ⟨.comma, 15, ","⟩, ⟨.text "y", 17, "'y'"⟩, ⟨.closing, 20, ")"⟩,
    ⟨.or, 22, "||"⟩, ⟨.word "z", 25, "z"⟩]

/-- The tree of these tokens. -/
def mixedTree : Expression :=
  .binary .or
    (.binary (.compare .equal) (.unary .not (.field "A" "Net" 1))
      (.call "max" [.name "x" 14, .text "y"] 10))
    (.name "z" 25)

/-- The negation belongs to the field and the comparison to the disjunction. -/
theorem ofLexemes_accepts_grammar_of_mixed_tokens :
    (∀ lexeme ∈ mixedTokens, lexeme.token ≠ .finish) ∧
      Derives .disjunction mixedTokens mixedTree ∧
      (∀ other, Derives .disjunction mixedTokens other → other = mixedTree) ∧
      mixedTree.heads = [("A", 1), ("max", 10), ("x", 14), ("z", 25)] := by
  have inner : ∀ lexeme ∈ mixedTokens, lexeme.token ≠ .finish := by decide
  obtain ⟨accepts, unique, names⟩ :=
    ofLexemes_accepts_grammar mixedTokens ⟨.finish, 26, ""⟩ rfl inner
  have derives := (accepts mixedTree).mp rfl
  exact ⟨inner, derives, fun other second => unique other mixedTree second derives,
    names mixedTree derives⟩

end DesignRules.Condition
