/-
**The first token that cannot go on.**

Whatever the reader has begun can still be brought to an end: what has to come next is supplied, and
then all that is open is closed, the innermost first. So the tokens before the one that is at fault
begin some condition, and together with it they begin none.

* `close?_or_settled`: a closing parenthesis closes the innermost call or group.
* `State.CanEnd`, `State.canEnd`: every state can be brought to an end.
* `State.Rejects`, `exists_rejected_of_read_eq_error`: reading stops at a token that is rejected.
* `fault_at_first_impossible_token`: the fault of tokens without a tree.
-/

import DesignRules.Proofs.Condition.Acceptance

namespace DesignRules.Condition

/-! ### Closing what is open -/

/-- Where an operand was read, either nothing is open, or a closing parenthesis closes something. -/
theorem close?_or_settled (stack : Stack) (operand : Expression) :
    (∃ tree, settle (Category.rank .disjunction) stack operand = ([], tree)) ∨
      ∃ rest tree, rest.length < stack.length ∧
        close? stack operand = some (.operator rest tree) := by
  induction stack generalizing operand with
  | nil => exact .inl ⟨operand, rfl⟩
  | cons pending stack ih =>
    have inner {operand' : Expression}
        (settles : settle 0 (pending :: stack) operand = settle 0 stack operand') :
        (∃ tree, settle 0 (pending :: stack) operand = ([], tree)) ∨
          ∃ rest tree, rest.length < (pending :: stack).length ∧
            close? (pending :: stack) operand = some (.operator rest tree) := by
      have closes : close? (pending :: stack) operand = close? stack operand' := by
        unfold close?
        rw [settles]
      rw [settles, closes]
      exact (ih operand').imp_right fun ⟨rest, tree, shorter, closes⟩ =>
        ⟨rest, tree, Nat.lt_succ_of_lt shorter, closes⟩
    cases pending with
    | unary operator => exact inner rfl
    | binary operator left => exact inner (settle_binary (Nat.zero_le _) stack left operand)
    | group => exact .inr ⟨stack, operand, Nat.lt_succ_self _, rfl⟩
    | call name offset arguments => exact .inr ⟨stack, _, Nat.lt_succ_self _, rfl⟩
    | method slot name offset arguments => exact .inr ⟨stack, _, Nat.lt_succ_self _, rfl⟩

/-- Whether some more tokens, the end not among them, bring a state to an end. -/
def State.CanEnd (state : State) : Prop :=
  ∃ rest last tree, (∀ lexeme ∈ rest, lexeme.token ≠ .finish) ∧
    state.run? rest = some last ∧ last.finish? = some tree

theorem State.CanEnd.of_step {state next : State} (ends : next.CanEnd) {lexeme : Lexeme}
    (inner : lexeme.token ≠ .finish) (steps : state.step? lexeme = some next) : state.CanEnd := by
  obtain ⟨rest, last, tree, others, runs, found⟩ := ends
  refine ⟨lexeme :: rest, last, tree, List.forall_mem_cons.mpr ⟨inner, others⟩, ?_, found⟩
  rw [State.run?_cons_of_step? steps, runs]

/-- Where an operand was read, closing parentheses bring the state to an end. -/
theorem canEnd_of_operand? {state : State} {stack : Stack} {operand : Expression}
    (holds : state.operand? = some (stack, operand)) : state.CanEnd := by
  rcases close?_or_settled stack operand with ⟨tree, settled⟩ | ⟨rest, tree, shorter, closes⟩
  · exact ⟨[], state, tree, List.forall_mem_nil _, rfl, (finish?_of_operand? holds).mpr settled⟩
  · have steps : state.step? ⟨.closing, 0, ")"⟩ = some (.operator rest tree) :=
      (step?_of_operand? holds (by decide) (by decide)).trans closes
    have closed : (State.operator rest tree).operand? = some (rest, tree) := rfl
    exact (canEnd_of_operand? closed).of_step (by decide) steps
termination_by stack.length

/-- **Every state can be brought to an end.** -/
theorem State.canEnd (state : State) : state.CanEnd := by
  have supplied {state : State} {stack : Stack}
      (steps : state.step? ⟨.text "", 0, "''"⟩ = some (.operator stack (.text ""))) :
      state.CanEnd := by
    have holds : (State.operator stack (.text "")).operand? = some (stack, .text "") := rfl
    exact (canEnd_of_operand? holds).of_step (by decide) steps
  cases state with
  | operand stack => exact supplied rfl
  | firstArgument stack => exact supplied rfl
  | named stack name offset => exact canEnd_of_operand? rfl
  | dotted stack slot offset =>
    have steps : (State.dotted stack slot offset).step? ⟨.word "", 0, ""⟩ =
        some (.membered stack slot "" offset) := rfl
    exact (canEnd_of_operand? rfl).of_step (by decide) steps
  | membered stack slot name offset => exact canEnd_of_operand? rfl
  | operator stack tree => exact canEnd_of_operand? rfl

/-! ### Where reading stops -/

/-- Whether a state does not go on with a token, or does not end with it. -/
def State.Rejects (state : State) (lexeme : Lexeme) : Prop :=
  if lexeme.token = .finish then state.finish? = none else state.step? lexeme = none

theorem State.Rejects.read {state : State} {lexeme : Lexeme} (rejects : state.Rejects lexeme)
    (rest : List Lexeme) : state.read (lexeme :: rest) = .error lexeme.fault := by
  unfold State.Rejects at rejects
  rw [State.read]
  split at rejects
  next ends => rw [if_pos ends, rejects]
  next inner => rw [if_neg inner, rejects]

/-- Reading passes over tokens that go on. -/
theorem State.read_append {state next : State} {front : List Lexeme}
    (inner : ∀ lexeme ∈ front, lexeme.token ≠ .finish) (runs : state.run? front = some next)
    (rest : List Lexeme) : state.read (front ++ rest) = next.read rest := by
  induction front generalizing state with
  | nil =>
    obtain rfl := Option.some.inj runs
    rfl
  | cons lexeme front ih =>
    obtain ⟨middle, steps, runs⟩ := Option.bind_eq_some_iff.mp runs
    obtain ⟨first, others⟩ := List.forall_mem_cons.mp inner
    rw [List.cons_append, State.read, if_neg first, steps]
    exact ih others runs

/-- **Reading stops at a token that is rejected** after all tokens before it went on. -/
theorem exists_rejected_of_read_eq_error {lexemes : List Lexeme} {finish : Lexeme}
    (ends : finish.token = .finish) (inner : ∀ lexeme ∈ lexemes, lexeme.token ≠ .finish)
    {state : State} {fault : Fault} (failed : state.read (lexemes ++ [finish]) = .error fault) :
    ∃ front lexeme back last, lexemes ++ [finish] = front ++ lexeme :: back ∧
      (∀ other ∈ front, other.token ≠ .finish) ∧ state.run? front = some last ∧
        last.Rejects lexeme ∧ lexeme.fault = fault := by
  induction lexemes generalizing state with
  | nil =>
    refine ⟨[], finish, [], state, rfl, List.forall_mem_nil _, rfl, ?_⟩
    rw [List.nil_append, State.read, if_pos ends] at failed
    rw [State.Rejects, if_pos ends]
    cases found : state.finish? with
    | some tree =>
      rw [found] at failed
      cases failed
    | none =>
      rw [found] at failed
      exact ⟨rfl, Except.error.inj failed⟩
  | cons lexeme lexemes ih =>
    obtain ⟨first, others⟩ := List.forall_mem_cons.mp inner
    rw [List.cons_append, State.read, if_neg first] at failed
    cases steps : state.step? lexeme with
    | none =>
      rw [steps] at failed
      refine ⟨[], lexeme, lexemes ++ [finish], state, rfl, List.forall_mem_nil _, rfl, ?_,
        Except.error.inj failed⟩
      rw [State.Rejects, if_neg first, steps]
    | some next =>
      rw [steps] at failed
      obtain ⟨front, stop, back, last, split, passed, runs, rejects, about⟩ := ih others failed
      refine ⟨lexeme :: front, stop, back, last, by rw [List.cons_append, split, List.cons_append],
        List.forall_mem_cons.mpr ⟨first, passed⟩, ?_, rejects, about⟩
      rw [State.run?_cons_of_step? steps, runs]

/-! ### Tokens without a tree -/

/-- Tokens are empty, or what they say is read from where an operand has to come. -/
theorem ofLexemes_empty_or_read (lexemes : List Lexeme) :
    Expression.ofLexemes lexemes = .error ⟨.empty, 0, ""⟩ ∨
      Expression.ofLexemes lexemes = (State.operand []).read lexemes := by
  unfold Expression.ofLexemes
  split
  · exact .inl rfl
  · exact .inr rfl

theorem read_of_ofLexemes_eq_error {lexemes : List Lexeme} {fault : Fault}
    (failed : Expression.ofLexemes lexemes = .error fault) (written : fault.cause ≠ .empty) :
    (State.operand []).read lexemes = .error fault := by
  rcases ofLexemes_empty_or_read lexemes with empty | reads
  · rw [empty] at failed
    cases failed
    exact absurd rfl written
  · rw [← reads, failed]

theorem read_of_ofLexemes_eq_ok {lexemes : List Lexeme} {tree : Expression}
    (accepted : Expression.ofLexemes lexemes = .ok tree) :
    (State.operand []).read lexemes = .ok tree := by
  rcases ofLexemes_empty_or_read lexemes with empty | reads
  · rw [empty] at accepted
    cases accepted
  · rw [← reads, accepted]

/-- Tokens that the end follows have the tree that the end finds. -/
theorem ofLexemes_of_run? {lexemes : List Lexeme} {finish : Lexeme}
    (ends : finish.token = .finish) (inner : ∀ lexeme ∈ lexemes, lexeme.token ≠ .finish)
    {last : State} (runs : (State.operand []).run? lexemes = some last) {tree : Expression}
    (found : last.finish? = some tree) :
    Expression.ofLexemes (lexemes ++ [finish]) = .ok tree :=
  (ofLexemes_eq_ok_iff ends inner).mpr
    (derives_of_reached (reached_run (.operand .nothing) runs) found)

/-- Tokens that lead to a token that is rejected do not begin tokens with a tree. -/
theorem ofLexemes_ne_ok_of_rejects {front : List Lexeme}
    (inner : ∀ lexeme ∈ front, lexeme.token ≠ .finish) {last : State}
    (runs : (State.operand []).run? front = some last) {lexeme : Lexeme}
    (rejects : last.Rejects lexeme) (rest : List Lexeme) (tree : Expression) :
    Expression.ofLexemes (front ++ lexeme :: rest) ≠ .ok tree := by
  intro accepted
  have reads := read_of_ofLexemes_eq_ok accepted
  rw [State.read_append inner runs, rejects.read] at reads
  cases reads

/-- **The fault is at the first token that cannot go on.** If tokens that are not empty have no
tree, the fault is about one of them: it has its offset and its text, and its cause tells whether it
is the end. The tokens before this one are the beginning of tokens that have a tree, and no tokens
that begin with them and with this one have a tree. -/
theorem fault_at_first_impossible_token (lexemes : List Lexeme) (finish : Lexeme)
    (ends : finish.token = .finish) (inner : ∀ lexeme ∈ lexemes, lexeme.token ≠ .finish)
    (fault : Fault) (failed : Expression.ofLexemes (lexemes ++ [finish]) = .error fault)
    (written : fault.cause ≠ .empty) :
    ∃ index lexeme, (lexemes ++ [finish])[index]? = some lexeme ∧
      fault.offset = lexeme.offset ∧ fault.token = lexeme.text ∧
      fault.cause = (if lexeme.token = .finish then .unexpectedEnd else .unexpectedToken) ∧
      (∃ rest last tree, (∀ other ∈ rest, other.token ≠ .finish) ∧ last.token = .finish ∧
        Expression.ofLexemes ((lexemes ++ [finish]).take index ++ rest ++ [last]) = .ok tree) ∧
      ∀ rest tree,
        Expression.ofLexemes ((lexemes ++ [finish]).take (index + 1) ++ rest) ≠ .ok tree := by
  obtain ⟨front, stop, back, last, split, passed, runs, rejects, about⟩ :=
    exists_rejected_of_read_eq_error ends inner (read_of_ofLexemes_eq_error failed written)
  have kept : (lexemes ++ [finish]).take front.length = front := by
    rw [split, List.take_left]
  have keptOne : (lexemes ++ [finish]).take (front.length + 1) = front ++ [stop] := by
    rw [split, List.append_cons]
    exact List.take_left' (by rw [List.length_append, List.length_singleton])
  subst about
  refine ⟨front.length, stop, by simp [split], rfl, rfl, rfl, ?_, ?_⟩
  · obtain ⟨rest, reached, tree, others, completes, found⟩ := last.canEnd
    refine ⟨rest, ⟨.finish, 0, ""⟩, tree, others, rfl, ?_⟩
    rw [kept]
    exact ofLexemes_of_run? rfl (List.forall_mem_append.mpr ⟨passed, others⟩)
      ((State.run?_append_of_run? runs rest).trans completes) found
  · intro rest tree
    rw [keptOne, ← List.append_cons]
    exact ofLexemes_ne_ok_of_rejects passed runs rejects rest tree

/-- The tokens of the text `max(x == y == z)`, without the end. -/
def comparedTwice : List Lexeme :=
  [⟨.word "max", 0, "max"⟩, ⟨.opening, 3, "("⟩, ⟨.word "x", 4, "x"⟩, ⟨.compare .equal, 6, "=="⟩,
    ⟨.word "y", 9, "y"⟩, ⟨.compare .equal, 11, "=="⟩, ⟨.word "z", 14, "z"⟩,
    ⟨.closing, 15, ")"⟩]

/-- A comparison is not compared again, though the call around it is still open. -/
theorem fault_at_first_impossible_token_of_compared_twice :
    (∀ lexeme ∈ comparedTwice, lexeme.token ≠ .finish) ∧
      Expression.ofLexemes (comparedTwice ++ [⟨.finish, 16, ""⟩]) =
        .error ⟨.unexpectedToken, 11, "=="⟩ ∧
      ∃ (index : Nat) (lexeme : Lexeme),
        (comparedTwice ++ [⟨.finish, 16, ""⟩])[index]? = some lexeme ∧ lexeme.offset = 11 ∧
        ∀ rest tree, Expression.ofLexemes
          (List.take (index + 1) (comparedTwice ++ [⟨.finish, 16, ""⟩]) ++ rest) ≠ .ok tree := by
  have inner : ∀ lexeme ∈ comparedTwice, lexeme.token ≠ .finish := by decide
  have failed : Expression.ofLexemes (comparedTwice ++ [⟨.finish, 16, ""⟩]) =
      .error ⟨.unexpectedToken, 11, "=="⟩ := rfl
  obtain ⟨index, lexeme, found, offset, -, -, -, impossible⟩ :=
    fault_at_first_impossible_token comparedTwice ⟨.finish, 16, ""⟩ rfl inner _ failed (by decide)
  exact ⟨inner, failed, index, lexeme, found, offset.symm, impossible⟩

end DesignRules.Condition
