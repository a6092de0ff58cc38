/-
**A phrase of the grammar is read as its tree.**

Reading a phrase leaves an operand on the stack that was there before. The operand may still have
operators to its left that wait for it; whoever settles the stack at the rank of the phrase, or at a
looser one, finds the tree of the phrase.

* `Admits`: the stacks on which a phrase of a category may be read, and `settle_eq_of_admits`: there
  is nothing to settle on them.
* `State.operand?`, `step?_of_operand?`: the operand that was read, and what a token does to it.
* `State.run?`: the state after some tokens.
* `LeavesTree`, `leavesTree_of_derives`: what reading a phrase leaves.
* `run?_of_derives`: the tree of all tokens.
-/

import DesignRules.Condition.Reader
import DesignRules.Proofs.Condition.Phrases

namespace DesignRules.Condition

/-! ### Stacks -/

/-- Whether a phrase of a category may stand to the right of what is at the top of a stack. -/
def Admits (category : Category) : Stack → Prop
  | .unary _ :: _ => Category.rank .operand ≤ category.rank
  | .binary operator _ :: _ => operator.level.rank < category.rank
  | _ => True

theorem Admits.mono {category other : Category} (looser : category.rank ≤ other.rank)
    {stack : Stack} (admits : Admits category stack) : Admits other stack := by
  match stack with
  | [] => trivial
  | .unary _ :: _ => exact Nat.le_trans admits looser
  | .binary _ _ :: _ => exact Nat.lt_of_lt_of_le admits looser
  | .group :: _ => trivial
  | .call .. :: _ => trivial
  | .method .. :: _ => trivial

/-- A tight operand may stand anywhere. -/
theorem admits_of_operand_le {category : Category}
    (tight : Category.rank .operand ≤ category.rank) (stack : Stack) : Admits category stack := by
  match stack with
  | [] => trivial
  | .unary _ :: _ => exact tight
  | .binary operator _ :: _ =>
    have below : operator.level.rank < Category.rank .operand := by
      cases operator.level <;> decide
    exact Nat.lt_of_lt_of_le below tight
  | .group :: _ => trivial
  | .call .. :: _ => trivial
  | .method .. :: _ => trivial

/-- Where a phrase may be read, nothing settles at its rank. -/
theorem settle_eq_of_admits {category : Category} (loose : category.rank < Category.rank .operand)
    {stack : Stack} (admits : Admits category stack) (operand : Expression) :
    settle category.rank stack operand = (stack, operand) := by
  match stack with
  | [] => rfl
  | .unary _ :: _ => exact absurd (Nat.lt_of_lt_of_le loose admits) (Nat.lt_irrefl _)
  | .binary _ _ :: _ => exact if_neg (Nat.not_le_of_lt admits)
  | .group :: _ => rfl
  | .call .. :: _ => rfl
  | .method .. :: _ => rfl

theorem settle_binary {rank : Nat} {operator : BinaryOperator} (tight : rank ≤ operator.level.rank)
    (stack : Stack) (left operand : Expression) :
    settle rank (.binary operator left :: stack) operand =
      settle rank stack (.binary operator left operand) := if_pos tight

/-- What is left after settling at a rank lets a phrase of that rank stand there. -/
theorem admits_settle (category : Category) (stack : Stack) (operand : Expression) :
    Admits category (settle category.rank stack operand).1 := by
  induction stack generalizing operand with
  | nil => trivial
  | cons pending stack ih =>
    cases pending with
    | unary operator => exact ih _
    | binary operator left =>
      by_cases tight : category.rank ≤ operator.level.rank
      · rw [settle_binary tight]
        exact ih _
      · rw [settle, if_neg tight]
        exact Nat.lt_of_not_le tight
    | group => trivial
    | call name offset arguments => trivial
    | method slot name offset arguments => trivial

/-- A comparison may stand where a sum may, unless it would be an operand of another one. -/
theorem admits_comparison_iff {stack : Stack} :
    Admits .comparison stack ↔ Admits .sum stack ∧ awaitsComparison stack = false := by
  match stack with
  | [] => simp [Admits, awaitsComparison]
  | .unary _ :: _ => simp [Admits, Category.rank]
  | .binary operator _ :: _ =>
    cases operator with
    | arithmetic operation =>
      cases operation <;> simp [Admits, awaitsComparison, BinaryOperator.level, Level.rank,
        Category.rank]
    | _ => simp [Admits, awaitsComparison, BinaryOperator.level, Level.rank, Category.rank]
  | .group :: _ => simp [Admits, awaitsComparison]
  | .call .. :: _ => simp [Admits, awaitsComparison]
  | .method .. :: _ => simp [Admits, awaitsComparison]

theorem BinaryOperator.rank_leftCategory_lt (operator : BinaryOperator) :
    operator.leftCategory.rank < Category.rank .operand := by
  cases operator with
  | or => decide
  | and => decide
  | compare comparison => exact Nat.lt_of_sub_eq_succ rfl
  | arithmetic operation => cases operation <;> decide

/-- **An operator** takes what settles at the rank of its left operand, if its phrase may stand
there. -/
theorem joinedBy?_eq_some_iff {operator : BinaryOperator} {stack rest : Stack}
    {operand left : Expression}
    (settled : settle operator.leftCategory.rank stack operand = (rest, left)) {next : State} :
    joinedBy? operator stack operand = some next ↔
      Admits operator.category rest ∧ .operand (.binary operator left :: rest) = next := by
  have admits := admits_settle operator.leftCategory stack operand
  rw [settled] at admits
  have simple (groups : operator.leftCategory = operator.category)
      (joins : joinedBy? operator stack operand =
        some (.operand (.binary operator (settle operator.leftCategory.rank stack operand).2 ::
          (settle operator.leftCategory.rank stack operand).1))) :
      joinedBy? operator stack operand = some next ↔
        Admits operator.category rest ∧ .operand (.binary operator left :: rest) = next := by
    rw [groups] at admits
    rw [joins, settled, Option.some.injEq]
    exact (and_iff_right admits).symm
  cases operator with
  | or => exact simple rfl rfl
  | and => exact simple rfl rfl
  | arithmetic operation => cases operation <;> exact simple rfl rfl
  | compare comparison =>
    -- only a comparison looks at what waits for it
    have joins : joinedBy? (.compare comparison) stack operand =
        if awaitsComparison (settle (Category.rank .sum) stack operand).1 then none
        else some (.operand (.binary (.compare comparison)
          (settle (Category.rank .sum) stack operand).2 ::
            (settle (Category.rank .sum) stack operand).1)) := rfl
    have settles : settle (Category.rank .sum) stack operand = (rest, left) := settled
    have may : Admits (BinaryOperator.compare comparison).category rest ↔
        awaitsComparison rest = false := admits_comparison_iff.trans (and_iff_right admits)
    rw [joins, settles, may]
    cases awaitsComparison rest with
    | true => simp
    | false => simp

/-! ### States that hold an operand -/

/-- The state after a callee. -/
def Callee.state (stack : Stack) (offset : Nat) : Callee → State
  | .function name => .named stack name offset
  | .member slot name => .membered stack slot name offset

/-- What waits for the arguments of a callee. -/
def Callee.pending (offset : Nat) (arguments : List Expression) : Callee → Pending
  | .function name => .call name offset arguments
  | .member slot name => .method slot name offset arguments

/-- The operand that was read last, with the stack under it. -/
def State.operand? : State → Option (Stack × Expression)
  | .named stack name offset => some (stack, .name name offset)
  | .membered stack slot name offset => some (stack, .field slot name offset)
  | .operator stack tree => some (stack, tree)
  | _ => none

theorem operand?_callee (callee : Callee) (stack : Stack) (offset : Nat) :
    (callee.state stack offset).operand? = some (stack, callee.alone offset) := by
  cases callee <;> rfl

section Holds

variable {state : State} {stack : Stack} {operand : Expression}

/-- A token that cannot belong to a callee goes on with the operand. -/
theorem step?_of_operand? (holds : state.operand? = some (stack, operand)) {lexeme : Lexeme}
    (call : lexeme.token ≠ .opening) (dot : lexeme.token ≠ .dot) :
    state.step? lexeme = proceed? stack operand lexeme.token := by
  cases state with
  | named stack name offset =>
    cases holds
    rw [State.step?]
    split
    next opens => exact absurd opens call
    next points => exact absurd points dot
    next => rfl
  | membered stack slot name offset =>
    cases holds
    rw [State.step?]
    split
    next opens => exact absurd opens call
    next => rfl
  | operator stack tree =>
    cases holds
    rfl
  | operand stack => cases holds
  | firstArgument stack => cases holds
  | dotted stack slot offset => cases holds

/-- The end finds the tree if settling leaves nothing else. -/
theorem finish?_of_operand? (holds : state.operand? = some (stack, operand)) {tree : Expression} :
    state.finish? = some tree ↔
      settle (Category.rank .disjunction) stack operand = ([], tree) := by
  have same : state.finish? = (State.operator stack operand).finish? := by
    cases state <;> cases holds <;> rfl
  have loosest : Category.rank .disjunction = 0 := rfl
  rw [same, loosest, State.finish?]
  dsimp only
  split
  next found settled => rw [settled, Option.some.injEq, Prod.mk.injEq, and_iff_right rfl]
  next other => exact ⟨nofun, fun settled => absurd settled (other tree)⟩

/-- The end finds a tree only where an operand was read. -/
theorem exists_operand?_of_finish? {tree : Expression} (ends : state.finish? = some tree) :
    ∃ stack operand, state.operand? = some (stack, operand) := by
  cases state with
  | named stack name offset => exact ⟨_, _, rfl⟩
  | membered stack slot name offset => exact ⟨_, _, rfl⟩
  | operator stack tree => exact ⟨_, _, rfl⟩
  | operand stack => cases ends
  | firstArgument stack => cases ends
  | dotted stack slot offset => cases ends

end Holds

/-! ### Callees and their arguments -/

section Callee

variable (callee : Callee) (offset : Nat) (arguments : List Expression) (stack : Stack)

theorem settle_pending (rank : Nat) (operand : Expression) :
    settle rank (callee.pending offset arguments :: stack) operand =
      (callee.pending offset arguments :: stack, operand) := by
  cases callee <;> rfl

theorem admits_pending (category : Category) :
    Admits category (callee.pending offset arguments :: stack) := by
  cases callee <;> trivial

theorem closeEmpty?_pending : closeEmpty? (callee.pending offset arguments :: stack) =
    some (.operator stack (callee.applied [] offset)) := by
  cases callee <;> rfl

variable {callee offset arguments stack}

theorem close?_of_pending {rest : Stack} {operand last : Expression}
    (settled : settle (Category.rank .disjunction) rest operand =
      (callee.pending offset arguments :: stack, last)) :
    close? rest operand =
      some (.operator stack (callee.applied (last :: arguments).reverse offset)) := by
  have settled : settle 0 rest operand = _ := settled
  unfold close?
  rw [settled]
  cases callee <;> rfl

theorem close?_of_group {rest : Stack} {operand tree : Expression}
    (settled : settle (Category.rank .disjunction) rest operand = (.group :: stack, tree)) :
    close? rest operand = some (.operator stack tree) := by
  have settled : settle 0 rest operand = _ := settled
  unfold close?
  rw [settled]

theorem separate?_of_pending {rest : Stack} {operand last : Expression}
    (settled : settle (Category.rank .disjunction) rest operand =
      (callee.pending offset arguments :: stack, last)) :
    separate? rest operand =
      some (.operand (callee.pending offset (last :: arguments) :: stack)) := by
  have settled : settle 0 rest operand = _ := settled
  unfold separate?
  rw [settled]
  cases callee <;> rfl

end Callee

/-! ### Reading tokens -/

/-- The state after some tokens, if each of them can go on. -/
def State.run? (state : State) : List Lexeme → Option State
  | [] => some state
  | lexeme :: rest => (state.step? lexeme).bind fun next => next.run? rest

theorem State.run?_cons_of_step? {state next : State} {lexeme : Lexeme}
    (steps : state.step? lexeme = some next) (rest : List Lexeme) :
    state.run? (lexeme :: rest) = next.run? rest := by
  rw [State.run?, steps]
  rfl

theorem State.run?_append (state : State) (front rest : List Lexeme) :
    state.run? (front ++ rest) = (state.run? front).bind fun next => next.run? rest := by
  induction front generalizing state with
  | nil => rfl
  | cons lexeme front ih =>
    rw [List.cons_append, State.run?, State.run?]
    cases state.step? lexeme with
    | none => rfl
    | some next => exact ih next

theorem State.run?_append_of_run? {state next : State} {front : List Lexeme}
    (runs : state.run? front = some next) (rest : List Lexeme) :
    state.run? (front ++ rest) = next.run? rest := by
  rw [State.run?_append, runs]
  rfl

/-- Reading up to the end gives the tree that the end finds. -/
theorem State.read_eq_ok_iff {lexemes : List Lexeme} {finish : Lexeme}
    (ends : finish.token = .finish) (inner : ∀ lexeme ∈ lexemes, lexeme.token ≠ .finish)
    {state : State} {tree : Expression} :
    state.read (lexemes ++ [finish]) = .ok tree ↔
      ∃ last, state.run? lexemes = some last ∧ last.finish? = some tree := by
  induction lexemes generalizing state with
  | nil =>
    have only : (∃ last, State.run? state [] = some last ∧ last.finish? = some tree) ↔
        state.finish? = some tree := by simp [State.run?]
    rw [List.nil_append, State.read, if_pos ends, only]
    cases state.finish? with
    | none => simp
    | some found => simp
  | cons lexeme lexemes ih =>
    rw [List.cons_append, State.read, if_neg (inner lexeme List.mem_cons_self), State.run?]
    cases state.step? lexeme with
    | none => simp
    | some next => exact ih fun other member => inner other (List.mem_cons_of_mem _ member)

/-! ### What phrases leave -/

/-- Whether reading a phrase wherever its category may stand leaves an operand that settles as the
tree does, at the rank of the category and at all looser ones. -/
def LeavesTree (category : Category) (phrase : List Lexeme) (tree : Expression) : Prop :=
  ∀ stack, Admits category stack → ∃ state rest operand,
    (State.operand stack).run? phrase = some state ∧ state.operand? = some (rest, operand) ∧
      ∀ rank ≤ category.rank, settle rank rest operand = settle rank stack tree

/-- Whether reading a list of arguments leaves them all with the callee, the last one as the
operand. -/
def LeavesArguments (listed : List Lexeme) (arguments : List Expression) : Prop :=
  ∀ callee offset before stack, ∃ state rest operand last front,
    (State.operand (Callee.pending offset before callee :: stack)).run? listed = some state ∧
      state.operand? = some (rest, operand) ∧
      settle (Category.rank .disjunction) rest operand =
        (Callee.pending offset front callee :: stack, last) ∧
      (last :: front).reverse = before.reverse ++ arguments

theorem leavesTree_of_holds {phrase : List Lexeme} {tree : Expression} {category : Category}
    (reads : ∀ stack, ∃ state, (State.operand stack).run? phrase = some state ∧
      state.operand? = some (stack, tree)) : LeavesTree category phrase tree := by
  intro stack _
  obtain ⟨state, runs, holds⟩ := reads stack
  exact ⟨state, stack, tree, runs, holds, fun _ _ => rfl⟩

theorem LeavesTree.loosen {category : Category} {phrase : List Lexeme} {tree : Expression}
    (leaves : LeavesTree category.tighter phrase tree) : LeavesTree category phrase tree := by
  intro stack admits
  have looser := category.rank_le_rank_tighter
  obtain ⟨state, rest, operand, runs, holds, settles⟩ := leaves stack (admits.mono looser)
  exact ⟨state, rest, operand, runs, holds, fun rank low => settles rank (Nat.le_trans low looser)⟩

/-- **A callee** is an operand of its own. -/
theorem run?_spelled {callee : Callee} {phrase : List Lexeme} {offset : Nat}
    (spelled : callee.Spelled phrase offset) (stack : Stack) :
    (State.operand stack).run? phrase = some (callee.state stack offset) := by
  cases spelled with
  | function word => simp [State.run?, State.step?, begin?, word, Callee.state]
  | member word dot last => simp [State.run?, State.step?, begin?, word, dot, last, Callee.state]

theorem step?_opening (callee : Callee) (stack : Stack) (offset : Nat) {opening : Lexeme}
    (opens : opening.token = .opening) :
    (callee.state stack offset).step? opening =
      some (.firstArgument (callee.pending offset [] :: stack)) := by
  cases callee <;> simp [Callee.state, State.step?, opens, Callee.pending]

theorem step?_closing {state : State} {stack : Stack} {operand : Expression}
    (holds : state.operand? = some (stack, operand)) {closing : Lexeme}
    (closes : closing.token = .closing) : state.step? closing = close? stack operand := by
  rw [step?_of_operand? holds (by simp [closes]) (by simp [closes]), closes, proceed?]

/-- **An operator before its operand** waits for it. -/
theorem LeavesTree.unary {operator : UnaryOperator} {phrase : List Lexeme} {tree : Expression}
    {lexeme : Lexeme} (stands : lexeme.token.unary? = some operator)
    (leaves : LeavesTree .operand phrase tree) :
    LeavesTree .operand (lexeme :: phrase) (.unary operator tree) := by
  intro stack _
  have begins : (State.operand stack).step? lexeme =
      some (.operand (.unary operator :: stack)) := by
    cases token : lexeme.token <;> rw [token] at stands <;> cases stands <;>
      simp [State.step?, begin?, token, Token.unary?]
  obtain ⟨state, rest, operand, runs, holds, settles⟩ :=
    leaves (.unary operator :: stack) (admits_of_operand_le (Nat.le_refl _) _)
  refine ⟨state, rest, operand, ?_, holds, settles⟩
  rw [State.run?_cons_of_step? begins, runs]

/-- **An operator between its operands** takes the tree to its left and waits for the one to its
right. -/
theorem LeavesTree.binary {operator : BinaryOperator} {left right : List Lexeme}
    {a b : Expression} {lexeme : Lexeme} (stands : lexeme.token.binary? = some operator)
    (first : LeavesTree operator.leftCategory left a)
    (second : LeavesTree operator.rightCategory right b) :
    LeavesTree operator.category (left ++ lexeme :: right) (.binary operator a b) := by
  intro stack admits
  have leftAdmits := admits.mono operator.rank_category_le_rank_leftCategory
  obtain ⟨middle, waiting, taken, leftRuns, leftHolds, leftSettles⟩ := first stack leftAdmits
  have settled : settle operator.leftCategory.rank waiting taken = (stack, a) :=
    (leftSettles _ (Nat.le_refl _)).trans
      (settle_eq_of_admits operator.rank_leftCategory_lt leftAdmits a)
  have joins : middle.step? lexeme = some (.operand (.binary operator a :: stack)) := by
    have joined := (joinedBy?_eq_some_iff settled).mpr ⟨admits, rfl⟩
    cases token : lexeme.token <;> rw [token] at stands <;> cases stands <;>
      rw [step?_of_operand? leftHolds (by simp [token]) (by simp [token]), token, proceed?] <;>
      simp [Token.binary?, joined]
  have tighter : operator.level.rank < operator.rightCategory.rank :=
    operator.rank_rightCategory ▸ Nat.lt_succ_self _
  obtain ⟨state, rest, operand, runs, holds, settles⟩ :=
    second (.binary operator a :: stack) tighter
  refine ⟨state, rest, operand, ?_, holds, fun rank low => ?_⟩
  · rw [State.run?_append_of_run? leftRuns, State.run?_cons_of_step? joins, runs]
  · have tight : rank ≤ operator.level.rank := operator.rank_category ▸ low
    rw [settles rank (Nat.le_trans tight (Nat.le_of_lt tighter)), settle_binary tight]

/-- Whether the first token of a phrase does not close a list of arguments. -/
def StartsOperand (phrase : List Lexeme) : Prop :=
  ∃ lexeme rest, phrase = lexeme :: rest ∧ lexeme.token ≠ .closing

theorem StartsOperand.append {phrase : List Lexeme} (starts : StartsOperand phrase)
    (rest : List Lexeme) : StartsOperand (phrase ++ rest) := by
  obtain ⟨lexeme, others, rfl, starts⟩ := starts
  exact ⟨lexeme, others ++ rest, rfl, starts⟩

theorem startsOperand_cons {lexeme : Lexeme} {token : Token} (same : lexeme.token = token)
    (starts : token ≠ .closing) (rest : List Lexeme) : StartsOperand (lexeme :: rest) :=
  ⟨lexeme, rest, rfl, same ▸ starts⟩

theorem Callee.Spelled.startsOperand {callee : Callee} {phrase : List Lexeme} {offset : Nat}
    (spelled : callee.Spelled phrase offset) : StartsOperand phrase := by
  cases spelled with
  | function word => exact startsOperand_cons word nofun _
  | member word => exact startsOperand_cons word nofun _

/-- A first argument is read like any other operand. -/
theorem run?_firstArgument {listed : List Lexeme} (starts : StartsOperand listed)
    (stack : Stack) (rest : List Lexeme) :
    (State.firstArgument stack).run? (listed ++ rest) =
      (State.operand stack).run? (listed ++ rest) := by
  obtain ⟨lexeme, others, rfl, starts⟩ := starts
  have steps : (State.firstArgument stack).step? lexeme = (State.operand stack).step? lexeme :=
    if_neg starts
  rw [List.cons_append, State.run?, State.run?, steps]

/-- **A callee without arguments.** -/
theorem leavesTree_empty {callee : Callee} {phrase : List Lexeme} {offset : Nat}
    {opening closing : Lexeme} (spelled : callee.Spelled phrase offset)
    (opens : opening.token = .opening) (closes : closing.token = .closing) :
    LeavesTree .primary (phrase ++ [opening, closing]) (callee.applied [] offset) := by
  refine leavesTree_of_holds fun stack => ⟨.operator stack _, ?_, rfl⟩
  have ends : (State.firstArgument (callee.pending offset [] :: stack)).step? closing =
      some (.operator stack (callee.applied [] offset)) := by
    rw [State.step?, if_pos closes, closeEmpty?_pending]
  rw [State.run?_append_of_run? (run?_spelled spelled stack),
    State.run?_cons_of_step? (step?_opening callee stack offset opens),
    State.run?_cons_of_step? ends, State.run?]

/-- **A callee with arguments.** -/
theorem leavesTree_applied {callee : Callee} {phrase listed : List Lexeme} {offset : Nat}
    {opening closing : Lexeme} {arguments : List Expression}
    (spelled : callee.Spelled phrase offset) (opens : opening.token = .opening)
    (closes : closing.token = .closing) (leaves : LeavesArguments listed arguments)
    (starts : StartsOperand listed) :
    LeavesTree .primary (phrase ++ opening :: listed ++ [closing])
      (callee.applied arguments offset) := by
  refine leavesTree_of_holds fun stack => ⟨.operator stack _, ?_, rfl⟩
  obtain ⟨state, rest, operand, last, front, runs, holds, settled, all⟩ :=
    leaves callee offset [] stack
  have ends : state.step? closing = some (.operator stack (callee.applied arguments offset)) := by
    rw [step?_closing holds closes, close?_of_pending settled, all]
    rfl
  rw [List.append_assoc, State.run?_append_of_run? (run?_spelled spelled stack), List.cons_append,
    State.run?_cons_of_step? (step?_opening callee stack offset opens),
    run?_firstArgument starts, State.run?_append_of_run? runs, State.run?_cons_of_step? ends,
    State.run?]

/-- **A group.** -/
theorem leavesTree_group {phrase : List Lexeme} {tree : Expression} {opening closing : Lexeme}
    (opens : opening.token = .opening) (closes : closing.token = .closing)
    (leaves : LeavesTree .disjunction phrase tree) :
    LeavesTree .primary (opening :: phrase ++ [closing]) tree := by
  refine leavesTree_of_holds fun stack => ⟨.operator stack _, ?_, rfl⟩
  obtain ⟨state, rest, operand, runs, holds, settles⟩ := leaves (.group :: stack) trivial
  have begins : (State.operand stack).step? opening = some (.operand (.group :: stack)) := by
    simp [State.step?, begin?, opens]
  have ends : state.step? closing = some (.operator stack tree) := by
    rw [step?_closing holds closes, close?_of_group (settles _ (Nat.le_refl _))]
  rw [List.cons_append, State.run?_cons_of_step? begins, State.run?_append_of_run? runs,
    State.run?_cons_of_step? ends, State.run?]

theorem leavesArguments_last {phrase : List Lexeme} {argument : Expression}
    (leaves : LeavesTree .disjunction phrase argument) : LeavesArguments phrase [argument] := by
  intro callee offset before stack
  obtain ⟨state, rest, operand, runs, holds, settles⟩ :=
    leaves (callee.pending offset before :: stack) (admits_pending ..)
  refine ⟨state, rest, operand, argument, before, runs, holds, ?_, List.reverse_cons⟩
  rw [settles _ (Nat.le_refl _), settle_pending]

theorem leavesArguments_more {phrase others : List Lexeme} {argument : Expression}
    {arguments : List Expression} {comma : Lexeme} (separates : comma.token = .comma)
    (leaves : LeavesTree .disjunction phrase argument)
    (more : LeavesArguments others arguments) :
    LeavesArguments (phrase ++ comma :: others) (argument :: arguments) := by
  intro callee offset before stack
  obtain ⟨middle, waiting, taken, firstRuns, firstHolds, firstSettles⟩ :=
    leaves (callee.pending offset before :: stack) (admits_pending ..)
  have settled := (firstSettles _ (Nat.le_refl _)).trans
    (settle_pending callee offset before stack _ argument)
  have parts : middle.step? comma =
      some (.operand (callee.pending offset (argument :: before) :: stack)) := by
    rw [step?_of_operand? firstHolds (by simp [separates]) (by simp [separates]), separates,
      proceed?, separate?_of_pending settled]
  obtain ⟨state, rest, operand, last, front, runs, holds, restSettled, all⟩ :=
    more callee offset (argument :: before) stack
  refine ⟨state, rest, operand, last, front, ?_, holds, restSettled, ?_⟩
  · rw [State.run?_append_of_run? firstRuns, State.run?_cons_of_step? parts, runs]
  · rw [all, List.reverse_cons, List.append_assoc, List.singleton_append]

/-- **Every phrase leaves its tree.** -/
theorem leavesTree_of_derives {category : Category} {phrase : List Lexeme} {tree : Expression}
    (derives : Derives category phrase tree) : LeavesTree category phrase tree := by
  refine And.left (b := StartsOperand phrase) ?_
  refine Derives.formInduction
    (motive_1 := fun category phrase tree => LeavesTree category phrase tree ∧ StartsOperand phrase)
    (motive_2 := fun listed arguments => LeavesArguments listed arguments ∧ StartsOperand listed)
    ?loosen ?number ?text ?alone ?group ?empty ?applied ?unary ?binary ?last ?more derives
  case loosen => exact fun _ _ _ ⟨leaves, starts⟩ => ⟨leaves.loosen, starts⟩
  case number =>
    refine fun token => ⟨leavesTree_of_holds fun stack => ⟨.operator stack _, ?_, rfl⟩,
      startsOperand_cons token nofun _⟩
    simp [State.run?, State.step?, begin?, token]
  case text =>
    refine fun token => ⟨leavesTree_of_holds fun stack => ⟨.operator stack _, ?_, rfl⟩,
      startsOperand_cons token nofun _⟩
    simp [State.run?, State.step?, begin?, token]
  case alone =>
    intro callee phrase offset spelled
    exact ⟨leavesTree_of_holds fun stack => ⟨_, run?_spelled spelled stack, operand?_callee ..⟩,
      spelled.startsOperand⟩
  case group =>
    intro phrase tree opening closing opens closes ⟨leaves, _⟩
    exact ⟨leavesTree_group opens closes leaves, startsOperand_cons opens nofun _⟩
  case empty =>
    intro callee phrase offset opening closing spelled opens closes
    exact ⟨leavesTree_empty spelled opens closes, spelled.startsOperand.append _⟩
  case applied =>
    intro callee phrase offset opening closing listed arguments spelled opens closes
      ⟨leaves, starts⟩
    refine ⟨leavesTree_applied spelled opens closes leaves starts, ?_⟩
    exact (spelled.startsOperand.append _).append _
  case unary =>
    intro operator phrase tree lexeme stands ⟨leaves, _⟩
    refine ⟨leaves.unary stands, lexeme, phrase, rfl, fun closes => ?_⟩
    rw [closes] at stands
    cases stands
  case binary =>
    intro operator left right a b lexeme stands ⟨first, starts⟩ ⟨second, _⟩
    exact ⟨first.binary stands second, starts.append _⟩
  case last => exact fun ⟨leaves, starts⟩ => ⟨leavesArguments_last leaves, starts⟩
  case more =>
    intro phrase rest argument arguments comma separates ⟨leaves, starts⟩ ⟨more, _⟩
    exact ⟨leavesArguments_more separates leaves more, starts.append _⟩

/-- **The tokens of a condition are read as its tree.** -/
theorem run?_of_derives {lexemes : List Lexeme} {tree : Expression}
    (derives : Derives .disjunction lexemes tree) :
    ∃ state, (State.operand []).run? lexemes = some state ∧ state.finish? = some tree := by
  obtain ⟨state, rest, operand, runs, holds, settles⟩ := leavesTree_of_derives derives [] trivial
  exact ⟨state, runs, (finish?_of_operand? holds).mpr (settles _ (Nat.le_refl _))⟩

end DesignRules.Condition
