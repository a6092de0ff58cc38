/-
**Reading the tree of a condition.**

The tokens are read from left to right. What is begun and not finished is kept on a stack: operators
that wait for their right operand, open parentheses and open calls. An operator first finishes all
that binds at least as tightly as itself, so operators of one level group to the left; comparisons
do not group at all. A token that cannot go on from here is the fault.

* `Pending`, `State`: what is begun, and what may come next.
* `State.step?`: the state after a token.
* `Expression.ofLexemes`: the tree of all tokens.
-/

import DesignRules.Condition.Expression

namespace DesignRules.Condition

/-- Something begun that waits for an operand; arguments are kept in reverse. -/
inductive Pending where
  | unary (operator : UnaryOperator)
  | binary (operator : BinaryOperator) (left : Expression)
  | group
  | call (name : String) (offset : Nat) (arguments : List Expression)
  | method (slot name : String) (offset : Nat) (arguments : List Expression)

/-- What is begun, the innermost first. -/
abbrev Stack := List Pending

/-- What has been read so far and what may come next. -/
inductive State where
  /-- An operand has to come. -/
  | operand (stack : Stack)
  /-- An argument or the end of an empty list of arguments has to come. -/
  | firstArgument (stack : Stack)
  /-- A name was read, which may go on as a call or as a member of a slot. -/
  | named (stack : Stack) (name : String) (offset : Nat)
  /-- A name and a point were read; the name of a member has to come. -/
  | dotted (stack : Stack) (slot : String) (offset : Nat)
  /-- The member of a slot was read, which may go on as a call. -/
  | membered (stack : Stack) (slot name : String) (offset : Nat)
  /-- An operand was read; an operator or the end of something has to come. -/
  | operator (stack : Stack) (operand : Expression)

/-! ### Finishing what is begun -/

/-- Gives a finished operand to the operators that bind at least as tightly as `rank`. -/
def settle (rank : Nat) : Stack → Expression → Stack × Expression
  | .unary operator :: stack, operand => settle rank stack (.unary operator operand)
  | .binary operator left :: stack, operand =>
    if rank ≤ operator.level.rank then settle rank stack (.binary operator left operand)
    else (.binary operator left :: stack, operand)
  | stack, operand => (stack, operand)

/-- Whether a comparison waits for its right operand at the top of the stack. -/
def awaitsComparison : Stack → Bool
  | .binary (.compare _) _ :: _ => true
  | _ => false

/-- The state after an operator between two operands. -/
def joinedBy? (operator : BinaryOperator) (stack : Stack) (operand : Expression) : Option State :=
  match operator with
  | .compare _ =>
    let (stack, operand) := settle (operator.level.rank + 1) stack operand
    if awaitsComparison stack then none
    else some (.operand (.binary operator operand :: stack))
  | _ =>
    let (stack, operand) := settle operator.level.rank stack operand
    some (.operand (.binary operator operand :: stack))

/-- The state after a closing parenthesis. -/
def close? (stack : Stack) (operand : Expression) : Option State :=
  match settle 0 stack operand with
  | (.group :: stack, operand) => some (.operator stack operand)
  | (.call name offset arguments :: stack, operand) =>
    some (.operator stack (.call name (operand :: arguments).reverse offset))
  | (.method slot name offset arguments :: stack, operand) =>
    some (.operator stack (.method slot name (operand :: arguments).reverse offset))
  | _ => none

/-- The state after a comma. -/
def separate? (stack : Stack) (operand : Expression) : Option State :=
  match settle 0 stack operand with
  | (.call name offset arguments :: stack, operand) =>
    some (.operand (.call name offset (operand :: arguments) :: stack))
  | (.method slot name offset arguments :: stack, operand) =>
    some (.operand (.method slot name offset (operand :: arguments) :: stack))
  | _ => none

/-- The state after the end of a list without arguments. -/
def closeEmpty? : Stack → Option State
  | .call name offset _ :: stack => some (.operator stack (.call name [] offset))
  | .method slot name offset _ :: stack => some (.operator stack (.method slot name [] offset))
  | _ => none

/-! ### One token -/

/-- The state after a token where an operand has to come. -/
def begin? (stack : Stack) (lexeme : Lexeme) : Option State :=
  match lexeme.token with
  | .number quantity => some (.operator stack (.number quantity))
  | .text content => some (.operator stack (.text content))
  | .word name => some (.named stack name lexeme.offset)
  | .opening => some (.operand (.group :: stack))
  | token => token.unary?.map fun operator => .operand (.unary operator :: stack)

/-- The state after a token where an operand was read. -/
def proceed? (stack : Stack) (operand : Expression) (token : Token) : Option State :=
  match token with
  | .closing => close? stack operand
  | .comma => separate? stack operand
  | token => token.binary?.bind fun operator => joinedBy? operator stack operand

/-- The state after a token; none if no condition goes on with it. -/
def State.step? (state : State) (lexeme : Lexeme) : Option State :=
  match state with
  | .operand stack => begin? stack lexeme
  | .firstArgument stack =>
    if lexeme.token = .closing then closeEmpty? stack else begin? stack lexeme
  | .named stack name offset =>
    match lexeme.token with
    | .opening => some (.firstArgument (.call name offset [] :: stack))
    | .dot => some (.dotted stack name offset)
    | token => proceed? stack (.name name offset) token
  | .dotted stack slot offset =>
    match lexeme.token with
    | .word name => some (.membered stack slot name offset)
    | _ => none
  | .membered stack slot name offset =>
    match lexeme.token with
    | .opening => some (.firstArgument (.method slot name offset [] :: stack))
    | token => proceed? stack (.field slot name offset) token
  | .operator stack tree => proceed? stack tree lexeme.token

/-- The tree of all that was read, if nothing begun waits for more. -/
def State.finish? (state : State) : Option Expression :=
  let finished (stack : Stack) (operand : Expression) : Option Expression :=
    match settle 0 stack operand with
    | ([], tree) => some tree
    | _ => none
  match state with
  | .named stack name offset => finished stack (.name name offset)
  | .membered stack slot name offset => finished stack (.field slot name offset)
  | .operator stack tree => finished stack tree
  | _ => none

/-! ### All tokens -/

/-- The fault of a token that cannot go on. -/
def Lexeme.fault (lexeme : Lexeme) : Fault :=
  let cause := if lexeme.token = .finish then Cause.unexpectedEnd else .unexpectedToken
  ⟨cause, lexeme.offset, lexeme.text⟩

/-- The tree of what was read and the tokens that follow. -/
def State.read (state : State) : List Lexeme → Except Fault Expression
  | [] => .error ⟨.unexpectedEnd, 0, ""⟩
  | lexeme :: rest =>
    if lexeme.token = .finish then
      match state.finish? with
      | some tree => .ok tree
      | none => .error lexeme.fault
    else
      match state.step? lexeme with
      | some next => next.read rest
      | none => .error lexeme.fault

/-- The tree of all tokens up to the end of the text. -/
def Expression.ofLexemes (lexemes : List Lexeme) : Except Fault Expression :=
  match lexemes with
  | ⟨.finish, _, _⟩ :: _ => .error ⟨.empty, 0, ""⟩
  | lexemes => (State.operand []).read lexemes

/-- The tree of a text. -/
def Expression.ofText (text : String) : Except Fault Expression :=
  lexemes text >>= Expression.ofLexemes

end DesignRules.Condition
