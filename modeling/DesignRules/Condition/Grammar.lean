/-
**The grammar of conditions.**

A disjunction is made of conjunctions, a conjunction of comparisons, a comparison of one sum or of
two, a sum of products, a product of operands, and an operand of operators before a primary. All
operators but comparisons group to the left.

* `Derives`: which tokens make up which tree, by the rules of the grammar.
-/

import DesignRules.Condition.Expression

namespace DesignRules.Condition

/-- The syntactic categories, each of which contains the next. -/
inductive Category where
  | disjunction
  | conjunction
  | comparison
  | sum
  | product
  | operand
  | primary
  deriving DecidableEq, Repr

mutual

/-- The tokens of a phrase of some category, and its tree. -/
inductive Derives : Category → List Lexeme → Expression → Prop where
  | ofConjunction {phrase : List Lexeme} {tree : Expression} :
      Derives .conjunction phrase tree → Derives .disjunction phrase tree
  | or {left right : List Lexeme} {a b : Expression} {lexeme : Lexeme} :
      lexeme.token = .or → Derives .disjunction left a → Derives .conjunction right b →
      Derives .disjunction (left ++ lexeme :: right) (.binary .or a b)
  | ofComparison {phrase : List Lexeme} {tree : Expression} :
      Derives .comparison phrase tree → Derives .conjunction phrase tree
  | and {left right : List Lexeme} {a b : Expression} {lexeme : Lexeme} :
      lexeme.token = .and → Derives .conjunction left a → Derives .comparison right b →
      Derives .conjunction (left ++ lexeme :: right) (.binary .and a b)
  | ofSum {phrase : List Lexeme} {tree : Expression} :
      Derives .sum phrase tree → Derives .comparison phrase tree
  | compare {left right : List Lexeme} {a b : Expression} {lexeme : Lexeme}
      {comparison : Comparison} :
      lexeme.token = .compare comparison → Derives .sum left a → Derives .sum right b →
      Derives .comparison (left ++ lexeme :: right) (.binary (.compare comparison) a b)
  | ofProduct {phrase : List Lexeme} {tree : Expression} :
      Derives .product phrase tree → Derives .sum phrase tree
  | add {left right : List Lexeme} {a b : Expression} {lexeme : Lexeme} :
      lexeme.token = .plus → Derives .sum left a → Derives .product right b →
      Derives .sum (left ++ lexeme :: right) (.binary (.arithmetic .add) a b)
  | subtract {left right : List Lexeme} {a b : Expression} {lexeme : Lexeme} :
      lexeme.token = .minus → Derives .sum left a → Derives .product right b →
      Derives .sum (left ++ lexeme :: right) (.binary (.arithmetic .subtract) a b)
  | ofOperand {phrase : List Lexeme} {tree : Expression} :
      Derives .operand phrase tree → Derives .product phrase tree
  | multiply {left right : List Lexeme} {a b : Expression} {lexeme : Lexeme} :
      lexeme.token = .star → Derives .product left a → Derives .operand right b →
      Derives .product (left ++ lexeme :: right) (.binary (.arithmetic .multiply) a b)
  | divide {left right : List Lexeme} {a b : Expression} {lexeme : Lexeme} :
      lexeme.token = .slash → Derives .product left a → Derives .operand right b →
      Derives .product (left ++ lexeme :: right) (.binary (.arithmetic .divide) a b)
  | ofPrimary {phrase : List Lexeme} {tree : Expression} :
      Derives .primary phrase tree → Derives .operand phrase tree
  | not {phrase : List Lexeme} {tree : Expression} {lexeme : Lexeme} :
      lexeme.token = .not → Derives .operand phrase tree →
      Derives .operand (lexeme :: phrase) (.unary .not tree)
  | negate {phrase : List Lexeme} {tree : Expression} {lexeme : Lexeme} :
      lexeme.token = .minus → Derives .operand phrase tree →
      Derives .operand (lexeme :: phrase) (.unary .negate tree)
  | number {lexeme : Lexeme} {quantity : Quantity} :
      lexeme.token = .number quantity → Derives .primary [lexeme] (.number quantity)
  | text {lexeme : Lexeme} {content : String} :
      lexeme.token = .text content → Derives .primary [lexeme] (.text content)
  | group {phrase : List Lexeme} {tree : Expression} {opening closing : Lexeme} :
      opening.token = .opening → closing.token = .closing → Derives .disjunction phrase tree →
      Derives .primary (opening :: phrase ++ [closing]) tree
  | name {lexeme : Lexeme} {name : String} :
      lexeme.token = .word name → Derives .primary [lexeme] (.name name lexeme.offset)
  | call {phrase : List Lexeme} {arguments : List Expression} {lexeme opening closing : Lexeme}
      {name : String} :
      lexeme.token = .word name → opening.token = .opening → closing.token = .closing →
      DerivesArguments phrase arguments →
      Derives .primary (lexeme :: opening :: phrase ++ [closing])
        (.call name arguments lexeme.offset)
  | field {lexeme dot member : Lexeme} {slot name : String} :
      lexeme.token = .word slot → dot.token = .dot → member.token = .word name →
      Derives .primary [lexeme, dot, member] (.field slot name lexeme.offset)
  | method {phrase : List Lexeme} {arguments : List Expression}
      {lexeme dot member opening closing : Lexeme} {slot name : String} :
      lexeme.token = .word slot → dot.token = .dot → member.token = .word name →
      opening.token = .opening → closing.token = .closing → DerivesArguments phrase arguments →
      Derives .primary (lexeme :: dot :: member :: opening :: phrase ++ [closing])
        (.method slot name arguments lexeme.offset)

/-- The tokens of a list of arguments, which may be empty. -/
inductive DerivesArguments : List Lexeme → List Expression → Prop where
  | none : DerivesArguments [] []
  | some {phrase : List Lexeme} {arguments : List Expression} :
      DerivesSequence phrase arguments → DerivesArguments phrase arguments

/-- The tokens of one argument or more with commas between them. -/
inductive DerivesSequence : List Lexeme → List Expression → Prop where
  | last {phrase : List Lexeme} {argument : Expression} :
      Derives .disjunction phrase argument → DerivesSequence phrase [argument]
  | more {phrase rest : List Lexeme} {argument : Expression} {arguments : List Expression}
      {comma : Lexeme} :
      comma.token = .comma → Derives .disjunction phrase argument →
      DerivesSequence rest arguments →
      DerivesSequence (phrase ++ comma :: rest) (argument :: arguments)

end

end DesignRules.Condition
