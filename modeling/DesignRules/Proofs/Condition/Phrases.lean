/-
**Phrases of the grammar of conditions.**

The productions of the grammar, put into a few forms: a phrase that stands for itself, a callee
alone or with arguments, a group, and an operator with its operands.

* `Callee`, `Callee.Spelled`: what a name or a member of a slot is, alone or before arguments.
* `Category.rank`, `Derives.ofRank`: the order of the categories; a tighter phrase is a looser one.
* `Derives.formInduction`: induction on phrases by these forms.
* `Derives.heads_eq`: the names of a tree, with the offsets that it keeps, are the words of its
  tokens that start a name.
-/

import DesignRules.Condition.Grammar

namespace DesignRules.Condition

/-! ### Callees -/

/-- What arguments may be given to: a function, or a member of a slot. -/
inductive Callee where
  | function (name : String)
  | member (slot name : String)

namespace Callee

/-- The tree of a callee that has no arguments. -/
def alone (offset : Nat) : Callee → Expression
  | .function name => .name name offset
  | .member slot name => .field slot name offset

/-- The tree of a callee with its arguments. -/
def applied (arguments : List Expression) (offset : Nat) : Callee → Expression
  | .function name => .call name arguments offset
  | .member slot name => .method slot name arguments offset

/-- The first word of a callee. -/
def head : Callee → String
  | .function name => name
  | .member slot _ => slot

/-- The tokens of a callee, and the offset of its first word. -/
inductive Spelled : Callee → List Lexeme → Nat → Prop where
  | function {lexeme : Lexeme} {name : String} :
      lexeme.token = .word name → Spelled (.function name) [lexeme] lexeme.offset
  | member {lexeme dot last : Lexeme} {slot name : String} :
      lexeme.token = .word slot → dot.token = .dot → last.token = .word name →
      Spelled (.member slot name) [lexeme, dot, last] lexeme.offset

theorem Spelled.derives_alone {callee : Callee} {phrase : List Lexeme} {offset : Nat}
    (spelled : callee.Spelled phrase offset) : Derives .primary phrase (callee.alone offset) := by
  cases spelled with
  | function word => exact .name word
  | member word dot last => exact .field word dot last

theorem Spelled.derives_applied {callee : Callee} {phrase listed : List Lexeme} {offset : Nat}
    (spelled : callee.Spelled phrase offset) {opening closing : Lexeme}
    (opens : opening.token = .opening) (closes : closing.token = .closing)
    {arguments : List Expression} (derives : DerivesArguments listed arguments) :
    Derives .primary (phrase ++ opening :: listed ++ [closing])
      (callee.applied arguments offset) := by
  cases spelled with
  | function word => exact .call word opens closes derives
  | member word dot last => exact .method word dot last opens closes derives

end Callee

/-! ### Categories -/

/-- The category of the operators of a level. -/
def Level.category : Level → Category
  | .disjunction => .disjunction
  | .conjunction => .conjunction
  | .comparison => .comparison
  | .sum => .sum
  | .product => .product

namespace Category

/-- How tightly the phrases of a category bind. -/
def rank : Category → Nat
  | .disjunction => 0
  | .conjunction => 1
  | .comparison => 2
  | .sum => 3
  | .product => 4
  | .operand => 5
  | .primary => 6

/-- The next tighter category; none is tighter than that of the primaries. -/
def tighter : Category → Category
  | .disjunction => .conjunction
  | .conjunction => .comparison
  | .comparison => .sum
  | .sum => .product
  | .product => .operand
  | .operand => .primary
  | .primary => .primary

theorem rank_le_rank_tighter (category : Category) : category.rank ≤ category.tighter.rank := by
  cases category <;> decide

theorem rank_lt_rank_tighter {category : Category}
    (loose : category.rank < Category.rank .primary) :
    category.tighter.rank = category.rank + 1 := by
  cases category with
  | primary => exact absurd loose (Nat.lt_irrefl _)
  | _ => rfl

theorem eq_of_rank_eq {category other : Category} (same : category.rank = other.rank) :
    category = other := by
  cases category <;> cases other <;> trivial

theorem rank_le_primary (category : Category) : category.rank ≤ Category.rank .primary := by
  cases category <;> decide

end Category

theorem Level.rank_category (level : Level) : level.category.rank = level.rank := by
  cases level <;> rfl

theorem Derives.loosen {category : Category} {phrase : List Lexeme} {tree : Expression}
    (derives : Derives category.tighter phrase tree) : Derives category phrase tree := by
  cases category with
  | disjunction => exact .ofConjunction derives
  | conjunction => exact .ofComparison derives
  | comparison => exact .ofSum derives
  | sum => exact .ofProduct derives
  | product => exact .ofOperand derives
  | operand => exact .ofPrimary derives
  | primary => exact derives

/-- **A phrase of a tighter category is one of each looser category.** -/
theorem Derives.ofRank {category other : Category} (looser : category.rank ≤ other.rank)
    {phrase : List Lexeme} {tree : Expression} (derives : Derives other phrase tree) :
    Derives category phrase tree := by
  obtain ⟨distance, apart⟩ := Nat.exists_eq_add_of_le looser
  induction distance generalizing category with
  | zero => exact Category.eq_of_rank_eq apart ▸ derives
  | succ distance ih =>
    have bounded := other.rank_le_primary
    have loose : category.rank < Category.rank .primary := by omega
    have next := Category.rank_lt_rank_tighter loose
    exact (ih (by omega) (by omega)).loosen

/-! ### Operators -/

namespace BinaryOperator

/-- The category of a phrase with an operator between two operands. -/
def category (operator : BinaryOperator) : Category := operator.level.category

/-- The category of the left operand: all operators but comparisons group to the left. -/
def leftCategory (operator : BinaryOperator) : Category :=
  match operator with
  | .compare _ => .sum
  | _ => operator.category

/-- The category of the right operand. -/
def rightCategory (operator : BinaryOperator) : Category := operator.category.tighter

theorem rank_category (operator : BinaryOperator) :
    operator.category.rank = operator.level.rank := operator.level.rank_category

theorem rank_rightCategory (operator : BinaryOperator) :
    operator.rightCategory.rank = operator.level.rank + 1 := by
  cases operator with
  | or => rfl
  | and => rfl
  | compare comparison => rfl
  | arithmetic operation => cases operation <;> rfl

theorem rank_category_le_rank_leftCategory (operator : BinaryOperator) :
    operator.category.rank ≤ operator.leftCategory.rank := by
  cases operator with
  | or => exact Nat.le_refl _
  | and => exact Nat.le_refl _
  | compare comparison => exact Nat.le_succ _
  | arithmetic operation => exact Nat.le_refl _

end BinaryOperator

theorem Derives.binary {operator : BinaryOperator} {left right : List Lexeme} {a b : Expression}
    {lexeme : Lexeme} (stands : lexeme.token.binary? = some operator)
    (first : Derives operator.leftCategory left a)
    (second : Derives operator.rightCategory right b) :
    Derives operator.category (left ++ lexeme :: right) (.binary operator a b) := by
  cases token : lexeme.token <;> rw [token] at stands <;> cases stands
  case compare => exact .compare token first second
  case and => exact .and token first second
  case or => exact .or token first second
  case plus => exact .add token first second
  case minus => exact .subtract token first second
  case star => exact .multiply token first second
  case slash => exact .divide token first second

theorem Derives.unary {operator : UnaryOperator} {phrase : List Lexeme} {tree : Expression}
    {lexeme : Lexeme} (stands : lexeme.token.unary? = some operator)
    (derives : Derives .operand phrase tree) :
    Derives .operand (lexeme :: phrase) (.unary operator tree) := by
  cases token : lexeme.token <;> rw [token] at stands <;> cases stands
  case not => exact .not token derives
  case minus => exact .negate token derives

/-! ### Induction -/

/-- **Induction on phrases by their forms.** -/
theorem Derives.formInduction {motive_1 : Category → List Lexeme → Expression → Prop}
    {motive_2 : List Lexeme → List Expression → Prop}
    (loosen : ∀ (category) {phrase tree}, motive_1 category.tighter phrase tree →
      motive_1 category phrase tree)
    (number : ∀ {lexeme quantity}, lexeme.token = .number quantity →
      motive_1 .primary [lexeme] (.number quantity))
    (text : ∀ {lexeme content}, lexeme.token = .text content →
      motive_1 .primary [lexeme] (.text content))
    (alone : ∀ {callee phrase offset}, Callee.Spelled callee phrase offset →
      motive_1 .primary phrase (callee.alone offset))
    (group : ∀ {phrase tree opening closing}, opening.token = .opening →
      closing.token = .closing → motive_1 .disjunction phrase tree →
      motive_1 .primary (opening :: phrase ++ [closing]) tree)
    (empty : ∀ {callee phrase offset opening closing}, Callee.Spelled callee phrase offset →
      opening.token = .opening → closing.token = .closing →
      motive_1 .primary (phrase ++ [opening, closing]) (callee.applied [] offset))
    (applied : ∀ {callee phrase offset opening closing listed arguments},
      Callee.Spelled callee phrase offset → opening.token = .opening →
      closing.token = .closing → motive_2 listed arguments →
      motive_1 .primary (phrase ++ opening :: listed ++ [closing])
        (callee.applied arguments offset))
    (unary : ∀ {operator phrase tree lexeme}, lexeme.token.unary? = some operator →
      motive_1 .operand phrase tree → motive_1 .operand (lexeme :: phrase) (.unary operator tree))
    (binary : ∀ {operator left right a b lexeme}, lexeme.token.binary? = some operator →
      motive_1 operator.leftCategory left a → motive_1 operator.rightCategory right b →
      motive_1 operator.category (left ++ lexeme :: right) (.binary operator a b))
    (last : ∀ {phrase argument}, motive_1 .disjunction phrase argument → motive_2 phrase [argument])
    (more : ∀ {phrase rest argument arguments comma}, comma.token = .comma →
      motive_1 .disjunction phrase argument → motive_2 rest arguments →
      motive_2 (phrase ++ comma :: rest) (argument :: arguments))
    {category : Category} {phrase : List Lexeme} {tree : Expression}
    (derives : Derives category phrase tree) : motive_1 category phrase tree := by
  have given {callee phrase offset opening closing listed arguments}
      (spelled : Callee.Spelled callee phrase offset) (opens : opening.token = .opening)
      (closes : closing.token = .closing)
      (derived : listed = [] ∧ arguments = [] ∨ motive_2 listed arguments) :
      motive_1 .primary (phrase ++ opening :: listed ++ [closing])
        (callee.applied arguments offset) := by
    rcases derived with ⟨rfl, rfl⟩ | derived
    · rw [List.append_assoc]
      exact empty spelled opens closes
    · exact applied spelled opens closes derived
  have joined {operator left right a b lexeme token} (same : lexeme.token = token)
      (stands : token.binary? = some operator) (first : motive_1 operator.leftCategory left a)
      (second : motive_1 operator.rightCategory right b) :
      motive_1 operator.category (left ++ lexeme :: right) (.binary operator a b) :=
    binary (same ▸ stands) first second
  refine Derives.rec (motive_1 := fun category phrase tree _ => motive_1 category phrase tree)
    (motive_2 := fun listed arguments _ => listed = [] ∧ arguments = [] ∨ motive_2 listed arguments)
    (motive_3 := fun listed arguments _ => motive_2 listed arguments)
    (fun _ => loosen .disjunction) ?or (fun _ => loosen .conjunction) ?and
    (fun _ => loosen .comparison) ?compare (fun _ => loosen .sum) ?add ?subtract
    (fun _ => loosen .product) ?multiply ?divide (fun _ => loosen .operand) ?not ?negate
    number text ?group ?name ?call ?field ?method (.inl ⟨rfl, rfl⟩) (fun _ => .inr)
    (fun _ => last) ?more derives
  case or => exact fun token _ _ first second => joined token rfl first second
  case and => exact fun token _ _ first second => joined token rfl first second
  case compare => exact fun token _ _ first second => joined token rfl first second
  case add => exact fun token _ _ first second => joined token rfl first second
  case subtract => exact fun token _ _ first second => joined token rfl first second
  case multiply => exact fun token _ _ first second => joined token rfl first second
  case divide => exact fun token _ _ first second => joined token rfl first second
  case not => exact fun token _ inner => unary (by rw [token]; rfl) inner
  case negate => exact fun token _ inner => unary (by rw [token]; rfl) inner
  case group => exact fun opens closes _ inner => group opens closes inner
  case name => exact fun word => alone (.function word)
  case call => exact fun word opens closes _ listed => given (.function word) opens closes listed
  case field => exact fun word dot last => alone (.member word dot last)
  case method =>
    exact fun word dot last opens closes _ listed =>
      given (.member word dot last) opens closes listed
  case more => exact fun separates _ _ first rest => more separates first rest

/-! ### Names and their offsets -/

mutual

/-- The names of a tree in order, those of slots before a point among them, with the offsets that it
keeps for them. -/
def Expression.heads : Expression → List (String × Nat)
  | .number _ => []
  | .text _ => []
  | .name name offset => [(name, offset)]
  | .field slot _ offset => [(slot, offset)]
  | .method slot _ arguments offset => (slot, offset) :: argumentHeads arguments
  | .call name arguments offset => (name, offset) :: argumentHeads arguments
  | .unary _ operand => operand.heads
  | .binary _ left right => left.heads ++ right.heads

/-- The names of arguments. -/
def argumentHeads : List Expression → List (String × Nat)
  | [] => []
  | argument :: arguments => argument.heads ++ argumentHeads arguments

end

/-- The word that a token is, with its offset. -/
def Lexeme.word? (lexeme : Lexeme) : Option (String × Nat) :=
  match lexeme.token with
  | .word name => some (name, lexeme.offset)
  | _ => none

/-- The words among some tokens that do not follow a point; `dotted` tells whether a point stands
before the first token. -/
def leadingWords (dotted : Bool) : List Lexeme → List (String × Nat)
  | [] => []
  | lexeme :: rest =>
    (if dotted then [] else lexeme.word?.toList) ++ leadingWords (lexeme.token = .dot) rest

/-- A token that is neither a word nor a point adds no name. -/
theorem leadingWords_cons {lexeme : Lexeme} {token : Token} (same : lexeme.token = token)
    (noWord : ∀ name, token ≠ .word name) (noDot : token ≠ .dot) (rest : List Lexeme) :
    leadingWords false (lexeme :: rest) = leadingWords false rest := by
  have mark : lexeme.word? = none := by
    unfold Lexeme.word?
    rw [same]
    cases token with
    | word name => exact absurd rfl (noWord name)
    | _ => rfl
  have other : lexeme.token ≠ .dot := same ▸ noDot
  simp [leadingWords, mark, other]

theorem leadingWords_spelled {callee : Callee} {phrase : List Lexeme} {offset : Nat}
    (spelled : callee.Spelled phrase offset) (rest : List Lexeme) :
    leadingWords false (phrase ++ rest) = (callee.head, offset) :: leadingWords false rest := by
  cases spelled with
  | function word => simp [leadingWords, Lexeme.word?, word, Callee.head]
  | member word dot last => simp [leadingWords, Lexeme.word?, word, dot, last, Callee.head]

theorem Callee.heads_alone (callee : Callee) (offset : Nat) :
    (callee.alone offset).heads = [(callee.head, offset)] := by
  cases callee <;> simp [Callee.alone, Callee.head, Expression.heads]

theorem Callee.heads_applied (callee : Callee) (arguments : List Expression) (offset : Nat) :
    (callee.applied arguments offset).heads =
      (callee.head, offset) :: argumentHeads arguments := by
  cases callee <;> simp [Callee.applied, Callee.head, Expression.heads]

/-- The names of a phrase are the first ones of all tokens that start with it. -/
theorem Derives.leadingWords_append {category : Category} {phrase : List Lexeme}
    {tree : Expression} (derives : Derives category phrase tree) :
    ∀ rest, leadingWords false (phrase ++ rest) = tree.heads ++ leadingWords false rest := by
  refine Derives.formInduction
    (motive_1 := fun _ phrase tree => ∀ rest,
      leadingWords false (phrase ++ rest) = tree.heads ++ leadingWords false rest)
    (motive_2 := fun listed arguments => ∀ rest,
      leadingWords false (listed ++ rest) = argumentHeads arguments ++ leadingWords false rest)
    (fun _ => id) ?numeral ?quoted ?alone ?group ?empty ?applied ?unary ?binary ?last ?more derives
  case numeral => exact fun token rest => leadingWords_cons token nofun nofun rest
  case quoted => exact fun token rest => leadingWords_cons token nofun nofun rest
  case alone =>
    intro callee phrase offset spelled rest
    rw [leadingWords_spelled spelled, callee.heads_alone]
    rfl
  case group =>
    intro phrase tree opening closing opens closes inner rest
    rw [List.cons_append, List.cons_append, leadingWords_cons opens nofun nofun,
      List.append_assoc, inner, List.singleton_append, leadingWords_cons closes nofun nofun]
  case empty =>
    intro callee phrase offset opening closing spelled opens closes rest
    rw [List.append_assoc, leadingWords_spelled spelled, callee.heads_applied, List.cons_append,
      leadingWords_cons opens nofun nofun, List.singleton_append,
      leadingWords_cons closes nofun nofun]
    rfl
  case applied =>
    intro callee phrase offset opening closing listed arguments spelled opens closes inner rest
    rw [List.append_assoc, List.append_assoc, leadingWords_spelled spelled, callee.heads_applied,
      List.cons_append, leadingWords_cons opens nofun nofun, inner, List.singleton_append,
      leadingWords_cons closes nofun nofun, List.cons_append]
  case unary =>
    intro operator phrase tree lexeme stands inner rest
    rw [List.cons_append,
      leadingWords_cons rfl (by rintro name word; rw [word] at stands; cases stands)
        (by intro dot; rw [dot] at stands; cases stands),
      inner, Expression.heads]
  case binary =>
    intro operator left right a b lexeme stands first second rest
    rw [List.append_assoc, first, List.cons_append,
      leadingWords_cons rfl (by rintro name word; rw [word] at stands; cases stands)
        (by intro dot; rw [dot] at stands; cases stands),
      second, Expression.heads, List.append_assoc]
  case last =>
    intro phrase argument inner rest
    rw [inner, argumentHeads, argumentHeads, List.append_nil]
  case more =>
    intro phrase rest argument arguments comma separates first others following
    rw [List.append_assoc, first, List.cons_append, leadingWords_cons separates nofun nofun, others,
      argumentHeads, List.append_assoc]

/-- **The names of a tree are the words that start a name**, with the offsets of these words. -/
theorem Derives.heads_eq {category : Category} {phrase : List Lexeme} {tree : Expression}
    (derives : Derives category phrase tree) : tree.heads = leadingWords false phrase := by
  have all := derives.leadingWords_append []
  rw [List.append_nil, leadingWords, List.append_nil] at all
  exact all.symm

end DesignRules.Condition
