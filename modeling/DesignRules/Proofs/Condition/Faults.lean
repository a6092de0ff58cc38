/-
**Where the faults of a condition point.**

A fault of the tokens or of the grammar is about a piece of the text at its offset. So is a fault of
a reference, whose offset is that of its first word, as long as it is about this word. A fault of a
method is about the second word: what stands at its offset is the slot.

* `exists_of_ofLexemes_eq_error`, `standsAt_of_ofText_eq_error`: texts without a tree.
* `Reference.method?`, `fault?_eq_some`: what the fault of a reference is about.
* `standsAlone_of_mem_references`: where the words of a reference stand.
* `firstOffence?`, `fault_points_at_token`: texts without code.
* `method_fault_misses_token`: a method that does not stand at the offset of its fault.
-/

import DesignRules.Decimal.Scalar
import DesignRules.Proofs.Condition.Offences
import DesignRules.Proofs.Condition.Places

namespace DesignRules.Condition

open Text (width)

/-! ### Texts without a tree -/

/-- A fault of the reader is about a token, if there is one. -/
theorem exists_of_read_eq_error {state : State} {lexemes : List Lexeme} {fault : Fault}
    (failed : state.read lexemes = .error fault) :
    fault.offset = 0 ∧ fault.token = "" ∨ ∃ lexeme ∈ lexemes, lexeme.fault = fault := by
  induction lexemes generalizing state with
  | nil =>
    obtain rfl := Except.error.inj failed
    exact .inl ⟨rfl, rfl⟩
  | cons lexeme rest ih =>
    rw [State.read] at failed
    split at failed
    · split at failed
      · cases failed
      · exact .inr ⟨lexeme, List.mem_cons_self, Except.error.inj failed⟩
    · split at failed
      · refine (ih failed).imp_right fun later => ?_
        obtain ⟨other, member, about⟩ := later
        exact ⟨other, List.mem_cons_of_mem _ member, about⟩
      · exact .inr ⟨lexeme, List.mem_cons_self, Except.error.inj failed⟩

theorem exists_of_ofLexemes_eq_error {lexemes : List Lexeme} {fault : Fault}
    (failed : Expression.ofLexemes lexemes = .error fault) :
    fault.offset = 0 ∧ fault.token = "" ∨ ∃ lexeme ∈ lexemes, lexeme.fault = fault := by
  unfold Expression.ofLexemes at failed
  split at failed
  · obtain rfl := Except.error.inj failed
    exact .inl ⟨rfl, rfl⟩
  · exact exists_of_read_eq_error failed

/-- **What is wrong with a text without a tree** stands at the offset of the fault. -/
theorem standsAt_of_ofText_eq_error {text : String} {fault : Fault}
    (failed : Expression.ofText text = .error fault) :
    StandsAt 0 text.toList fault.offset fault.token.toList := by
  unfold Expression.ofText at failed
  cases read : lexemes text with
  | error other =>
    rw [read] at failed
    obtain rfl := Except.error.inj failed
    exact standsAt_of_lexemesFrom_eq_error read
  | ok all =>
    rw [read] at failed
    obtain ⟨tokens, lexed, rfl⟩ := lexemesFrom_eq_ok_iff.mp read
    rcases exists_of_ofLexemes_eq_error failed with ⟨start, nothing⟩ | ⟨lexeme, member, rfl⟩
    · rw [start, nothing]
      exact standsAt_front 0 [] text.toList
    · rcases List.mem_append.mp member with member | last
      · exact lexed.standsAt member
      · obtain rfl := List.mem_singleton.mp last
        exact standsAt_end 0 text.toList

/-! ### References -/

/-- The method that a reference to a known slot names. -/
def Reference.method? (slots : SlotTable) : Reference → Option String
  | .method slot word _ _ => if (slots.find? slot).isSome then some word else none
  | _ => none

theorem callFault?_eq_some {builtin? : Option Builtin} {name : String} {found offset : Nat}
    {fault : Fault} (wrong : callFault? builtin? name found offset = some fault) :
    fault.offset = offset ∧ fault.token = name := by
  unfold callFault? at wrong
  split at wrong
  · obtain rfl := Option.some.inj wrong
    exact ⟨rfl, rfl⟩
  · split at wrong
    · cases wrong
    · obtain rfl := Option.some.inj wrong
      exact ⟨rfl, rfl⟩

/-- **What the fault of a reference is about**: a method of a known slot, or else its first word. -/
theorem fault?_eq_some {slots : SlotTable} {reference : Reference} {fault : Fault}
    (wrong : reference.fault? slots = some fault) :
    fault.offset = reference.offset ∧
      fault.token = (reference.method? slots).getD reference.callee.head := by
  cases reference with
  | name word offset =>
    rw [Reference.fault?] at wrong
    split at wrong
    · obtain rfl := Option.some.inj wrong
      exact ⟨rfl, rfl⟩
    · cases wrong
  | field slot field offset =>
    rw [Reference.fault?] at wrong
    split at wrong
    · obtain rfl := Option.some.inj wrong
      exact ⟨rfl, rfl⟩
    · cases wrong
  | method slot word arity offset =>
    rw [Reference.fault?] at wrong
    rw [Reference.method?]
    split at wrong
    next unknown =>
      obtain rfl := Option.some.inj wrong
      rw [unknown]
      exact ⟨rfl, rfl⟩
    next receiver known =>
      rw [known]
      exact callFault?_eq_some wrong
  | call word arity offset => exact callFault?_eq_some wrong

/-- The words of a callee. -/
def Callee.words : Callee → List String
  | .function name => [name]
  | .member slot name => [slot, name]

theorem method?_mem_words {slots : SlotTable} {reference : Reference} {method : String}
    (named : reference.method? slots = some method) : method ∈ reference.callee.words := by
  unfold Reference.method? at named
  split at named
  · split at named
    · obtain rfl := Option.some.inj named
      exact List.mem_cons_of_mem _ (List.mem_singleton_self _)
    · cases named
  · cases named

/-- **Where the words of a reference stand**: the first one alone at its offset, and all of them
consist of characters of words. -/
theorem standsAlone_of_mem_references {text : String} {tree : Expression}
    (parsed : Expression.ofText text = .ok tree) {reference : Reference}
    (member : reference ∈ tree.references) :
    StandsAlone 0 text.toList reference.offset reference.callee.head.toList ∧
      ∀ word ∈ reference.callee.words, ∀ c ∈ word.toList, continuesWord c = true := by
  obtain ⟨tokens, lexed, derives⟩ := ofText_eq_ok_iff_derives.mp parsed
  obtain ⟨part, inside, spelled⟩ := derives.spelledIn reference member
  have alone {lexeme : Lexeme} (listed : lexeme ∈ part) {name : String}
      (word : lexeme.token = .word name) :
      StandsAlone 0 text.toList lexeme.offset name.toList :=
    lexed.standsAlone (inside.subset listed) word
  generalize reference.callee = callee at spelled
  generalize reference.offset = offset at spelled
  cases spelled with
  | function word =>
    have stands := alone (List.mem_singleton_self _) word
    exact ⟨stands, List.forall_mem_singleton.mpr stands.1⟩
  | member word dot last =>
    have stands := alone List.mem_cons_self word
    have second := alone (by simp) last
    exact ⟨stands, List.forall_mem_cons.mpr ⟨stands.1, List.forall_mem_singleton.mpr second.1⟩⟩

/-! ### Texts without code -/

/-- The first reference of a text that is wrong. -/
def firstOffence? (slots : SlotTable) (text : String) : Option Reference :=
  match Expression.ofText text with
  | .error _ => none
  | .ok tree => tree.references.find? fun reference => (reference.fault? slots).isSome

theorem exists_find?_of_findSome? {α β : Type} {step : α → Option β} {list : List α} {value : β}
    (found : list.findSome? step = some value) :
    ∃ first ∈ list, list.find? (fun element => (step element).isSome) = some first ∧
      step first = some value := by
  obtain ⟨before, first, after, rfl, gives, none⟩ := List.findSome?_eq_some_iff.mp found
  refine ⟨first, List.mem_append_right _ List.mem_cons_self, ?_, gives⟩
  refine List.find?_eq_some_iff_append.mpr ⟨by rw [gives]; rfl, before, after, rfl, ?_⟩
  intro other member
  rw [none other member]
  rfl

variable {K : Type} [Scalar K]

/-- **Where a fault points.** The offset of a fault lies in the text. If the first wrong reference
of the text, if it has one, does not name a method of a known slot, then the token of the fault
stands at its offset. Otherwise the token is the method, but the slot stands alone at the offset, so
the method stands there just if it is a beginning of the slot's name. -/
theorem fault_points_at_token (slots : SlotTable) (text : String) (fault : Fault)
    (failed : (Code.ofText slots text : Except Fault (Code K)) = .error fault) :
    fault.offset ≤ width text.toList ∧
      ((∀ reference ∈ firstOffence? slots text, reference.method? slots = none) →
        StandsAt 0 text.toList fault.offset fault.token.toList) ∧
      ∀ reference ∈ firstOffence? slots text, ∀ method ∈ reference.method? slots,
        fault.token = method ∧
          StandsAlone 0 text.toList fault.offset reference.callee.head.toList ∧
          (StandsAt 0 text.toList fault.offset fault.token.toList ↔
            method.toList <+: reference.callee.head.toList) := by
  have bounded {piece : List Char} (stands : StandsAt 0 text.toList fault.offset piece) :
      fault.offset ≤ width text.toList := by
    have fits := stands.offset_le
    omega
  unfold Code.ofText at failed
  unfold firstOffence?
  cases parsed : Expression.ofText text with
  | error other =>
    rw [parsed] at failed
    obtain rfl : other = fault := Except.error.inj failed
    have stands := standsAt_of_ofText_eq_error parsed
    exact ⟨bounded stands, fun _ => stands, nofun⟩
  | ok tree =>
    rw [parsed] at failed
    have offends : tree.references.findSome? (Reference.fault? slots) = some fault := by
      rw [← failure?_instructions (K := K), ← failure?_bind_pure _ (Code.mk text)]
      exact failure?_eq_some_iff.mpr failed
    obtain ⟨culprit, member, first, wrong⟩ := exists_find?_of_findSome? offends
    obtain ⟨place, about⟩ := fault?_eq_some wrong
    obtain ⟨alone, words⟩ := standsAlone_of_mem_references parsed member
    rw [← place] at alone
    refine ⟨bounded alone.standsAt, fun other => ?_, fun reference found method named => ?_⟩
    · rw [about, other culprit first]
      exact alone.standsAt
    · obtain rfl : culprit = reference := Option.some.inj (first.symm.trans found)
      have token : fault.token = method := by
        rw [about, Option.mem_def.mp named]
        rfl
      refine ⟨token, alone, ?_⟩
      rw [token]
      exact alone.standsAt_iff (words method (method?_mem_words named))

/-- The offset counts the bytes of the quoted text before the function. -/
theorem fault_points_at_token_of_unknown_function :
    (Code.ofText .standard "A.Net == 'é' && frobnicate(2)" : Except Fault (Code Float)) =
        .error ⟨.unknownFunction, 17, "frobnicate"⟩ ∧
      StandsAt 0 "A.Net == 'é' && frobnicate(2)".toList 17 "frobnicate".toList := by
  have wrong : failure? (Code.ofText .standard "A.Net == 'é' && frobnicate(2)" :
      Except Fault (Code Float)) = some ⟨.unknownFunction, 17, "frobnicate"⟩ := by decide +kernel
  have failed := failure?_eq_some_iff.mp wrong
  have first : firstOffence? .standard "A.Net == 'é' && frobnicate(2)" =
      some (.call "frobnicate" 1 17) := by decide +kernel
  refine ⟨failed, (fault_points_at_token .standard _ _ failed).2.1 fun reference found => ?_⟩
  obtain rfl := Option.some.inj (first.symm.trans found)
  rfl

/-- **The fault of a method points at its slot**, where the method does not stand. -/
theorem method_fault_misses_token :
    ¬ ∀ (slots : SlotTable) (text : String) (fault : Fault),
      (Code.ofText slots text : Except Fault (Code Float)) = .error fault →
        fault.offset ≤ width text.toList ∧
          StandsAt 0 text.toList fault.offset fault.token.toList := by
  intro always
  have wrong : failure? (Code.ofText .standard "A.isPlated()" : Except Fault (Code Float)) =
      some ⟨.unknownFunction, 0, "isPlated"⟩ := by decide +kernel
  obtain ⟨-, before, after, split, place⟩ := always _ _ _ (failure?_eq_some_iff.mp wrong)
  have start : 0 = 0 + width before := place
  obtain rfl : before = [] := eq_nil_of_width_eq_zero (by omega)
  have first : 'A' = 'i' := Option.some.inj (congrArg List.head? split)
  exact absurd first (by decide)

end DesignRules.Condition
