/-
**What a glob takes, as a formal language.**

A part takes the byte sequences of a language, and a sequence of parts the products of these. The
marks after some parts stand exactly after the beginnings of the text that the parts so far take, so
the last mark tells whether they take the whole text.

* `Part.language`, `language`: what a part and a sequence of parts take.
* `Marking`: marks that stand after the beginnings of a text that belong to a language.
* `marking_start` and the steps `Marking.advance`, `Marking.spread`, `Marking.joined`.
* `marking_after`, `marking_afterAll`: the marks after a part and after a sequence.
* `isMatch_iff`: a sequence takes a text exactly if the text belongs to its language.
-/

import DesignRules.Glob.Marks
import Mathlib.Computability.Language

namespace DesignRules.Glob

/-! ### Languages -/

/-- The sequences of one byte of some kind. -/
def oneByte (holds : UInt8 → Bool) : Language UInt8 :=
  {bytes | ∃ byte, holds byte = true ∧ bytes = [byte]}

mutual

/-- The sequences that a part takes; branches without content are no alternatives. -/
def Part.language : Part → Language UInt8
  | .literal character => {String.utf8EncodeChar character}
  | .anyByte => oneByte fun _ => true
  | .run => ⊤
  | .leading => 1 + ⊤ * {[slash]}
  | .trailing => {[slash]} * ⊤
  | .between => {[slash]} + {[slash]} * (⊤ * {[slash]})
  | .oneOf negated entries => oneByte (classHolds negated entries)
  | .alternatives branches => if allVoid branches then 1 else anyLanguage branches

/-- The sequences that parts take one after the other. -/
def language : List Part → Language UInt8
  | [] => 1
  | part :: parts => part.language * language parts

/-- The sequences that one of the branches with content takes. -/
def anyLanguage : List (List Part) → Language UInt8
  | [] => 0
  | branch :: branches =>
    if isVoid branch then anyLanguage branches else language branch + anyLanguage branches

end

theorem mem_oneByte {holds : UInt8 → Bool} {bytes : Bytes} :
    bytes ∈ oneByte holds ↔ ∃ byte, holds byte = true ∧ bytes = [byte] := Iff.rfl

/-! ### Marks -/

/-- Whether some marks are those of the beginnings of a text that belong to a language. -/
structure Marking (text : Bytes) (marks : Marks) (reached : Language UInt8) : Prop where
  places : marks.length = text.length + 1
  marked : ∀ taken, taken <+: text → (marks[taken.length]? = some true ↔ taken ∈ reached)

variable {text : Bytes} {marks : Marks} {reached : Language UInt8}

theorem marking_start (text : Bytes) : Marking text (start text) 1 := by
  refine ⟨length_start text, fun taken beginning => ?_⟩
  rw [Language.mem_one]
  cases taken with
  | nil => simp [start]
  | cons byte taken => simp [start, List.getElem?_replicate]

theorem Marking.unmarked (marking : Marking text marks reached) :
    Marking text (unmarked marks) 0 := by
  refine ⟨?_, fun taken _ => ?_⟩
  · rw [Glob.unmarked, List.length_map, marking.places]
  · rw [Glob.unmarked, List.getElem?_map]
    refine iff_of_false ?_ (Language.notMem_zero taken)
    cases marks[taken.length]? <;> simp

theorem Marking.joined {others : Marks} {further : Language UInt8}
    (first : Marking text marks reached) (second : Marking text others further) :
    Marking text (joined marks others) (reached + further) := by
  have equal : marks.length = others.length := by rw [first.places, second.places]
  refine ⟨by rw [length_joined equal, first.places], fun taken beginning => ?_⟩
  rw [Language.mem_add, ← first.marked taken beginning, ← second.marked taken beginning,
    Glob.joined, List.getElem?_zipWith]
  have inside : taken.length < marks.length := by
    have short := beginning.length_le
    rw [first.places]
    omega
  have inside' : taken.length < others.length := equal ▸ inside
  simp [inside, inside']

/-- **One more byte** of some kind. -/
theorem Marking.advance (marking : Marking text marks reached) (holds : UInt8 → Bool) :
    Marking text (advance holds text marks) (reached * oneByte holds) := by
  refine ⟨length_advance holds marking.places, fun taken beginning => ?_⟩
  rw [Language.mem_mul]
  -- the byte that is taken is the last one; where nothing is taken there is none
  rcases List.eq_nil_or_concat' taken with rfl | ⟨earlier, byte, rfl⟩
  · simp [Glob.advance, mem_oneByte]
  have before : earlier <+: text := (List.prefix_append _ _).trans beginning
  have here : text[earlier.length]? = some byte := by
    obtain ⟨after, rfl⟩ := beginning
    simp
  rw [List.length_append, List.length_singleton, Glob.advance, List.getElem?_cons_succ,
    List.getElem?_zipWith, here]
  constructor
  · intro found
    cases mark : marks[earlier.length]? with
    | none => simp [mark] at found
    | some value =>
      simp only [mark, Option.some.injEq, Bool.and_eq_true] at found
      obtain ⟨rfl, suits⟩ := found
      exact ⟨earlier, (marking.marked earlier before).mp mark, [byte], ⟨byte, suits, rfl⟩, rfl⟩
  · rintro ⟨shorter, member, _, ⟨last, suits, rfl⟩, same⟩
    obtain ⟨rfl, rfl⟩ := List.append_singleton_inj.mp same
    simp [(marking.marked shorter before).mpr member, suits]

/-- The marks after a run stand at and after the first one. -/
theorem getElem?_spread (seen : Bool) (marks : Marks) (place : Nat) :
    (spread seen marks)[place]? = some true ↔
      place < marks.length ∧
        (seen = true ∨ ∃ earlier, earlier ≤ place ∧ marks[earlier]? = some true) := by
  induction marks generalizing seen place with
  | nil => simp [spread]
  | cons mark marks ih =>
    cases place with
    | zero =>
      simp [spread]
    | succ place =>
      rw [spread, List.getElem?_cons_succ, ih, List.length_cons, Nat.succ_lt_succ_iff]
      refine and_congr_right fun _ => ?_
      rw [Bool.or_eq_true, or_assoc]
      refine or_congr_right ?_
      constructor
      · rintro (rfl | ⟨earlier, before, found⟩)
        · exact ⟨0, Nat.zero_le _, rfl⟩
        · exact ⟨earlier + 1, Nat.succ_le_succ before, found⟩
      · rintro ⟨_ | earlier, before, found⟩
        · exact .inl (by simpa using found)
        · exact .inr ⟨earlier, Nat.le_of_succ_le_succ before, found⟩

/-- **One more run** of any bytes. -/
theorem Marking.spread (marking : Marking text marks reached) :
    Marking text (spread false marks) (reached * ⊤) := by
  refine ⟨by rw [length_spread, marking.places], fun taken beginning => ?_⟩
  have inside : taken.length < marks.length := by
    have short := beginning.length_le
    rw [marking.places]
    omega
  rw [getElem?_spread, Language.mem_mul]
  constructor
  · rintro ⟨-, none | ⟨earlier, before, found⟩⟩
    · cases none
    · have front : taken.take earlier <+: text := (List.take_prefix _ _).trans beginning
      refine ⟨taken.take earlier, (marking.marked _ front).mp ?_, taken.drop earlier, trivial,
        List.take_append_drop earlier taken⟩
      rwa [List.length_take, Nat.min_eq_left before]
  · rintro ⟨earlier, member, piece, -, rfl⟩
    have before : earlier <+: text := (List.prefix_append _ _).trans beginning
    refine ⟨inside, .inr ⟨earlier.length, ?_, (marking.marked earlier before).mpr member⟩⟩
    rw [List.length_append]
    exact Nat.le_add_right _ _

theorem mem_singleton {word bytes : Bytes} :
    bytes ∈ ({word} : Language UInt8) ↔ bytes = word := Iff.rfl

theorem oneByte_beq (expected : UInt8) : oneByte (· == expected) = {[expected]} := by
  ext bytes
  simp [mem_oneByte, mem_singleton]

theorem singleton_mul_singleton (first second : Bytes) :
    ({first} * {second} : Language UInt8) = {first ++ second} := by
  ext bytes
  simp [Language.mem_mul, mem_singleton, eq_comm]

/-- **The bytes of a word** one after the other. -/
theorem Marking.advanceBytes (marking : Marking text marks reached) (word : Bytes) :
    Marking text (advanceBytes word text marks) (reached * {word}) := by
  induction word generalizing marks reached with
  | nil =>
    have nothing : ({[]} : Language UInt8) = 1 := rfl
    rw [nothing, mul_one]
    exact marking
  | cons byte word ih =>
    have later := ih (marking.advance (· == byte))
    rw [oneByte_beq, mul_assoc, singleton_mul_singleton] at later
    exact later

theorem Marking.advanceSlash (marking : Marking text marks reached) :
    Marking text (advanceSlash text marks) (reached * {[slash]}) := by
  have later := marking.advance (· == slash)
  rwa [oneByte_beq] at later

theorem Marking.advanceRunSlash (marking : Marking text marks reached) :
    Marking text (advanceRunSlash text marks) (reached * (⊤ * {[slash]})) := by
  have later := marking.spread.advanceSlash
  rwa [mul_assoc] at later

/-! ### Parts -/

mutual

/-- **The marks after a part** are those of what its language can follow. -/
theorem marking_after {marks : Marks} {reached : Language UInt8}
    (marking : Marking text marks reached) (part : Part) :
    Marking text (part.after text marks) (reached * part.language) := by
  cases part with
  | literal character => exact marking.advanceBytes _
  | anyByte => exact marking.advance _
  | run => exact marking.spread
  | leading =>
    rw [Part.language, mul_add, mul_one]
    exact marking.joined marking.advanceRunSlash
  | trailing =>
    rw [Part.language, ← mul_assoc]
    exact marking.advanceSlash.spread
  | between =>
    rw [Part.language, mul_add, ← mul_assoc]
    exact marking.advanceSlash.joined marking.advanceSlash.advanceRunSlash
  | oneOf negated entries => exact marking.advance _
  | alternatives branches =>
    rw [Part.language, Part.after]
    split
    · rw [mul_one]
      exact marking
    · exact marking_afterAny marking branches

/-- **The marks after a sequence.** -/
theorem marking_afterAll {marks : Marks} {reached : Language UInt8}
    (marking : Marking text marks reached) (parts : List Part) :
    Marking text (afterAll text parts marks) (reached * language parts) := by
  cases parts with
  | nil =>
    rw [language, mul_one]
    exact marking
  | cons part parts =>
    rw [language, ← mul_assoc]
    exact marking_afterAll (marking_after marking part) parts

/-- **The marks after one of some branches.** -/
theorem marking_afterAny {marks : Marks} {reached : Language UInt8}
    (marking : Marking text marks reached) (branches : List (List Part)) :
    Marking text (afterAny text branches marks) (reached * anyLanguage branches) := by
  cases branches with
  | nil =>
    rw [anyLanguage, mul_zero]
    exact marking.unmarked
  | cons branch branches =>
    rw [anyLanguage, afterAny]
    split
    · exact marking_afterAny marking branches
    · rw [mul_add]
      exact (marking_afterAll marking branch).joined (marking_afterAny marking branches)

end

/-- **A sequence takes a text** exactly if the text belongs to its language, or the sequence is a
double star alone. -/
theorem isMatch_iff (parts : List Part) (text : Bytes) :
    isMatch parts text = true ↔ parts = [.leading] ∨ text ∈ language parts := by
  unfold isMatch
  split
  · simp
  next other =>
    have marking := marking_afterAll (marking_start text) parts
    rw [one_mul] at marking
    have last := marking.marked text (List.prefix_refl text)
    rw [List.getLast?_eq_getElem?, marking.places, Nat.add_sub_cancel]
    rw [← last, or_iff_right other]
    cases (afterAll text parts (start text))[text.length]? <;> simp

end DesignRules.Glob
