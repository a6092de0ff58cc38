/-
**Records are decoded as they are written.**

A record that is written with its own fields, in their order, gives each of them its value; lists,
optional values and alternatives are told in the same way.

* `fields?_record`: the values of the fields of a record.
* `mapM_map_eq_some`, `mapFrom?_map`, `nullable?_orNull`: lists and values that may be absent.
* `toFloat?_ofFloat`, `toNatUpTo?_ofNat`: numbers.
* `writable_array_map`: arrays of values that can be written.
-/

import DesignRules.Design.Codec
import DesignRules.Proofs.Json.RoundTrip

namespace DesignRules.Json

variable {α : Type}

/-! ### Fields -/

theorem mapM_named?_record (members : List (String × Json)) :
    (members.map fun member => ((some member.1, member.2) : Content × Json)).mapM named? =
      some members := by
  induction members with
  | nil => rfl
  | cons member members ih =>
    rw [List.map_cons, List.mapM_cons, ih]
    rfl

/-- A name that occurs once has the value of its member. -/
theorem valuesOf_of_mem {members : List (String × Json)}
    (distinct : (members.map Prod.fst).Nodup) {member : String × Json} (listed : member ∈ members) :
    valuesOf members member.1 = [member.2] := by
  induction members with
  | nil => exact absurd listed List.not_mem_nil
  | cons first others ih =>
    obtain ⟨unique, distinct⟩ := List.nodup_cons.mp distinct
    rcases List.mem_cons.mp listed with rfl | later
    · have rest : valuesOf others member.1 = [] := by
        refine List.filterMap_eq_nil_iff.mpr fun other there => if_neg fun same => unique ?_
        rw [← same]
        exact List.mem_map_of_mem there
      rw [valuesOf, List.filterMap_cons, if_pos rfl]
      exact congrArg _ rest
    · have differs : first.1 ≠ member.1 := fun same => unique (same ▸ List.mem_map_of_mem later)
      rw [valuesOf, List.filterMap_cons, if_neg differs]
      exact ih distinct later

theorem mapM_eq_some_of_forall {β : Type} {read : α → Option β} {result : α → β} {inputs : List α}
    (reads : ∀ input ∈ inputs, read input = some (result input)) :
    inputs.mapM read = some (inputs.map result) := by
  induction inputs with
  | nil => rfl
  | cons input inputs ih =>
    obtain ⟨here, others⟩ := List.forall_mem_cons.mp reads
    rw [List.mapM_cons, here, ih others]
    rfl

/-- **The fields of a record** that is written with them, in their order. -/
theorem fields?_record {names : List String} {members : List (String × Json)}
    (named : members.map Prod.fst = names) (distinct : names.Nodup) :
    fields? names (.record members) = some (members.map fun member => .value member.2) := by
  subst named
  have given : ∀ member ∈ members, givenMember? members member.1 = some (.value member.2) := by
    intro member listed
    rw [givenMember?, valuesOf_of_mem distinct listed]
  have read := mapM_eq_some_of_forall given
  rw [record, fields?, mapM_named?_record]
  show (members.map Prod.fst).mapM (givenMember? members) = _
  rw [← read, List.mapM_map]
  rfl

/-! ### Values -/

theorem toText?_text (text : String) : (Json.text text).toText? = some text := rfl

/-- A value that is not `null` is read as a present one, and no value as an absent one. -/
theorem nullable?_orNull {read : Json → Option α} {write : α → Json} (value? : Option α)
    (reads : ∀ value, value? = some value → read (write value) = some value)
    (visible : ∀ value, write value ≠ .null) :
    nullable? read (orNull write value?) = some value? := by
  cases value? with
  | none => rfl
  | some value =>
    have shown := visible value
    have found := reads value rfl
    rw [orNull]
    unfold nullable?
    split
    · rename_i hidden
      exact absurd hidden shown
    · rw [found]
      rfl

theorem mapM_map_eq_some {β : Type} {read : β → Option α} {write : α → β} {values : List α}
    (reads : ∀ value ∈ values, read (write value) = some value) :
    (values.map write).mapM read = some values := by
  have all : values.mapM (fun value => read (write value)) = some (values.map id) :=
    mapM_eq_some_of_forall reads
  rw [List.map_id] at all
  rw [List.mapM_map]
  exact all

theorem toList?_array {read : Json → Option α} {write : α → Json} {values : List α}
    (reads : ∀ value ∈ values, read (write value) = some value) :
    toList? read (.array (values.map write)) = some values := mapM_map_eq_some reads

theorem mapFrom?_map {read : Nat → Json → Option α} {write : α → Json} {values : List α}
    (reads : ∀ value ∈ values, ∀ position, read position (write value) = some value)
    (position : Nat) : mapFrom? read position (values.map write) = some values := by
  induction values generalizing position with
  | nil => rfl
  | cons value values ih =>
    obtain ⟨here, others⟩ := List.forall_mem_cons.mp reads
    rw [List.map_cons, mapFrom?, here position, ih others (position + 1)]
    rfl

theorem toNatUpTo?_ofNat {n largest : Nat} (bounded : n ≤ largest) :
    (ofNat n).toNatUpTo? largest = some n := Number.toNatUpTo?_ofNat bounded

/-- An array of written values. -/
theorem writable_array_map {write : α → Json} {values : List α}
    (writable : ∀ value ∈ values, (write value).Writable) :
    (Json.array (values.map write)).Writable := by
  refine .array fun json listed => ?_
  obtain ⟨value, member, rfl⟩ := List.mem_map.mp listed
  exact writable value member

theorem writable_ofNat (n : Nat) : Writable (ofNat n) := .number (Number.wellFormed_ofNat n)

/-! ### Machine numbers -/

/-- Whether the text of a number reads back as the number. -/
def ReadsBack (x : Float) : Prop := (Number.ofFloat? x).bind Number.toFloat? = some x

instance (x : Float) : Decidable (ReadsBack x) :=
  inferInstanceAs (Decidable ((Number.ofFloat? x).bind Number.toFloat? = some x))

theorem toFloat?_ofFloat {x : Float} (back : ReadsBack x) : (ofFloat x).toFloat? = some x := by
  obtain ⟨literal, written, read⟩ := Option.bind_eq_some_iff.mp back
  rw [ofFloat, written]
  exact read

theorem writable_ofFloat (x : Float) : Writable (ofFloat x) := by
  rw [ofFloat]
  cases written : Number.ofFloat? x with
  | none => exact .null
  | some literal => exact .number (Number.wellFormed_ofFloat? written)

end DesignRules.Json
