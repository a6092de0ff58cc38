/-
**A name fits its masks.**

A mask of a name has wildcards in the place of some parts of it. While the mask is read, the parts
read so far take the bytes of the name up to the same point. A double star next to a slash is a part
of its own, which takes the place of the slash before it; so the last part is kept in mind where a
slash was read last.

* `EndsInSlash`, `Draft.Holds`: what has been read of a mask takes what it stands for.
* `StarsTake`, `starsTake_stars`: one star or two.
* `exists_parts_of_masks`: a mask without brackets, braces and backslashes is a glob that takes the
  name.
* `isMatch_of_masks`: the mask matches the name.
-/

import DesignRules.Proofs.Glob.Plain

namespace DesignRules.Glob

open Text (utf8 utf8_append utf8_cons)

/-! ### What has been read -/

/-- Whether the last part of a reversed sequence is one that a slash at its end left behind. -/
def EndsInSlash (sequence : List Part) : Prop :=
  sequence = [.leading] ∨
    ∃ last others, sequence = last :: others ∧ (last = .literal '/' ∨ last = .between)

/-- Whether what has been read, outside of alternations, takes some bytes. -/
structure Draft.Holds (draft : Draft) (previous : Option Char) (taken : Bytes) : Prop where
  outside : draft.levels = []
  takes : taken ∈ language draft.sequence.reverse
  ends : previous = some '/' → EndsInSlash draft.sequence

theorem mem_language_push {sequence : List Part} {part : Part} {bytes : Bytes} :
    bytes ∈ language (part :: sequence).reverse ↔
      ∃ first ∈ language sequence.reverse, ∃ last ∈ part.language, first ++ last = bytes := by
  rw [List.reverse_cons, language_append, Language.mem_mul, language, language, mul_one]

/-- What ends in a slash at the place of which a double star is read begins with a slash. -/
theorem exists_slash_cons {last : Part} {bytes : Bytes}
    (ends : last = .literal '/' ∨ last = .between) (takes : bytes ∈ last.language) :
    ∃ more, bytes = slash :: more := by
  rcases ends with rfl | rfl
  · exact ⟨[], mem_singleton.mp takes⟩
  · rcases (Language.mem_add _ _ _).mp takes with alone | between
    · exact ⟨[], mem_singleton.mp alone⟩
    · obtain ⟨first, here, more, -, rfl⟩ := Language.mem_mul.mp between
      obtain rfl := mem_singleton.mp here
      exact ⟨more, rfl⟩

section Reading

variable {draft : Draft} {previous : Option Char} {taken bytes : Bytes}

namespace Draft.Holds

/-- One more part, which a character other than a slash or a slash itself stands for. -/
theorem push (holds : draft.Holds previous taken) {part : Part} {c : Char}
    (takes : bytes ∈ part.language) (slash : c ≠ '/' ∨ part = .literal '/') :
    (draft.push part).Holds (some c) (taken ++ bytes) := by
  refine ⟨holds.outside, mem_language_push.mpr ⟨taken, holds.takes, bytes, takes, rfl⟩, ?_⟩
  intro same
  have literal : part = .literal '/' := slash.resolve_left fun other => other (Option.some.inj same)
  exact .inr ⟨part, draft.sequence, rfl, .inl literal⟩

theorem run (holds : draft.Holds previous taken) (bytes : Bytes) :
    (draft.push .run).Holds (some '*') (taken ++ bytes) :=
  holds.push trivial (.inl (by decide))

/-- Two runs, of which the first takes everything. -/
theorem pushRuns (holds : draft.Holds previous taken) (bytes : Bytes) :
    draft.pushRuns.Holds (some '*') (taken ++ bytes) := by
  have runs := (holds.run bytes).run []
  rwa [List.append_nil] at runs

/-- **A double star at the start before a slash** takes all up to the slash. -/
theorem leading (holds : draft.Holds previous taken) (first : draft.sequence = [])
    (bytes : Bytes) :
    (draft.push .leading).Holds (some '/') (taken ++ bytes ++ [slash]) := by
  refine ⟨holds.outside, ?_, fun _ => .inl (congrArg (Part.leading :: ·) first)⟩
  refine mem_language_push.mpr ⟨taken, holds.takes, bytes ++ [slash], .inr ?_, ?_⟩
  · exact Language.mem_mul.mpr ⟨bytes, trivial, [slash], rfl, rfl⟩
  · rw [List.append_assoc]

/-- **A double star after a slash at the end** of a pattern takes what follows the slash; after a
double star at the start it adds nothing. -/
theorem trailing (holds : draft.Holds previous taken) (ends : EndsInSlash draft.sequence)
    (bytes : Bytes) :
    draft.replaceLast .trailing = ⟨[.leading], []⟩ ∨
      (draft.replaceLast .trailing).Holds (some '*') (taken ++ bytes) := by
  obtain ⟨sequence, levels⟩ := draft
  have takes := holds.takes
  obtain rfl : levels = [] := holds.outside
  rcases ends with rfl | ⟨last, others, rfl, ends⟩
  · exact .inl rfl
  · obtain ⟨first, before, piece, here, rfl⟩ := mem_language_push.mp takes
    obtain ⟨more, rfl⟩ := exists_slash_cons ends here
    have replaced : Draft.replaceLast ⟨last :: others, []⟩ .trailing =
        ⟨.trailing :: others, []⟩ := by
      rcases ends with rfl | rfl <;> rfl
    rw [replaced]
    refine .inr ⟨holds.outside, ?_, fun same => absurd same (by decide)⟩
    refine mem_language_push.mpr ⟨first, before, slash :: (more ++ bytes), ?_, by simp⟩
    exact Language.mem_mul.mpr ⟨[slash], rfl, more ++ bytes, trivial, rfl⟩

/-- **A double star between slashes** takes the first of them and all up to the second. -/
theorem between (holds : draft.Holds previous taken) (ends : EndsInSlash draft.sequence)
    (bytes : Bytes) :
    (draft.replaceLast .between).Holds (some '/') (taken ++ bytes ++ [slash]) := by
  obtain ⟨sequence, levels⟩ := draft
  have takes := holds.takes
  rcases ends with rfl | ⟨last, others, rfl, ends⟩
  · refine ⟨holds.outside, ?_, fun _ => .inl rfl⟩
    refine mem_language_push.mpr ⟨[], rfl, taken ++ bytes ++ [slash], .inr ?_, rfl⟩
    exact Language.mem_mul.mpr ⟨taken ++ bytes, trivial, [slash], rfl, rfl⟩
  · obtain ⟨first, before, piece, here, rfl⟩ := mem_language_push.mp takes
    obtain ⟨more, rfl⟩ := exists_slash_cons ends here
    have replaced : Draft.replaceLast ⟨last :: others, levels⟩ .between =
        ⟨.between :: others, levels⟩ := by
      rcases ends with rfl | rfl <;> rfl
    rw [replaced]
    refine ⟨holds.outside, ?_, fun _ => .inr ⟨_, _, rfl, .inr rfl⟩⟩
    refine mem_language_push.mpr
      ⟨first, before, slash :: (more ++ bytes ++ [slash]), .inr ?_, by simp⟩
    refine Language.mem_mul.mpr ⟨[slash], rfl, more ++ bytes ++ [slash], ?_, rfl⟩
    exact Language.mem_mul.mpr ⟨more ++ bytes, trivial, [slash], rfl, rfl⟩

end Draft.Holds

end Reading

/-! ### Masks -/

section Masks

variable {replaceable : Char → Prop} {pattern name : List Char}

theorem Masks.of_nil (masks : Masks replaceable [] name) : name = [] := by
  cases masks
  rfl

theorem Masks.of_star (masks : Masks replaceable ('*' :: pattern) name) :
    ∃ piece later, name = piece ++ later ∧ Masks replaceable pattern later := by
  cases masks with
  | @keep _ _ later masks => exact ⟨['*'], later, rfl, masks⟩
  | @part _ piece later masks => exact ⟨piece, later, rfl, masks⟩

theorem Masks.of_question (masks : Masks replaceable ('?' :: pattern) name) :
    ∃ c later, name = c :: later ∧ (c = '?' ∨ replaceable c) ∧ Masks replaceable pattern later := by
  cases masks with
  | @keep _ _ later masks => exact ⟨'?', later, rfl, .inl rfl, masks⟩
  | @one c _ later suits masks => exact ⟨c, later, rfl, .inr suits, masks⟩

theorem Masks.of_other {c : Char} (star : c ≠ '*') (question : c ≠ '?')
    (masks : Masks replaceable (c :: pattern) name) :
    ∃ later, name = c :: later ∧ Masks replaceable pattern later := by
  cases masks with
  | @keep _ _ later masks => exact ⟨later, rfl, masks⟩
  | one => exact absurd rfl question
  | part => exact absurd rfl star

/-- What the reader makes of one star or two: a double star alone, or parts that take what the stars
stand for and the slash that is read with them. -/
def StarsTake (replaceable : Char → Prop) (pattern name : List Char) (taken : Bytes)
    (result : Draft × Option Char × List Char) : Prop :=
  result.2.2 <:+ pattern ∧
    (result.2.2 = [] ∧ result.1 = ⟨[.leading], []⟩ ∨
      ∃ eaten later, name = eaten ++ later ∧ Masks replaceable result.2.2 later ∧
        result.1.Holds result.2.1 (taken ++ utf8 eaten))

theorem utf8_slash : utf8 ['/'] = [slash] := by decide

section Stars

variable {draft : Draft} {previous : Option Char} {taken : Bytes} {piece later : List Char}

/-- Two stars that are two runs. -/
theorem starsTake_pushRuns (holds : draft.Holds previous taken)
    (masks : Masks replaceable pattern later) :
    StarsTake replaceable ('*' :: pattern) (piece ++ later) taken
      (draft.pushRuns, some '*', pattern) :=
  ⟨List.suffix_cons _ _, .inr ⟨piece, later, rfl, masks, holds.pushRuns (utf8 piece)⟩⟩

/-- Two stars and the slash after them. -/
theorem starsTake_slash {next : Draft}
    (holds : next.Holds (some '/') (taken ++ utf8 piece ++ [slash]))
    (masks : Masks replaceable ('/' :: pattern) later) :
    StarsTake replaceable ('*' :: '/' :: pattern) (piece ++ later) taken
      (next, some '/', pattern) := by
  obtain ⟨rest, rfl, others⟩ := masks.of_other (by decide) (by decide)
  refine ⟨⟨['*', '/'], rfl⟩, .inr ⟨piece ++ ['/'], rest, by simp, others, ?_⟩⟩
  rw [utf8_append, utf8_slash, ← List.append_assoc]
  exact holds

theorem starsTake_firstStars (holds : draft.Holds previous taken) (start : draft.sequence = [])
    (masks : Masks replaceable pattern later) :
    StarsTake replaceable ('*' :: pattern) (piece ++ later) taken (draft.firstStars pattern) := by
  obtain ⟨sequence, levels⟩ := draft
  obtain rfl : levels = [] := holds.outside
  obtain rfl : sequence = [] := start
  unfold Draft.firstStars
  split
  · exact ⟨List.suffix_cons _ _, .inl ⟨rfl, rfl⟩⟩
  · exact starsTake_slash (holds.leading rfl (utf8 piece)) masks
  · exact starsTake_pushRuns holds masks

theorem starsTake_laterStars (holds : draft.Holds previous taken)
    (ends : EndsInSlash draft.sequence) (masks : Masks replaceable pattern later) :
    StarsTake replaceable ('*' :: pattern) (piece ++ later) taken (draft.laterStars pattern) := by
  unfold Draft.laterStars
  split
  · obtain rfl := masks.of_nil
    refine ⟨List.suffix_cons _ _, ?_⟩
    rcases holds.trailing ends (utf8 piece) with alone | trailing
    · exact .inl ⟨rfl, alone⟩
    · exact .inr ⟨piece, [], rfl, .nothing, trailing⟩
  next c rest =>
    rw [if_neg (by simp [holds.outside])]
    by_cases slash : c = '/'
    · subst slash
      rw [if_pos rfl]
      exact starsTake_slash (holds.between ends (utf8 piece)) masks
    · rw [if_neg slash]
      exact starsTake_pushRuns holds masks

theorem stars_cons (draft : Draft) (previous : Option Char) (pattern : List Char) :
    draft.stars previous ('*' :: pattern) =
      if draft.sequence.isEmpty then draft.firstStars pattern
      else if previous = some '/' ∨
          (draft.levels ≠ [] ∧ (previous = some ',' ∨ previous = some '\x7b')) then
        draft.laterStars pattern
      else (draft.pushRuns, some '*', pattern) := rfl

/-- **One star or two** take what they stand for. -/
theorem starsTake_stars (holds : draft.Holds previous taken) (piece : List Char)
    (masks : Masks replaceable pattern later) :
    StarsTake replaceable pattern (piece ++ later) taken (draft.stars previous pattern) := by
  by_cases double : pattern.head? = some '*'
  · obtain ⟨pattern, rfl⟩ := List.head?_eq_some_iff.mp double
    obtain ⟨more, later, rfl, others⟩ := masks.of_star
    rw [← List.append_assoc, stars_cons]
    by_cases start : draft.sequence = []
    · rw [if_pos (List.isEmpty_iff.mpr start)]
      exact starsTake_firstStars holds start others
    · rw [if_neg fun empty => start (List.isEmpty_iff.mp empty)]
      by_cases slash : previous = some '/'
      · rw [if_pos (.inl slash)]
        exact starsTake_laterStars holds (holds.ends slash) others
      · rw [if_neg (by simp [slash, holds.outside])]
        exact starsTake_pushRuns holds others
  · rw [stars_single double]
    exact ⟨List.suffix_rfl, .inr ⟨piece, later, rfl, masks, holds.run (utf8 piece)⟩⟩

end Stars

/-! ### Reading a mask -/

/-- A character of one byte is any byte. -/
theorem utf8EncodeChar_mem_anyByte {c : Char} (narrow : c.utf8Size = 1) :
    String.utf8EncodeChar c ∈ Part.anyByte.language := by
  obtain ⟨byte, alone⟩ := List.length_eq_one_iff.mp ((String.length_utf8EncodeChar c).trans narrow)
  exact ⟨byte, rfl, alone⟩

/-- The end of a pattern, whatever number of steps is left. -/
theorem continue?_nil (limit : Nat) {sequence : List Part} {previous : Option Char} :
    continue? limit ⟨sequence, []⟩ previous [] = some sequence.reverse := by
  cases limit <;> rfl

/-- **A mask without brackets, braces and backslashes** is a glob that takes the name. -/
theorem exists_parts_of_masks {limit : Nat} {draft : Draft} {previous : Option Char}
    {taken : Bytes} (masks : Masks (fun c => c.utf8Size = 1) pattern name)
    (bare : ∀ c ∈ pattern, isBare c = true) (enough : pattern.length ≤ limit)
    (holds : draft.Holds previous taken) :
    ∃ parts, continue? limit draft previous pattern = some parts ∧
      (parts = [.leading] ∨ taken ++ utf8 name ∈ language parts) := by
  obtain ⟨sequence, levels⟩ := draft
  obtain rfl : levels = [] := holds.outside
  induction limit generalizing sequence previous taken pattern name with
  | zero =>
    obtain rfl : pattern = [] := List.length_eq_zero_iff.mp (Nat.le_zero.mp enough)
    obtain rfl := masks.of_nil
    refine ⟨sequence.reverse, continue?_nil 0, .inr ?_⟩
    rw [Text.utf8_nil, List.append_nil]
    exact holds.takes
  | succ limit ih =>
    cases pattern with
    | nil =>
      obtain rfl := masks.of_nil
      refine ⟨sequence.reverse, continue?_nil _, .inr ?_⟩
      rw [Text.utf8_nil, List.append_nil]
      exact holds.takes
    | cons c pattern =>
      obtain ⟨first, rest⟩ := List.forall_mem_cons.mp bare
      have shorter : pattern.length ≤ limit := Nat.le_of_succ_le_succ enough
      by_cases question : c = '?'
      · subst question
        obtain ⟨letter, later, rfl, narrow, others⟩ := masks.of_question
        have one : letter.utf8Size = 1 := by
          rcases narrow with rfl | narrow
          · decide
          · exact narrow
        have further :=
          holds.push (c := '?') (utf8EncodeChar_mem_anyByte one) (.inl (by decide))
        rw [continue?_question, utf8_cons, ← List.append_assoc]
        exact ih others rest shorter _ further
      by_cases star : c = '*'
      · subst star
        obtain ⟨piece, later, rfl, others⟩ := masks.of_star
        rw [continue?_star]
        obtain ⟨within, ending⟩ := starsTake_stars holds piece others
        generalize Draft.stars ⟨sequence, []⟩ previous pattern = result at within ending
        obtain ⟨⟨sequence, levels⟩, last, remaining⟩ := result
        dsimp only at within ending
        rcases ending with ⟨rfl, alone⟩ | ⟨eaten, after, same, masks, further⟩
        · obtain ⟨rfl, rfl⟩ := Draft.mk.inj alone
          exact ⟨[.leading], continue?_nil _, .inl rfl⟩
        · obtain rfl : levels = [] := further.outside
          have suits : ∀ c ∈ remaining, isBare c = true :=
            fun c member => rest c (within.subset member)
          have short : remaining.length ≤ limit := within.length_le.trans shorter
          rw [same, utf8_append, ← List.append_assoc]
          exact ih masks suits short _ further
      · obtain ⟨later, rfl, others⟩ := masks.of_other star question
        rw [continue?_bare first star question, utf8_cons, ← List.append_assoc]
        refine ih others rest shorter _ (holds.push (mem_singleton.mpr rfl) ?_)
        by_cases slash : c = '/'
        · exact .inr (by rw [slash])
        · exact .inl slash

/-- What a mask is made of. -/
theorem Masks.mem (masks : Masks replaceable pattern name) {c : Char} (member : c ∈ pattern) :
    c = '*' ∨ c = '?' ∨ c ∈ name := by
  induction masks with
  | nothing => cases member
  | @keep d pattern name _ ih =>
    rcases List.mem_cons.mp member with rfl | member
    · exact .inr (.inr List.mem_cons_self)
    · exact (ih member).imp_right (·.imp_right (List.mem_cons_of_mem _))
  | @one d pattern name _ _ ih =>
    rcases List.mem_cons.mp member with rfl | member
    · exact .inr (.inl rfl)
    · exact (ih member).imp_right (·.imp_right (List.mem_cons_of_mem _))
  | @part pattern piece name _ ih =>
    rcases List.mem_cons.mp member with rfl | member
    · exact .inl rfl
    · exact (ih member).imp_right (·.imp_right (List.mem_append_right _))

/-- A mask without wildcards is the name itself. -/
theorem Masks.eq_of_tame (masks : Masks replaceable pattern name)
    (tame : ∀ c ∈ pattern, c ≠ '*' ∧ c ≠ '?') : pattern = name := by
  induction masks with
  | nothing => rfl
  | keep _ ih => rw [ih (List.forall_mem_cons.mp tame).2]
  | one => exact absurd rfl (List.forall_mem_cons.mp tame).1.2
  | part => exact absurd rfl (List.forall_mem_cons.mp tame).1.1

end Masks

end DesignRules.Glob

namespace DesignRules.Pattern

/-- **A mask** without brackets, braces and backslashes **matches the name**. -/
theorem isMatch_of_masks {mask name : String}
    (masks : Glob.Masks (fun c => c.utf8Size = 1) mask.toList name.toList)
    (bare : ∀ c ∈ mask.toList, Glob.isBare c = true) :
    (⟨mask⟩ : Pattern).isMatch name = true := by
  cases wild : hasWildcard mask with
  | true =>
    have start : (⟨[], []⟩ : Glob.Draft).Holds none [] := ⟨rfl, rfl, nofun⟩
    obtain ⟨parts, read, takes⟩ := Glob.exists_parts_of_masks masks bare (Nat.le_refl _) start
    have glob : Pattern.glob? ⟨mask⟩ = some parts := (if_pos wild).trans read
    rw [isMatch, glob]
    exact (Glob.isMatch_iff _ _).mpr takes
  | false =>
    have tame : ∀ c ∈ mask.toList, c ≠ '*' ∧ c ≠ '?' := by
      simpa [hasWildcard] using wild
    exact (isMatch_iff_eq wild name).mpr (String.toList_inj.mp (masks.eq_of_tame tame)).symm

end DesignRules.Pattern
