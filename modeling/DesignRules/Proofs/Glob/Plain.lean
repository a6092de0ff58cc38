/-
**Plain wildcards match exactly.**

A plain pattern is read character by character: a star is a run, a question mark is one byte, and
every other character stands for its own bytes. The one exception is a double star alone, which
takes every text anyway.

* `partOf`: the part that a character of a plain pattern stands for.
* `continue?_of_plain`: the reader gives these parts.
* `mem_language_iff_takes`: the language of these parts.
* `plain_wildcards_match_exactly`: which texts a pattern without further syntax matches.
-/

import DesignRules.Glob.Wildcard
import DesignRules.Pattern
import DesignRules.Proofs.Glob.Language

namespace DesignRules.Glob

/-! ### Reading -/

/-- The part that a character of a plain pattern stands for. -/
def partOf (c : Char) : Part :=
  if c = '*' then .run else if c = '?' then .anyByte else .literal c

/-- Whether a character starts neither a class nor an alternation nor an escape, nor ends one. -/
def isBare (c : Char) : Bool := c != '[' && c != '\x7b' && c != '\x7d' && c != '\\'

theorem isPlain_iff {pattern : List Char} :
    isPlain pattern = true ↔ ∀ c ∈ pattern, isBare c = true ∧ c ≠ '/' := by
  simp [isPlain, isBare]

theorem isPlain_cons {c : Char} {pattern : List Char} :
    isPlain (c :: pattern) = true ↔ (isBare c = true ∧ c ≠ '/') ∧ isPlain pattern = true := by
  rw [isPlain_iff, isPlain_iff, List.forall_mem_cons]

section Steps

variable {limit : Nat} {draft : Draft} {sequence : List Part} {previous : Option Char}
  {pattern : List Char}

theorem continue?_question :
    continue? (limit + 1) draft previous ('?' :: pattern) =
      continue? limit (draft.push .anyByte) (some '?') pattern := rfl

theorem continue?_star :
    continue? (limit + 1) draft previous ('*' :: pattern) =
      continue? limit (draft.stars previous pattern).1 (draft.stars previous pattern).2.1
        (draft.stars previous pattern).2.2 := rfl

/-- Outside of alternations every other bare character stands for itself, a comma too. -/
theorem continue?_bare {c : Char} (bare : isBare c = true) (star : c ≠ '*') (question : c ≠ '?') :
    continue? (limit + 1) ⟨sequence, []⟩ previous (c :: pattern) =
      continue? limit ⟨.literal c :: sequence, []⟩ (some c) pattern := by
  simp only [isBare, Bool.and_eq_true, bne_iff_ne] at bare
  obtain ⟨⟨⟨bracket, opening⟩, closing⟩, escape⟩ := bare
  conv_lhs => unfold continue?
  rw [if_neg question, if_neg star, if_neg bracket, if_neg opening, if_neg closing]
  by_cases comma : c = ','
  · subst comma
    rfl
  · rw [if_neg comma, if_neg escape]
    rfl

end Steps

/-- A star that no other one follows is a run. -/
theorem stars_single {draft : Draft} {previous : Option Char} {pattern : List Char}
    (alone : pattern.head? ≠ some '*') :
    draft.stars previous pattern = (draft.push .run, some '*', pattern) := by
  cases pattern with
  | nil => rfl
  | cons c pattern =>
    have other : c ≠ '*' := by simpa using alone
    unfold Draft.stars
    split
    next same => exact absurd (List.cons.inj same).1 other
    next => rfl

/-- **Two stars** apart from slashes are two runs, unless they are the whole pattern. -/
theorem stars_double {sequence : List Part} {previous : Option Char} {pattern : List Char}
    (apart : previous ≠ some '/') (plain : isPlain pattern = true)
    (other : sequence = [] → pattern ≠ []) :
    Draft.stars ⟨sequence, []⟩ previous ('*' :: pattern) =
      (⟨.run :: .run :: sequence, []⟩, some '*', pattern) := by
  unfold Draft.stars
  cases sequence with
  | nil =>
    cases pattern with
    | nil => exact absurd rfl (other rfl)
    | cons c pattern =>
      have noSlash : c ≠ '/' := (isPlain_cons.mp plain).1.2
      simp only [List.isEmpty_nil, if_true]
      unfold Draft.firstStars
      split
      next none => cases none
      next same => exact absurd (List.cons.inj same).1 noSlash
      next => rfl
  | cons part sequence => simp [apart, Draft.pushRuns, Draft.push]

/-- **A plain pattern** has one part for each of its characters. -/
theorem continue?_of_plain {limit : Nat} {sequence : List Part} {previous : Option Char}
    {pattern : List Char} (plain : isPlain pattern = true) (apart : previous ≠ some '/')
    (enough : pattern.length ≤ limit) (other : sequence = [] → pattern ≠ ['*', '*']) :
    continue? limit ⟨sequence, []⟩ previous pattern =
      some (sequence.reverse ++ pattern.map partOf) := by
  induction limit generalizing sequence previous pattern with
  | zero =>
    obtain rfl : pattern = [] := List.length_eq_zero_iff.mp (Nat.le_zero.mp enough)
    simp [continue?]
  | succ limit ih =>
    cases pattern with
    | nil => simp [continue?]
    | cons c pattern =>
      obtain ⟨⟨bare, slash⟩, plain⟩ := isPlain_cons.mp plain
      have enough : pattern.length ≤ limit := Nat.le_of_succ_le_succ enough
      -- one character that becomes one part
      have one {part : Part} (same : part = partOf c) :
          continue? limit ⟨part :: sequence, []⟩ (some c) pattern =
            some (sequence.reverse ++ (c :: pattern).map partOf) := by
        have apart : some c ≠ some '/' := by simpa using slash
        rw [ih plain apart enough (by simp), same]
        simp
      by_cases question : c = '?'
      · subst question
        rw [continue?_question]
        exact one rfl
      by_cases star : c = '*'
      · subst star
        rw [continue?_star]
        by_cases double : pattern.head? = some '*'
        · obtain ⟨rest, rfl⟩ := List.head?_eq_some_iff.mp double
          have plain : isPlain rest = true := (isPlain_cons.mp plain).2
          have short : rest.length ≤ limit := by
            simp only [List.length_cons] at enough
            omega
          have longer : sequence = [] → rest ≠ [] := by
            rintro none rfl
            exact other none rfl
          rw [stars_double apart plain longer, ih plain (by simp) short (by simp)]
          simp [partOf]
        · rw [stars_single double]
          exact one rfl
      · rw [continue?_bare bare star question]
        exact one (by rw [partOf, if_neg star, if_neg question])

/-! ### Languages -/

theorem language_append (first second : List Part) :
    language (first ++ second) = language first * language second := by
  induction first with
  | nil => rw [List.nil_append, language, one_mul]
  | cons part first ih => rw [List.cons_append, language, ih, language, mul_assoc]

/-- Two runs are one. -/
theorem top_mul_top : (⊤ * ⊤ : Language UInt8) = ⊤ := by
  refine top_unique fun bytes _ => ?_
  exact Language.mem_mul.mpr ⟨[], trivial, bytes, trivial, rfl⟩

/-- The parts of a plain pattern are no double star alone. -/
theorem map_partOf_ne_leading {pattern : List Char} : pattern.map partOf ≠ [.leading] := by
  intro alone
  obtain ⟨c, -, same⟩ := List.mem_map.mp (alone ▸ List.mem_singleton_self Part.leading)
  unfold partOf at same
  split_ifs at same

/-- **What the parts of a plain pattern take** is what the pattern takes. -/
theorem mem_language_iff_takes {pattern : List Char} {bytes : Bytes} :
    bytes ∈ language (pattern.map partOf) ↔ Takes pattern bytes := by
  induction pattern generalizing bytes with
  | nil =>
    rw [List.map_nil, language, Language.mem_one]
    constructor
    · rintro rfl
      exact .nothing
    · intro takes
      cases takes
      rfl
  | cons c pattern ih =>
    rw [List.map_cons, language, Language.mem_mul]
    simp only [ih]
    constructor
    · rintro ⟨first, member, rest, takes, rfl⟩
      by_cases star : c = '*'
      · subst star
        exact .run takes
      by_cases question : c = '?'
      · subst question
        obtain ⟨byte, -, rfl⟩ := member
        exact .anyByte takes
      · rw [partOf, if_neg star, if_neg question] at member
        obtain rfl := mem_singleton.mp member
        exact .literal star question takes
    · intro takes
      cases takes with
      | @anyByte _ byte rest takes => exact ⟨[byte], ⟨byte, rfl, rfl⟩, rest, takes, rfl⟩
      | @run _ piece rest takes => exact ⟨piece, trivial, rest, takes, rfl⟩
      | @literal _ _ rest star question takes =>
        rw [partOf, if_neg star, if_neg question]
        exact ⟨_, mem_singleton.mpr rfl, rest, takes, rfl⟩

/-- **Two stars are one** wherever they stand in a plain pattern. -/
theorem takes_double_star (before after : List Char) {bytes : Bytes} :
    Takes (before ++ '*' :: '*' :: after) bytes ↔ Takes (before ++ '*' :: after) bytes := by
  have run : partOf '*' = .run := rfl
  rw [← mem_language_iff_takes, ← mem_language_iff_takes, List.map_append, List.map_append,
    language_append, language_append]
  simp only [List.map_cons, run, language, Part.language]
  rw [← mul_assoc ⊤ ⊤, top_mul_top]

/-- A double star takes every text. -/
theorem takes_stars (bytes : Bytes) : Takes ['*', '*'] bytes := by
  have whole : Takes ['*'] (bytes ++ []) := .run .nothing
  rw [List.append_nil] at whole
  exact (takes_double_star [] []).mpr whole

end DesignRules.Glob

namespace DesignRules.Pattern

open Glob (Takes isPlain)

/-- **A plain pattern with wildcards** matches the texts that it takes. -/
theorem isMatch_iff_takes (pattern : Pattern) (wild : hasWildcard pattern.source = true)
    (plain : isPlain pattern.source.toList = true) (text : String) :
    pattern.isMatch text = true ↔ Takes pattern.source.toList (Text.utf8 text.toList) := by
  have glob : pattern.glob? = Glob.ofCharacters? pattern.source.toList := if_pos wild
  by_cases stars : pattern.source.toList = ['*', '*']
  · have read : pattern.glob? = some [.leading] := by
      rw [glob, stars]
      rfl
    rw [isMatch, read, stars]
    exact iff_of_true rfl (Glob.takes_stars _)
  · have read : pattern.glob? = some (pattern.source.toList.map Glob.partOf) := by
      rw [glob, Glob.ofCharacters?, Glob.continue?_of_plain plain (by simp) (Nat.le_refl _)
        fun _ => stars]
      rfl
    rw [isMatch, read]
    dsimp only
    rw [Glob.isMatch_iff, or_iff_right Glob.map_partOf_ne_leading, Glob.mem_language_iff_takes]

/-- **A pattern without wildcards** matches its own text. -/
theorem isMatch_iff_eq {pattern : Pattern} (tame : hasWildcard pattern.source = false)
    (text : String) : pattern.isMatch text = true ↔ text = pattern.source := by
  have literal : pattern.glob? = none := if_neg (ne_true_of_eq_false tame)
  rw [isMatch, literal]
  dsimp only
  rw [beq_iff_eq, eq_comm]

/-- **Plain wildcards match exactly.** A pattern with wildcards and without brackets, braces,
backslashes and slashes matches a text exactly if the bytes of the text can be cut into pieces of
which a star takes any, a question mark any of one byte, and every other character its own bytes;
two stars next to each other count as one. A pattern without wildcards matches its own text only. -/
theorem plain_wildcards_match_exactly (pattern : Pattern) (text : String) :
    (hasWildcard pattern.source = true → isPlain pattern.source.toList = true →
      (pattern.isMatch text = true ↔ Takes pattern.source.toList (Text.utf8 text.toList)) ∧
      ∀ before after, pattern.source.toList = before ++ '*' :: '*' :: after →
        pattern.isMatch text =
          (⟨String.ofList (before ++ '*' :: after)⟩ : Pattern).isMatch text) ∧
    (hasWildcard pattern.source = false →
      (pattern.isMatch text = true ↔ text = pattern.source)) := by
  refine ⟨fun wild plain => ⟨isMatch_iff_takes pattern wild plain text, ?_⟩, fun tame =>
    isMatch_iff_eq tame text⟩
  intro before after stars
  have wild' : hasWildcard (String.ofList (before ++ '*' :: after)) = true := by
    simp [hasWildcard]
  have plain' : isPlain (String.ofList (before ++ '*' :: after)).toList = true := by
    rw [String.toList_ofList]
    refine Glob.isPlain_iff.mpr fun c member => Glob.isPlain_iff.mp plain c ?_
    rw [stars]
    simp only [List.mem_append, List.mem_cons] at member ⊢
    tauto
  rw [Bool.eq_iff_iff, isMatch_iff_takes pattern wild plain, stars,
    isMatch_iff_takes ⟨String.ofList (before ++ '*' :: after)⟩ wild' plain', String.toList_ofList]
  exact Glob.takes_double_star before after

/-- A star across a slash, two stars next to each other, and a question mark for one of the two
bytes of a letter. -/
theorem plain_wildcards_match_exactly_of_stars :
    (hasWildcard "In**.C?" = true ∧ isPlain "In**.C?".toList = true ∧
      ((⟨"In**.C?"⟩ : Pattern).isMatch "In1/2.Cu" = true ∧
        Takes "In**.C?".toList (Text.utf8 "In1/2.Cu".toList)) ∧
      (⟨"In**.C?"⟩ : Pattern).isMatch "In1/2.Cé" = (⟨"In*.C?"⟩ : Pattern).isMatch "In1/2.Cé") ∧
    hasWildcard "In[1]" = false ∧ (⟨"In[1]"⟩ : Pattern).isMatch "In[1]" = true := by
  have wild : hasWildcard "In**.C?" = true := by decide
  have plain : isPlain "In**.C?".toList = true := by decide
  have tame : hasWildcard "In[1]" = false := by decide
  have stars : "In**.C?".toList = ['I', 'n'] ++ '*' :: '*' :: ['.', 'C', '?'] := by decide
  have found : (⟨"In**.C?"⟩ : Pattern).isMatch "In1/2.Cu" = true := by decide +kernel
  refine ⟨⟨wild, plain, ⟨found, ?_⟩, ?_⟩, tame, ?_⟩
  · exact (((plain_wildcards_match_exactly _ _).1 wild plain).1).mp found
  · exact ((plain_wildcards_match_exactly ⟨"In**.C?"⟩ "In1/2.Cé").1 wild plain).2 _ _ stars
  · exact ((plain_wildcards_match_exactly _ _).2 tame).mpr rfl

end DesignRules.Pattern
