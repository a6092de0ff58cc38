/-
**Sets of characters as ordered ranges of code points.**

* `within`: membership in a list of ranges in ascending order.
* `within_cons_of_mem`, `within_cons_of_after`: a code point of the first range is found, and one
  after it is looked for in the rest.
-/

namespace DesignRules.Text

/-- Ranges of code points, both ends included, in ascending order and apart from each other. -/
abbrev Ranges := List (Nat × Nat)

/-- Whether a code point lies in one of the ranges; the search ends at the first range after it. -/
def within : Ranges → Nat → Bool
  | [], _ => false
  | (first, last) :: rest, code =>
    if code < first then false else if code ≤ last then true else within rest code

theorem within_cons_of_mem {first last code : Nat} (rest : Ranges) (reached : first ≤ code)
    (inside : code ≤ last) : within ((first, last) :: rest) code = true := by
  simp [within, Nat.not_lt.mpr reached, inside]

theorem within_cons_of_after {first last code : Nat} (rest : Ranges) (reached : first ≤ code)
    (after : last < code) : within ((first, last) :: rest) code = within rest code := by
  simp [within, Nat.not_lt.mpr reached, Nat.not_le.mpr after]

end DesignRules.Text
