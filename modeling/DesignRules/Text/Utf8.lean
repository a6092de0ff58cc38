/-
**Texts as bytes.**

* `utf8`: the bytes of a text, character by character.
* `width`: how many bytes a list of characters takes.
* `width_append`: widths add up.
-/

namespace DesignRules.Text

/-- The bytes of a list of characters in the encoding of one to four bytes each. -/
def utf8 (characters : List Char) : List UInt8 := characters.flatMap String.utf8EncodeChar

/-- How many bytes a list of characters takes. -/
def width (characters : List Char) : Nat := characters.foldr (fun c rest => c.utf8Size + rest) 0

@[simp] theorem width_nil : width [] = 0 := rfl

@[simp] theorem width_cons (c : Char) (rest : List Char) :
    width (c :: rest) = c.utf8Size + width rest := rfl

theorem width_append (first second : List Char) :
    width (first ++ second) = width first + width second := by
  induction first with
  | nil => simp
  | cons c first ih => rw [List.cons_append, width_cons, width_cons, ih, Nat.add_assoc]

@[simp] theorem utf8_nil : utf8 [] = [] := rfl

@[simp] theorem utf8_cons (c : Char) (rest : List Char) :
    utf8 (c :: rest) = String.utf8EncodeChar c ++ utf8 rest := by
  simp [utf8]

theorem utf8_append (first second : List Char) :
    utf8 (first ++ second) = utf8 first ++ utf8 second := by
  simp [utf8]

end DesignRules.Text
