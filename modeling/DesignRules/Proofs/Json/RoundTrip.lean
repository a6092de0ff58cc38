/-
**Values are read back as they are written.**

Each reader takes just the text that the writer made, whatever level it is indented for and whatever
follows it, if it may call itself as often as that text is long.

* `Writable`: the values that are written faithfully, which are those without half of a pair.
* `Reader.value?_layout`, `Reader.items?_layout`, `Reader.members?_layout`: values, the items of an
  array, and the members of an object.
* `ofText?_pretty`: whole texts.
-/

import DesignRules.Proofs.Json.Literal
import DesignRules.Proofs.Json.Quoted

namespace DesignRules.Json

/-! ### Values that are written faithfully -/

/-- Whether all numbers in a value are well-formed and all its texts are texts. -/
inductive Writable : Json → Prop where
  | null : Writable .null
  | bool (value : Bool) : Writable (.bool value)
  | number {literal : Number} : literal.WellFormed → Writable (.number literal)
  | text (content : String) : Writable (.text content)
  | array {items : List Json} : (∀ item ∈ items, Writable item) → Writable (.array items)
  | object {members : List (Content × Json)} : (∀ member ∈ members, member.1.isSome = true) →
      (∀ member ∈ members, Writable member.2) → Writable (.object members)

theorem writable_record {members : List (String × Json)}
    (writable : ∀ member ∈ members, Writable member.2) : Writable (.record members) := by
  refine .object (fun member listed => ?_) fun member listed => ?_
  · obtain ⟨original, -, rfl⟩ := List.mem_map.mp listed
    rfl
  · obtain ⟨original, there, rfl⟩ := List.mem_map.mp listed
    exact writable original there

theorem writable_orNull {α : Type} {write : α → Json} (writable : ∀ value, Writable (write value))
    (value? : Option α) : Writable (orNull write value?) := by
  cases value? with
  | none => exact .null
  | some value => exact writable value

/-! ### Texts of items and members -/

/-- The items of an array. -/
def itemsText (level : Nat) : List Json → List Char
  | [] => []
  | item :: items => layout level item ++ layoutItems level items

/-- The members of an object. -/
def membersText (level : Nat) : List (Content × Json) → List Char
  | [] => []
  | (name, value) :: members =>
    contentCharacters name ++ [':', ' '] ++ layout level value ++ layoutMembers level members

theorem layout_array {items : List Json} (some_item : items ≠ []) (level : Nat) :
    layout level (.array items) =
      '[' :: newLine (level + 1) ++ itemsText (level + 1) items ++ newLine level ++ [']'] := by
  cases items with
  | nil => exact absurd rfl some_item
  | cons item items =>
    rw [layout, itemsText]
    simp only [List.cons_append, List.append_assoc]

theorem layout_object {members : List (Content × Json)} (some_member : members ≠ []) (level : Nat) :
    layout level (.object members) =
      '\x7b' :: newLine (level + 1) ++ membersText (level + 1) members ++ newLine level ++
        ['\x7d'] := by
  cases members with
  | nil => exact absurd rfl some_member
  | cons member members =>
    rw [layout, membersText]
    simp only [List.cons_append, List.append_assoc]

theorem layoutItems_append {items : List Json} (some_item : items ≠ []) (level : Nat)
    (rest : List Char) :
    layoutItems level items ++ rest =
      ',' :: (newLine level ++ (itemsText level items ++ rest)) := by
  cases items with
  | nil => exact absurd rfl some_item
  | cons item items =>
    rw [layoutItems, itemsText]
    simp only [List.cons_append, List.append_assoc]

theorem layoutMembers_append {members : List (Content × Json)} (some_member : members ≠ [])
    (level : Nat) (rest : List Char) :
    layoutMembers level members ++ rest =
      ',' :: (newLine level ++ (membersText level members ++ rest)) := by
  cases members with
  | nil => exact absurd rfl some_member
  | cons member members =>
    rw [layoutMembers, membersText]
    simp only [List.cons_append, List.append_assoc]

/-! ### Space -/

theorem skipSpace_append {spaces : List Char} (blank : ∀ c ∈ spaces, isSpace c = true)
    (rest : List Char) : skipSpace (spaces ++ rest) = skipSpace rest :=
  List.dropWhile_append_of_pos blank

theorem skipSpace_cons {c : Char} (solid : isSpace c = false) (rest : List Char) :
    skipSpace (c :: rest) = c :: rest :=
  List.dropWhile_cons_of_neg (ne_true_of_eq_false solid)

theorem isSpace_of_mem_newLine {level : Nat} : ∀ c ∈ newLine level, isSpace c = true := by
  intro c member
  rcases List.mem_cons.mp member with rfl | blank
  · decide
  · rw [List.eq_of_mem_replicate blank]
    decide

/-- No number goes on after a line break. -/
theorem endsNumber_newLine (level : Nat) (rest : List Char) : EndsNumber (newLine level ++ rest) :=
  endsNumber_cons (by decide) _

/-- The text of a number starts with its sign or a digit. -/
theorem Number.WellFormed.exists_first {literal : Number} (wellFormed : literal.WellFormed) :
    ∃ c rest, literal.characters = c :: rest ∧ (c = '-' ∨ Decimal.isDigit c = true) := by
  unfold Number.characters
  cases literal.negative with
  | true => exact ⟨'-', _, rfl, .inl rfl⟩
  | false =>
    obtain ⟨digit, others, whole, isDigit⟩ := wellFormed.exists_digit
    rw [whole]
    exact ⟨digit, _, rfl, .inr isDigit⟩

/-- Whether a character can start a value; no bracket or space can. -/
def startsValue (c : Char) : Bool := !isSpace c && c != ']'

theorem startsValue_of_number {c : Char} (starts : c = '-' ∨ Decimal.isDigit c = true) :
    startsValue c = true ∧ c ∉ ['n', 't', 'f', '"', '[', '\x7b'] := by
  rcases starts with rfl | digit
  · decide
  · have other (mark : Char) (noDigit : Decimal.isDigit mark = false) : c ≠ mark := by
      rintro rfl
      rw [noDigit] at digit
      cases digit
    refine ⟨?_, ?_⟩
    · simp [startsValue, isSpace, other ' ' (by decide), other '\n' (by decide),
        other '\t' (by decide), other '\r' (by decide), other ']' (by decide)]
    · simp [other 'n' (by decide), other 't' (by decide), other 'f' (by decide),
        other '"' (by decide), other '[' (by decide), other '\x7b' (by decide)]

theorem exists_first_layout {value : Json} (writable : Writable value) (level : Nat) :
    ∃ c rest, layout level value = c :: rest ∧ startsValue c = true := by
  cases writable with
  | null => exact ⟨'n', _, rfl, by decide⟩
  | bool value =>
    cases value with
    | true => exact ⟨'t', _, rfl, by decide⟩
    | false => exact ⟨'f', _, rfl, by decide⟩
  | number wellFormed =>
    obtain ⟨c, rest, characters, starts⟩ := wellFormed.exists_first
    exact ⟨c, rest, characters, (startsValue_of_number starts).1⟩
  | text content => exact ⟨'"', _, rfl, by decide⟩
  | @array items _ =>
    cases items with
    | nil => exact ⟨'[', _, rfl, by decide⟩
    | cons item items => exact ⟨'[', _, rfl, by decide⟩
  | @object members _ _ =>
    cases members with
    | nil => exact ⟨'\x7b', _, rfl, by decide⟩
    | cons member members => exact ⟨'\x7b', _, rfl, by decide⟩

namespace Reader

/-- Space before a value makes no difference. -/
theorem value?_append {spaces : List Char} (blank : ∀ c ∈ spaces, isSpace c = true) (limit : Nat)
    (rest : List Char) : value? limit (spaces ++ rest) = value? limit rest := by
  cases limit with
  | zero => rfl
  | succ limit => rw [value?, value?, skipSpace_append blank]

theorem items?_append {spaces : List Char} (blank : ∀ c ∈ spaces, isSpace c = true) (limit : Nat)
    (rest : List Char) : items? limit (spaces ++ rest) = items? limit rest := by
  cases limit with
  | zero => rfl
  | succ limit => rw [items?, items?, value?_append blank]

theorem members?_append {spaces : List Char} (blank : ∀ c ∈ spaces, isSpace c = true) (limit : Nat)
    (rest : List Char) : members? limit (spaces ++ rest) = members? limit rest := by
  cases limit with
  | zero => rfl
  | succ limit =>
    cases limit with
    | zero => rfl
    | succ limit => rw [members?, members?, member?, member?, skipSpace_append blank]

/-! ### Numbers and brackets -/

theorem value?_number {literal : Number} (wellFormed : literal.WellFormed) (limit : Nat)
    {rest : List Char} (ends : EndsNumber rest) :
    value? (limit + 1) (literal.characters ++ rest) = some (.number literal, rest) := by
  have read := number?_characters wellFormed ends
  obtain ⟨c, others, characters, starts⟩ := wellFormed.exists_first
  obtain ⟨value, marks⟩ := startsValue_of_number starts
  simp only [startsValue, Bool.and_eq_true, Bool.not_eq_true'] at value
  rw [characters, List.cons_append] at read ⊢
  rw [value?, skipSpace_cons value.1]
  have other {mark : Char} (listed : mark ∈ ['n', 't', 'f', '"', '[', '\x7b'])
      {after : List Char} : c :: (others ++ rest) ≠ mark :: after := by
    intro same
    rw [(List.cons.inj same).1] at marks
    exact marks listed
  split
  · rename_i same
    exact absurd same (other (by decide))
  · rename_i same
    exact absurd same (other (by decide))
  · rename_i same
    exact absurd same (other (by decide))
  · rename_i same
    exact absurd same (other (by decide))
  · rename_i same
    exact absurd same (other (by decide))
  · rename_i same
    exact absurd same (other (by decide))
  · rw [read]
    rfl

/-- An array with items is what its items are. -/
theorem value?_array {c : Char} (starts : startsValue c = true) (limit level : Nat)
    (text : List Char) :
    value? (limit + 1) ('[' :: (newLine level ++ c :: text)) =
      (items? limit (c :: text)).map fun found => (Json.array found.1, found.2) := by
  simp only [startsValue, Bool.and_eq_true, Bool.not_eq_true', bne_iff_ne] at starts
  have bracket : isSpace '[' = false := by decide
  rw [value?]
  simp only [skipSpace_cons bracket, skipSpace_append isSpace_of_mem_newLine,
    skipSpace_cons starts.1]
  split
  · rename_i same
    exact absurd (List.cons.inj same).1 starts.2
  · rfl

theorem value?_object (limit level : Nat) (text : List Char) :
    value? (limit + 1) ('\x7b' :: (newLine level ++ '"' :: text)) =
      (members? limit ('"' :: text)).map fun found => (Json.object found.1, found.2) := by
  have brace : isSpace '\x7b' = false := by decide
  have quote : isSpace '"' = false := by decide
  rw [value?]
  simp only [skipSpace_cons brace, skipSpace_append isSpace_of_mem_newLine, skipSpace_cons quote]
  rfl

/-! ### One step of a reader -/

theorem value?_text (content : String) {limit : Nat} (room : content.toList.length < limit)
    (rest : List Char) :
    value? (limit + 1) (quoted content ++ rest) = some (.text content, rest) := by
  have text : quoted content ++ rest =
      '"' :: (content.toList.flatMap escape ++ '"' :: rest) := by
    rw [quoted, List.cons_append, List.append_assoc, List.singleton_append]
  rw [text, value?, skipSpace_cons (by decide)]
  show (string? limit (some []) _).map _ = _
  rw [string?_quoted content rest room]
  rfl

theorem value?_of_items {items : List Json} (some_item : items ≠ [])
    (writable : ∀ item ∈ items, Writable item) {limit level : Nat} {rest : List Char}
    (read : items? limit (itemsText (level + 1) items ++ (newLine level ++ ']' :: rest)) =
      some (items, rest)) :
    value? (limit + 1) (layout level (.array items) ++ rest) = some (.array items, rest) := by
  obtain ⟨item, later, rfl⟩ := List.exists_cons_of_ne_nil some_item
  obtain ⟨c, text, begins, starts⟩ :=
    exists_first_layout (writable item List.mem_cons_self) (level + 1)
  have opened := value?_array starts limit (level + 1)
    (text ++ layoutItems (level + 1) later ++ (newLine level ++ ']' :: rest))
  rw [layout_array some_item, itemsText, begins]
  rw [itemsText, begins] at read
  simp only [List.cons_append, List.append_assoc, List.nil_append] at opened read ⊢
  rw [opened, read]
  rfl

theorem value?_of_members {members : List (Content × Json)} (some_member : members ≠ [])
    {limit level : Nat} {rest : List Char}
    (read : members? limit (membersText (level + 1) members ++ (newLine level ++ '\x7d' :: rest)) =
      some (members, rest)) :
    value? (limit + 1) (layout level (.object members) ++ rest) =
      some (.object members, rest) := by
  obtain ⟨⟨name, value⟩, later, rfl⟩ := List.exists_cons_of_ne_nil some_member
  have begins : contentCharacters name =
      '"' :: ((name.getD "").toList.flatMap escape ++ ['"']) := rfl
  have opened := value?_object limit (level + 1)
    ((name.getD "").toList.flatMap escape ++ ['"'] ++ [':', ' '] ++ layout (level + 1) value ++
      layoutMembers (level + 1) later ++ (newLine level ++ '\x7d' :: rest))
  rw [layout_object some_member, membersText, begins]
  rw [membersText, begins] at read
  simp only [List.cons_append, List.append_assoc, List.nil_append] at opened read ⊢
  rw [opened, read]
  rfl

/-- A value is followed by a comma and others, or by the closing bracket. -/
theorem items?_of_value {item : Json} {items : List Json} {limit level outer : Nat}
    {rest : List Char}
    (read : ∀ after, EndsNumber after →
      value? limit (layout level item ++ after) = some (item, after))
    (later : items ≠ [] →
      items? limit (itemsText level items ++ (newLine outer ++ ']' :: rest)) =
        some (items, rest)) :
    items? (limit + 1) (itemsText level (item :: items) ++ (newLine outer ++ ']' :: rest)) =
      some (item :: items, rest) := by
  have bracket : isSpace ']' = false := by decide
  have comma : isSpace ',' = false := by decide
  rw [itemsText, List.append_assoc, items?]
  by_cases last : items = []
  · subst last
    rw [layoutItems, List.nil_append, read _ (endsNumber_newLine outer _)]
    simp only [skipSpace_append isSpace_of_mem_newLine, skipSpace_cons bracket]
  · rw [layoutItems_append last, read _ (endsNumber_cons (by decide) _)]
    simp only [skipSpace_cons comma, items?_append isSpace_of_mem_newLine, later last,
      Option.map_some]

/-- A name is followed by its value. -/
theorem member?_of_value {name : String} {value : Json} {limit level : Nat}
    (room : name.toList.length < limit) {after : List Char}
    (read : value? limit (layout level value ++ after) = some (value, after)) :
    member? (limit + 1)
        (contentCharacters (some name) ++ ([':', ' '] ++ (layout level value ++ after))) =
      some ((some name, value), after) := by
  have text : contentCharacters (some name) ++ ([':', ' '] ++ (layout level value ++ after)) =
      '"' :: (name.toList.flatMap escape ++ '"' :: ':' :: ([' '] ++ (layout level value ++
        after))) := by
    show quoted name ++ _ = _
    rw [quoted, List.cons_append, List.append_assoc, List.singleton_append]
    rfl
  have quote : isSpace '"' = false := by decide
  have colon : isSpace ':' = false := by decide
  have space : ∀ c ∈ [' '], isSpace c = true := List.forall_mem_singleton.mpr (by decide)
  rw [text, member?]
  simp only [skipSpace_cons quote, string?_quoted name _ room, skipSpace_cons colon,
    value?_append space, read, Option.map_some]

/-- A member is followed by a comma and others, or by the closing brace. -/
theorem members?_of_member {name : Content} {value : Json} {members : List (Content × Json)}
    {limit level outer : Nat} {rest : List Char}
    (read : ∀ after, EndsNumber after →
      member? limit (contentCharacters name ++ ([':', ' '] ++ (layout level value ++ after))) =
        some ((name, value), after))
    (later : members ≠ [] →
      members? limit (membersText level members ++ (newLine outer ++ '\x7d' :: rest)) =
        some (members, rest)) :
    members? (limit + 1)
        (membersText level ((name, value) :: members) ++ (newLine outer ++ '\x7d' :: rest)) =
      some ((name, value) :: members, rest) := by
  have brace : isSpace '\x7d' = false := by decide
  have comma : isSpace ',' = false := by decide
  rw [membersText, members?]
  simp only [List.append_assoc]
  by_cases last : members = []
  · subst last
    rw [layoutMembers, List.nil_append, read _ (endsNumber_newLine outer _)]
    simp only [skipSpace_append isSpace_of_mem_newLine, skipSpace_cons brace]
  · rw [layoutMembers_append last, read _ (endsNumber_cons (by decide) _)]
    simp only [skipSpace_cons comma, members?_append isSpace_of_mem_newLine, later last,
      Option.map_some]

/-! ### Values, items and members -/

/-- Some room is left where a text that is not empty fits. -/
theorem exists_room {text : List Char} (some_character : text ≠ []) {limit : Nat}
    (enough : text.length ≤ limit) : ∃ fewer, limit = fewer + 1 ∧ text.length ≤ fewer + 1 := by
  have positive := List.length_pos_iff.mpr some_character
  exact ⟨limit - 1, by omega, by omega⟩

mutual

/-- **A value is read back**, whatever follows that is no part of a number. -/
theorem value?_layout (level : Nat) :
    (value : Json) → Writable value → ∀ {limit : Nat} {rest : List Char},
      (layout level value).length ≤ limit → EndsNumber rest →
        value? limit (layout level value ++ rest) = some (value, rest)
  | value, writable, _, rest, enough, ends => by
    have some_character : layout level value ≠ [] := by
      obtain ⟨c, others, starts, -⟩ := exists_first_layout writable level
      rw [starts]
      exact List.cons_ne_nil c others
    obtain ⟨limit, rfl, room⟩ := exists_room some_character enough
    match value, writable with
    | .null, _ => rfl
    | .bool true, _ => rfl
    | .bool false, _ => rfl
    | .number literal, .number wellFormed => exact value?_number wellFormed limit ends
    | .string _, .text content =>
      have size := length_lt_quoted content
      have enough : (quoted content).length ≤ limit + 1 := room
      exact value?_text content (by omega) rest
    | .array items, .array all =>
      by_cases none_given : items = []
      · subst none_given
        rfl
      · refine value?_of_items none_given all
          (items?_layout (level + 1) level items none_given all ?_)
        rw [layout_array none_given, newLine] at room
        simp only [List.length_append, List.length_cons] at room
        omega
    | .object members, .object named all =>
      by_cases none_given : members = []
      · subst none_given
        rfl
      · refine value?_of_members none_given
          (members?_layout (level + 1) level members none_given named all ?_)
        rw [layout_object none_given, newLine] at room
        simp only [List.length_append, List.length_cons] at room
        omega

/-- The items of an array are read back up to its closing bracket. -/
theorem items?_layout (level outer : Nat) :
    (items : List Json) → items ≠ [] → (∀ item ∈ items, Writable item) →
      ∀ {limit : Nat} {rest : List Char}, (itemsText level items).length + 1 ≤ limit →
        items? limit (itemsText level items ++ (newLine outer ++ ']' :: rest)) = some (items, rest)
  | [], none_given, _, _, _, _ => absurd rfl none_given
  | item :: items, _, all, limit, rest, enough => by
    obtain ⟨here, others⟩ := List.forall_mem_cons.mp all
    obtain ⟨limit, rfl⟩ : ∃ fewer, limit = fewer + 1 := ⟨limit - 1, by omega⟩
    rw [itemsText, List.length_append] at enough
    refine items?_of_value (fun after ends => value?_layout level item here (by omega) ends) ?_
    intro more
    refine items?_layout level outer items more others ?_
    have text := layoutItems_append more level []
    simp only [List.append_nil] at text
    rw [text, List.length_cons, List.length_append, newLine, List.length_cons] at enough
    omega

/-- The members of an object are read back up to its closing brace. -/
theorem members?_layout (level outer : Nat) :
    (members : List (Content × Json)) → members ≠ [] →
      (∀ member ∈ members, member.1.isSome = true) → (∀ member ∈ members, Writable member.2) →
        ∀ {limit : Nat} {rest : List Char}, (membersText level members).length + 1 ≤ limit →
          members? limit (membersText level members ++ (newLine outer ++ '\x7d' :: rest)) =
            some (members, rest)
  | [], none_given, _, _, _, _, _ => absurd rfl none_given
  | (name, value) :: members, _, named, all, limit, rest, enough => by
    obtain ⟨here, others⟩ := List.forall_mem_cons.mp all
    obtain ⟨isText, others'⟩ := List.forall_mem_cons.mp named
    obtain ⟨name, rfl⟩ : ∃ text, name = some text := Option.isSome_iff_exists.mp isText
    have size := length_lt_quoted name
    have written : contentCharacters (some name) = quoted name := rfl
    rw [membersText, written] at enough
    simp only [List.length_append, List.length_cons] at enough
    obtain ⟨limit, rfl⟩ : ∃ fewer, limit = fewer + 2 := ⟨limit - 2, by omega⟩
    refine members?_of_member (fun after ends => ?_) fun more => ?_
    · exact member?_of_value (by omega) (value?_layout level value here (by omega) ends)
    · refine members?_layout level outer members more others' others ?_
      have text := layoutMembers_append more level []
      simp only [List.append_nil] at text
      rw [text, List.length_cons, List.length_append, newLine, List.length_cons] at enough
      omega

end

end Reader

/-- **The text of a value is read back.** -/
theorem ofText?_pretty {value : Json} (writable : Writable value) :
    ofText? (pretty value) = some value := by
  have room : (layout 0 value).length ≤ 3 * (layout 0 value).length + 1 := by omega
  have ends : EndsNumber [] := fun _ head => by cases head
  have read := Reader.value?_layout 0 value writable room ends
  rw [List.append_nil] at read
  rw [ofText?, pretty, String.toList_ofList, ofCharacters?, read]
  rfl

end DesignRules.Json
