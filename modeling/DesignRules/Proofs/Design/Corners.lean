/-
**Corners of rectangles in the text of a design.**

The text of a design gives the lower left and the upper right corner of a rectangle, and they are
kept as they are given. Exchanging two coordinates in a text exchanges them in the design that is
read, which changes the box of the rectangle and takes its area away.

* `WrittenExchanged`: texts that differ in the order of the corners of one rectangle, on one axis.
* `Rectangle.ofJson?_of_writtenExchanged`, `Item.ofJson?_of_writtenExchanged`,
  `Design.ofJson?_of_writtenExchanged`: what is read, from the inside out.
* `MinArea.exists_mem_foundOn_of_exchanged`: the area of the rectangle is too small then.
* `Design.corners_are_read_as_written`: designs as texts.
* `Design.exchanged_corners_change_report`: the order of the corners decides what is reported.
-/

import DesignRules.Proofs.Design.RoundTrip
import DesignRules.Proofs.Geometry.Rounded
import DesignRules.Proofs.Session.Backing

namespace DesignRules

open Json (fields?_record mapFrom? required? toFloat? withDefault?)
open Session (fresh siteFor)

/-! ### Exchanged corners -/

section Exchanged

variable {K : Type}

theorem Rectangle.exchanged_eq_self {rectangle : Rectangle K} {axis : Axis}
    (flat : (rectangle.ends axis).1 = (rectangle.ends axis).2) :
    rectangle.exchanged axis = rectangle := by
  obtain ⟨layer, ⟨left, bottom⟩, right, top⟩ := rectangle
  cases axis with
  | x =>
    obtain rfl : left = right := flat
    rfl
  | y =>
    obtain rfl : bottom = top := flat
    rfl

/-- A shape; a rectangle with its two coordinates on an axis exchanged. -/
def Shape.exchanged (axis : Axis) : Shape K → Shape K
  | .rectangle shape => .rectangle (shape.exchanged axis)
  | .polygon shape => .polygon shape
  | .path shape => .path shape
  | .via shape => .via shape

theorem Shape.layers_exchanged (axis : Axis) (shape : Shape K) :
    (shape.exchanged axis).layers = shape.layers := by
  cases shape with
  | rectangle shape => cases axis <;> rfl
  | polygon shape => rfl
  | path shape => rfl
  | via shape => rfl

/-- An item with such a shape. -/
def Item.exchanged (axis : Axis) (item : Item K) : Item K :=
  { item with shape := item.shape.exchanged axis }

/-- A design with such an item at a place. -/
def Design.exchangedAt (place : Nat) (axis : Axis) (design : Design K) : Design K :=
  { design with items := design.items.modify place (Item.exchanged axis) }

theorem Design.exchangedAt_eq_self {place : Nat} {axis : Axis} {design : Design K} {item : Item K}
    (listed : design.items[place]? = some item) (same : item.exchanged axis = item) :
    design.exchangedAt place axis = design := by
  have items : design.items.modify place (Item.exchanged axis) = design.items := by
    refine List.ext_getElem? fun index => ?_
    rw [List.getElem?_modify]
    by_cases here : place = index
    · subst here
      simp [listed, same]
    · simp [here]
  rw [exchangedAt, items]

theorem findSome?_modify {α β : Type} {change : α → α} {seek : α → Option β}
    (same : ∀ a, seek (change a) = seek a) (values : List α) (place : Nat) :
    (values.modify place change).findSome? seek = values.findSome? seek := by
  induction values generalizing place with
  | nil => rw [List.modify_nil]
  | cons value values ih =>
    cases place with
    | zero => rw [List.modify_zero_cons, List.findSome?_cons, List.findSome?_cons, same]
    | succ place => rw [List.modify_succ_cons, List.findSome?_cons, List.findSome?_cons, ih]

/-- The order of corners is not validated. -/
theorem Design.validate_exchangedAt (place : Nat) (axis : Axis) (design : Design K) :
    (design.exchangedAt place axis).validate = design.validate := by
  have undefined : (design.exchangedAt place axis).undefined? = design.undefined? := by
    refine findSome?_modify (fun item => ?_) design.items place
    have layers : (item.exchanged axis).layers = item.layers :=
      Shape.layers_exchanged axis item.shape
    rw [layers]
    rfl
  rw [validate, undefined, validate]

end Exchanged

/-! ### Values that differ in the order of corners -/

/-- Whether two values write a rectangle alike, but exchange the coordinates of its corners on an
axis. -/
def Rectangle.WrittenExchanged (axis : Axis) (json json' : Json) : Prop :=
  ∃ layer lower upper lower' upper' left bottom right top,
    json.fields? ["layer_id", "lower_left", "upper_right"] =
      some [layer, .value lower, .value upper] ∧
    json'.fields? ["layer_id", "lower_left", "upper_right"] =
      some [layer, .value lower', .value upper'] ∧
    lower.fields? ["x", "y"] = some [left, bottom] ∧
    upper.fields? ["x", "y"] = some [right, top] ∧
    match axis with
    | .x =>
      lower'.fields? ["x", "y"] = some [right, bottom] ∧
        upper'.fields? ["x", "y"] = some [left, top]
    | .y =>
      lower'.fields? ["x", "y"] = some [left, top] ∧
        upper'.fields? ["x", "y"] = some [right, bottom]

/-- Whether two values write an item alike, but for such a rectangle. -/
def Item.WrittenExchanged (axis : Axis) (json json' : Json) : Prop :=
  ∃ id name net netClass shape shape' payload payload',
    json.fields? ["id", "name", "net", "net_class", "shape"] =
      some [id, name, net, netClass, .value shape] ∧
    json'.fields? ["id", "name", "net", "net_class", "shape"] =
      some [id, name, net, netClass, .value shape'] ∧
    shape.alternative? = some ("Rect", some payload) ∧
    shape'.alternative? = some ("Rect", some payload') ∧
    Rectangle.WrittenExchanged axis payload payload'

/-- Whether two values write a design alike, but for such an item at a place. -/
def Design.WrittenExchanged (place : Nat) (axis : Axis) (json json' : Json) : Prop :=
  ∃ id name stack items item item',
    json.fields? ["id", "name", "layer_stack", "items"] =
      some [id, name, stack, .value (.array items)] ∧
    json'.fields? ["id", "name", "layer_stack", "items"] =
      some [id, name, stack, .value (.array (items.set place item'))] ∧
    items[place]? = some item ∧ Item.WrittenExchanged axis item item'

theorem Point.ofJson?_of_fields {json : Json} {x y : Json.Given}
    (given : json.fields? ["x", "y"] = some [x, y]) :
    ofJson? json = do return ⟨← required? toFloat? x, ← required? toFloat? y⟩ := by
  rw [ofJson?, given]
  rfl

theorem Rectangle.ofJson?_of_fields {json lower upper : Json} {layer : Json.Given}
    (given : json.fields? ["layer_id", "lower_left", "upper_right"] =
      some [layer, .value lower, .value upper]) :
    ofJson? json = do
      return ⟨← required? layerIdOfJson? layer, ← Point.ofJson? lower, ← Point.ofJson? upper⟩ := by
  rw [ofJson?, given]
  rfl

/-- **A rectangle** is read with its corners as they are written. -/
theorem Rectangle.ofJson?_of_writtenExchanged {axis : Axis} {json json' : Json}
    (written : WrittenExchanged axis json json') :
    ofJson? json' = (ofJson? json).map (exchanged · axis) := by
  obtain ⟨layer, lower, upper, lower', upper', left, bottom, right, top, given, given', low, high,
    exchanged⟩ := written
  rw [ofJson?_of_fields given, ofJson?_of_fields given', Point.ofJson?_of_fields low,
    Point.ofJson?_of_fields high]
  cases axis with
  | x =>
    rw [Point.ofJson?_of_fields exchanged.1, Point.ofJson?_of_fields exchanged.2]
    cases required? layerIdOfJson? layer <;> cases required? toFloat? left <;>
      cases required? toFloat? bottom <;> cases required? toFloat? right <;>
        cases required? toFloat? top <;> rfl
  | y =>
    rw [Point.ofJson?_of_fields exchanged.1, Point.ofJson?_of_fields exchanged.2]
    cases required? layerIdOfJson? layer <;> cases required? toFloat? left <;>
      cases required? toFloat? bottom <;> cases required? toFloat? right <;>
        cases required? toFloat? top <;> rfl

theorem Shape.ofJson?_of_rectangle {json payload : Json}
    (chosen : json.alternative? = some ("Rect", some payload)) :
    ofJson? json = (Rectangle.ofJson? payload).map .rectangle := by
  rw [ofJson?, chosen]
  rfl

theorem Item.ofJson?_of_fields {json shape : Json} {id name net netClass : Json.Given}
    (given : json.fields? ["id", "name", "net", "net_class", "shape"] =
      some [id, name, net, netClass, .value shape]) (position : Nat) :
    ofJson? position json = do
      return ⟨← withDefault? (.numbered position) Identity.ofJson? id,
        ← withDefault? "" Json.toText? name, ← withDefault? none (Json.nullable? Json.toText?) net,
        ← withDefault? none (Json.nullable? Json.toText?) netClass, ← Shape.ofJson? shape⟩ := by
  rw [ofJson?, given]
  rfl

/-- **An item** is read with the corners of its rectangle as they are written. -/
theorem Item.ofJson?_of_writtenExchanged {axis : Axis} {json json' : Json}
    (written : WrittenExchanged axis json json') (position : Nat) :
    ofJson? position json' = (ofJson? position json).map (exchanged axis) := by
  obtain ⟨id, name, net, netClass, shape, shape', payload, payload', given, given', chosen, chosen',
    rectangles⟩ := written
  rw [ofJson?_of_fields given, ofJson?_of_fields given', Shape.ofJson?_of_rectangle chosen,
    Shape.ofJson?_of_rectangle chosen', Rectangle.ofJson?_of_writtenExchanged rectangles]
  cases withDefault? (.numbered position) Identity.ofJson? id <;>
    cases withDefault? "" Json.toText? name <;>
      cases withDefault? none (Json.nullable? Json.toText?) net <;>
        cases withDefault? none (Json.nullable? Json.toText?) netClass <;>
          cases Rectangle.ofJson? payload <;> rfl

/-- The item that is read has a rectangle. -/
theorem Item.WrittenExchanged.exists_rectangle {axis : Axis} {json json' : Json}
    (written : WrittenExchanged axis json json') {position : Nat} {item : Item Float}
    (reads : ofJson? position json = some item) :
    ∃ rectangle, item.shape = .rectangle rectangle := by
  obtain ⟨id, name, net, netClass, shape, shape', payload, payload', given, -, chosen, -⟩ := written
  rw [ofJson?_of_fields given, Shape.ofJson?_of_rectangle chosen] at reads
  simp only [bind, Option.bind_eq_some_iff, Option.map_eq_some_iff] at reads
  obtain ⟨_, -, _, -, _, -, _, -, _, ⟨rectangle, -, rfl⟩, returned⟩ := reads
  obtain rfl := Option.some.inj returned
  exact ⟨rectangle, rfl⟩

theorem mapFrom?_set {α : Type} {read : Nat → Json → Option α} {change : α → α}
    {item item' : Json} (changed : ∀ position,
      read position item' = (read position item).map change) {items : List Json} {place : Nat}
    (listed : items[place]? = some item) (position : Nat) :
    mapFrom? read position (items.set place item') =
      (mapFrom? read position items).map fun values => values.modify place change := by
  induction items generalizing place position with
  | nil => cases listed
  | cons first items ih =>
    cases place with
    | zero =>
      obtain rfl : first = item := Option.some.inj listed
      rw [List.set_cons_zero, mapFrom?, mapFrom?, changed]
      cases read position first with
      | none => rfl
      | some value => cases mapFrom? read (position + 1) items <;> rfl
    | succ place =>
      rw [List.set_cons_succ, mapFrom?, mapFrom?, ih listed (position + 1)]
      cases read position first with
      | none => rfl
      | some value => cases mapFrom? read (position + 1) items <;> rfl

theorem exists_of_mapFrom? {α : Type} {read : Nat → Json → Option α} {items : List Json}
    {values : List α} {position : Nat} (reads : mapFrom? read position items = some values)
    {place : Nat} {item : Json} (listed : items[place]? = some item) :
    ∃ value, values[place]? = some value ∧ read (position + place) item = some value := by
  induction items generalizing place position values with
  | nil => cases listed
  | cons first items ih =>
    rw [mapFrom?] at reads
    obtain ⟨value, here, reads⟩ := Option.bind_eq_some_iff.mp reads
    obtain ⟨others, later, joined⟩ := Option.bind_eq_some_iff.mp reads
    obtain rfl := Option.some.inj joined
    cases place with
    | zero =>
      obtain rfl : first = item := Option.some.inj listed
      exact ⟨value, rfl, here⟩
    | succ place =>
      obtain ⟨found, there, read⟩ := ih later listed
      rw [Nat.add_assoc, Nat.add_comm 1] at read
      exact ⟨found, there, read⟩

namespace Design

theorem ofJson?_of_fields {json : Json} {id name stack : Json.Given} {items : List Json}
    (given : json.fields? ["id", "name", "layer_stack", "items"] =
      some [id, name, stack, .value (.array items)]) :
    ofJson? json = do
      return ⟨← withDefault? .nil Identity.ofJson? id, ← required? Json.toText? name,
        ← required? LayerStack.ofJson? stack, ← mapFrom? Item.ofJson? 0 items⟩ := by
  rw [ofJson?, given]
  rfl

/-- **A design** is read with the corners of its rectangles as they are written. -/
theorem ofJson?_of_writtenExchanged {place : Nat} {axis : Axis} {json json' : Json}
    (written : WrittenExchanged place axis json json') :
    ofJson? json' = (ofJson? json).map (exchangedAt place axis) := by
  obtain ⟨id, name, stack, items, item, item', given, given', listed, alike⟩ := written
  rw [ofJson?_of_fields given, ofJson?_of_fields given',
    mapFrom?_set (Item.ofJson?_of_writtenExchanged alike) listed]
  cases withDefault? .nil Identity.ofJson? id <;> cases required? Json.toText? name <;>
    cases required? LayerStack.ofJson? stack <;> cases mapFrom? Item.ofJson? 0 items <;> rfl

/-- The design that is read has a rectangle there. -/
theorem WrittenExchanged.exists_rectangle {place : Nat} {axis : Axis} {json json' : Json}
    (written : WrittenExchanged place axis json json') {design : Design Float}
    (reads : ofJson? json = some design) :
    ∃ item rectangle, design.items[place]? = some item ∧ item.shape = .rectangle rectangle := by
  obtain ⟨id, name, stack, items, item, item', given, -, listed, alike⟩ := written
  rw [ofJson?_of_fields given] at reads
  simp only [bind, Option.bind_eq_some_iff] at reads
  obtain ⟨_, -, _, -, _, -, values, mapped, returned⟩ := reads
  obtain rfl := Option.some.inj returned
  obtain ⟨value, there, read⟩ := exists_of_mapFrom? mapped listed
  obtain ⟨rectangle, shape⟩ := alike.exists_rectangle read
  exact ⟨value, rectangle, there, shape⟩

/-- **Texts**: what is read from the one is what is read from the other, with the corners
exchanged. -/
theorem ofText_of_writtenExchanged {text text' : String} {json json' : Json}
    (parsed : Json.ofText? text = some json) (parsed' : Json.ofText? text' = some json')
    {place : Nat} {axis : Axis} (written : WrittenExchanged place axis json json') :
    ofText text' = (ofText text).map (exchangedAt place axis) := by
  rw [ofText, ofText, parsed, parsed']
  show ofJson json' = (ofJson json).map _
  rw [ofJson, ofJson, ofJson?_of_writtenExchanged written]
  cases ofJson? json with
  | none => rfl
  | some design =>
    show (design.exchangedAt place axis).validate.map _ = (design.validate.map _).map _
    rw [validate_exchangedAt]
    cases design.validate <;> rfl

theorem ofJson?_of_ofText {text : String} {json : Json} (parsed : Json.ofText? text = some json)
    {design : Design Float} (loaded : ofText text = .ok design) : ofJson? json = some design := by
  rw [ofText, parsed] at loaded
  replace loaded : ofJson json = .ok design := loaded
  rw [ofJson] at loaded
  cases reads : ofJson? json with
  | none =>
    rw [reads] at loaded
    cases loaded
  | some other =>
    rw [reads] at loaded
    obtain ⟨_, -, rfl⟩ := map_eq_ok_iff.mp loaded
    rfl

end Design

/-! ### Designs that are written with exchanged corners -/

theorem Rectangle.writtenExchanged_toJson (axis : Axis) (shape : Rectangle Float) :
    WrittenExchanged axis shape.toJson (shape.exchanged axis).toJson := by
  have point (x y : Float) : (Point.toJson ⟨x, y⟩).fields? ["x", "y"] =
      some [.value (.ofFloat x), .value (.ofFloat y)] :=
    fields?_record (by rfl) (by decide)
  have record (shape : Rectangle Float) :
      shape.toJson.fields? ["layer_id", "lower_left", "upper_right"] =
        some [.value (layerIdToJson shape.layer), .value shape.lowerLeft.toJson,
          .value shape.upperRight.toJson] :=
    fields?_record (by rfl) (by decide)
  cases axis with
  | x =>
    exact ⟨_, _, _, _, _, _, _, _, _, record shape, record (shape.exchanged .x), point _ _,
      point _ _, point _ _, point _ _⟩
  | y =>
    exact ⟨_, _, _, _, _, _, _, _, _, record shape, record (shape.exchanged .y), point _ _,
      point _ _, point _ _, point _ _⟩

theorem Item.writtenExchanged_toJson (axis : Axis) {item : Item Float}
    {rectangle : Rectangle Float} (shape : item.shape = .rectangle rectangle) :
    WrittenExchanged axis item.toJson (item.exchanged axis).toJson := by
  have record (item : Item Float) :
      item.toJson.fields? ["id", "name", "net", "net_class", "shape"] =
        some [.value item.id.toJson, .value (.text item.name), .value (Json.orNull .text item.net),
          .value (Json.orNull .text item.netClass), .value item.shape.toJson] :=
    fields?_record (by rfl) (by decide)
  refine ⟨_, _, _, _, _, _, rectangle.toJson, (rectangle.exchanged axis).toJson, record item,
    record (item.exchanged axis), ?_, ?_, Rectangle.writtenExchanged_toJson axis rectangle⟩
  · rw [shape]
    rfl
  · rw [exchanged, shape]
    rfl

/-- **The text of a design** with exchanged corners is its text with exchanged corners. -/
theorem Design.writtenExchanged_toJson {design : Design Float} {place : Nat} {item : Item Float}
    (listed : design.items[place]? = some item) {rectangle : Rectangle Float}
    (shape : item.shape = .rectangle rectangle) (axis : Axis) :
    WrittenExchanged place axis design.toJson (design.exchangedAt place axis).toJson := by
  have record (design : Design Float) :
      design.toJson.fields? ["id", "name", "layer_stack", "items"] =
        some [.value design.id.toJson, .value (.text design.name), .value design.stack.toJson,
          .value (.array (design.items.map Item.toJson))] :=
    fields?_record (by rfl) (by decide)
  have items : (design.items.modify place (Item.exchanged axis)).map Item.toJson =
      (design.items.map Item.toJson).set place (item.exchanged axis).toJson := by
    refine List.ext_getElem? fun index => ?_
    rw [List.getElem?_map, List.getElem?_modify, List.getElem?_set, List.getElem?_map]
    by_cases here : place = index
    · subst here
      obtain ⟨bound, same⟩ := List.getElem?_eq_some_iff.mp listed
      simp [bound, same]
    · simp [here]
  have listed' : (design.items.map Item.toJson)[place]? = some item.toJson := by
    rw [List.getElem?_map, listed, Option.map_some]
  refine ⟨_, _, _, _, _, _, record design, ?_, listed', Item.writtenExchanged_toJson axis shape⟩
  rw [← items]
  exact record (design.exchangedAt place axis)

/-! ### Areas -/

namespace MinArea

section Areas

variable {K : Type} [Scalar K] {site : Site K} {item : Item K} {layer : LayerId} {area least : K}
  {entry : Entry K} (measured : measured? item.shape = some (layer, area))
  (resolved : site.resolve .minArea item none (some layer) = .ok (some entry))
  (minimum : entry.constraint.min? = some least) (exceeds : ¬ least ≤ area)

include measured resolved minimum exceeds

/-- What an item breaks whose area is less than the minimum that counts for it. -/
theorem inspect_of_exceeds :
    inspect site item = .ok (.ofOption (some
      (site.violation entry (message area least) (some layer) item.box? [item.id]))) := by
  rw [inspect, measured]
  show (do
    let entry ← site.resolve .minArea item none (some layer)
    return Inspection.ofOption (entry.bind (violation? site item layer area))) = _
  rw [resolved]
  show Except.ok (Inspection.ofOption (violation? site item layer area entry)) = _
  rw [violation?, minimum]
  show Except.ok (Inspection.ofOption (if least ≤ area then none else _)) = _
  rw [if_neg exceeds]
  rfl

/-- An area is found that is less than the minimum that counts for it. -/
theorem exists_mem_foundOn (member : item ∈ site.design.items)
    (counts : entry.rule.severity ≠ .ignore) :
    ∃ violation ∈ check.foundOn site, violation.items = [item.id] := by
  have found := inspect_of_exceeds measured resolved minimum exceeds
  obtain ⟨entries, listed, known⟩ := Catalog.mem_of_resolve resolved
  have inspects := Judges.minArea.exists_inspected rfl
    (Site.answers_of_entries listed (List.ne_nil_of_mem known))
  obtain ⟨index, there⟩ := List.mem_iff_getElem?.mp member
  refine ⟨site.violation entry (message area least) (some layer) item.box? [item.id], ?_, rfl⟩
  rw [Judges.minArea.foundOn_eq, mem_counted_iff]
  exact ⟨mem_foundFrom (fun _ => inspects) there found (List.mem_singleton_self _), counts⟩

end Areas

/-- **A rectangle whose corners are exchanged on one axis is too small** for any positive minimum, if
they were in order before. -/
theorem exists_mem_foundOn_of_exchanged {site : Site Float} {item : Item Float}
    {rectangle : Rectangle Float} (shape : item.shape = .rectangle rectangle)
    (ordered : rectangle.IsOrdered) {axis : Axis} (member : item.exchanged axis ∈ site.design.items)
    {entry : Entry Float} {least : Float}
    (resolved : site.resolve .minArea (item.exchanged axis) none (some rectangle.layer) =
      .ok (some entry))
    (minimum : entry.constraint.min? = some least) (positive : 0.0 < least)
    (counts : entry.rule.severity ≠ .ignore) :
    ∃ violation ∈ check.foundOn site, violation.items = [item.id] := by
  have measured : measured? (item.exchanged axis).shape =
      some (rectangle.layer, (rectangle.exchanged axis).area) := by
    rw [Item.exchanged, shape]
    cases axis <;> rfl
  have exceeds : ¬ least ≤ (rectangle.exchanged axis).area := fun reached =>
    ordered.exchanged_area axis
      (Decimal.lt_of_lt_of_le_of_number (Decimal.numbers_of_le reached).2 positive reached)
  obtain ⟨violation, found, items⟩ :=
    exists_mem_foundOn measured resolved minimum exceeds member counts
  exact ⟨violation, found, items⟩

end MinArea

namespace Design

/-- **Corners are read as they are written.** Let two texts write a design alike, but exchange the
coordinates of the corners of one rectangle on one axis. What is read from the second text is what
is read from the first, with the coordinates exchanged; it is refused exactly if the first one is.
The box of the rectangle stays the same if and only if the two coordinates coincide, and then the
whole design does. If the corners are in order in the first text, the extents and the area of the
rectangle are not negative there; exchanged, its area is below any positive minimum, and where such
a one counts for it, the check of areas reports it. -/
theorem corners_are_read_as_written {text text' : String} {json json' : Json}
    (parsed : Json.ofText? text = some json) (parsed' : Json.ofText? text' = some json')
    {place : Nat} {axis : Axis} (written : WrittenExchanged place axis json json') :
    ofText text' = (ofText text).map (exchangedAt place axis) ∧
      ∀ design, ofText text = .ok design →
        ∃ item rectangle, design.items[place]? = some item ∧ item.shape = .rectangle rectangle ∧
          ((rectangle.exchanged axis).box = rectangle.box ↔
            (rectangle.ends axis).1 = (rectangle.ends axis).2) ∧
          ((rectangle.ends axis).1 = (rectangle.ends axis).2 →
            design.exchangedAt place axis = design) ∧
          (rectangle.IsOrdered →
            (¬ rectangle.width < 0.0 ∧ ¬ rectangle.height < 0.0 ∧ ¬ rectangle.area < 0.0) ∧
            ∀ site : Site Float, site.design = design.exchangedAt place axis →
              ∀ entry least,
                site.resolve .minArea (item.exchanged axis) none (some rectangle.layer) =
                  .ok (some entry) →
                entry.constraint.min? = some least → 0.0 < least →
                entry.rule.severity ≠ .ignore →
                ∃ violation ∈ MinArea.check.foundOn site, violation.items = [item.id]) := by
  refine ⟨ofText_of_writtenExchanged parsed parsed' written, fun design loaded => ?_⟩
  obtain ⟨item, rectangle, listed, shape⟩ :=
    written.exists_rectangle (ofJson?_of_ofText parsed loaded)
  refine ⟨item, rectangle, listed, shape, rectangle.box_exchanged_eq_iff axis, fun flat => ?_,
    fun ordered => ⟨ordered.extents, fun site sited entry least resolved minimum positive counts =>
      ?_⟩⟩
  · refine exchangedAt_eq_self listed ?_
    rw [Item.exchanged, shape, Shape.exchanged, Rectangle.exchanged_eq_self flat, ← shape]
  · have member : item.exchanged axis ∈ site.design.items := by
      rw [sited]
      refine List.mem_iff_getElem?.mpr ⟨place, ?_⟩
      rw [exchangedAt, List.getElem?_modify_eq, listed]
      rfl
    exact MinArea.exists_mem_foundOn_of_exchanged shape ordered member resolved minimum positive
      counts

/-- A plate with a number, a millimetre high. -/
def plate (number : Nat) (left right : Float) : Item Float :=
  { id := .numbered number, shape := .rectangle ⟨0, ⟨left, 0.0⟩, ⟨right, 1000000.0⟩⟩ }

/-- Two plates of one square millimetre, a tenth of a millimetre apart. -/
def twoPlates : Design Float :=
  { id := .nil
    name := "two plates"
    stack := ⟨[⟨0, "F.Cu", .conductor, ""⟩]⟩
    items := [plate 0 0.0 1000000.0, plate 1 1100000.0 2100000.0] }

/-- Rules that ask for half a square millimetre and a fifth of a millimetre. -/
def broadAndApart : String :=
  "(rule broad (constraint min_area (min 0.5mm)))" ++
    "(rule apart (constraint clearance (min 0.2mm)))"

theorem readsBack_twoPlates : ∀ x ∈ twoPlates.numbers, Json.ReadsBack x := by decide +kernel

theorem readsBack_exchanged :
    ∀ x ∈ (twoPlates.exchangedAt 0 .x).numbers, Json.ReadsBack x := by decide +kernel

theorem ofText_twoPlates : ofText twoPlates.text = .ok twoPlates := by
  rw [ofText_text_eq_validate readsBack_twoPlates]
  decide +kernel

theorem ofText_exchanged : ofText (twoPlates.exchangedAt 0 .x).text =
    .ok (twoPlates.exchangedAt 0 .x) := by
  rw [ofText_text_eq_validate readsBack_exchanged]
  decide +kernel

theorem writtenExchanged_twoPlates :
    WrittenExchanged 0 .x twoPlates.toJson (twoPlates.exchangedAt 0 .x).toJson :=
  writtenExchanged_toJson rfl rfl .x

/-- The site of the check of areas on the two plates, the corners of the first of which are
exchanged. -/
def plateSite : Site Float :=
  siteFor (rulesOf (some broadAndApart)) [MinArea.check] {} (twoPlates.exchangedAt 0 .x) "min_area"

/-- The first plate is in order; the check of areas reports it where its corners are exchanged. -/
theorem corners_are_read_as_written_of_two_plates :
    ofText (twoPlates.exchangedAt 0 .x).text = .ok (twoPlates.exchangedAt 0 .x) ∧
      ∃ violation ∈ MinArea.check.foundOn plateSite, violation.items = [.numbered 0] := by
  obtain ⟨read, loaded⟩ := corners_are_read_as_written
    (Json.ofText?_pretty twoPlates.writable_toJson)
    (Json.ofText?_pretty (twoPlates.exchangedAt 0 .x).writable_toJson) writtenExchanged_twoPlates
  obtain ⟨item, rectangle, listed, shape, -, -, inOrder⟩ := loaded twoPlates ofText_twoPlates
  obtain rfl := Option.some.inj listed
  obtain rfl := Shape.rectangle.inj shape
  obtain ⟨-, reported⟩ := inOrder ⟨by decide +kernel, by decide +kernel⟩
  refine ⟨read.trans (congrArg _ ofText_twoPlates), ?_⟩
  have counts : (plateSite.resolve .minArea ((plate 0 0.0 1000000.0).exchanged .x) none (some 0)).map
      (fun found => found.map fun entry => (entry.constraint.min?, entry.rule.severity)) =
        .ok (some (some 500000000000.0, .error)) := by decide +kernel
  obtain ⟨found, resolved, answer⟩ := map_eq_ok_iff.mp counts
  obtain ⟨entry, rfl, both⟩ := Option.map_eq_some_iff.mp answer
  obtain ⟨minimum, severity⟩ := Prod.mk.inj both
  exact reported plateSite rfl entry 500000000000.0 resolved minimum (by decide +kernel)
    (by rw [severity]; decide)

/-- **The order of the corners changes what is reported.** Corners that are not in order are
accepted, the area of such a rectangle can be negative, and exchanging two coordinates in the text
of a design can change the violations of areas and distances. -/
theorem exchanged_corners_change_report :
    (¬ ∀ (text : String) (design : Design Float), ofText text = .ok design →
      ∀ item ∈ design.items, ∀ rectangle, item.shape = .rectangle rectangle →
        rectangle.IsOrdered) ∧
    (¬ ∀ (text : String) (design : Design Float), ofText text = .ok design →
      ∀ item ∈ design.items, ∀ rectangle, item.shape = .rectangle rectangle →
        ¬ rectangle.area < 0.0) ∧
    ¬ ∀ (rules text text' : String) (json json' : Json) (place : Nat) (axis : Axis)
      (design design' : Design Float), Json.ofText? text = some json →
        Json.ofText? text' = some json' → WrittenExchanged place axis json json' →
          ofText text = .ok design → ofText text' = .ok design' →
            ((fresh {} [Clearance.check, MinArea.check] (some rules)).run
                design').2.report.violations.map Violation.check =
              ((fresh {} [Clearance.check, MinArea.check] (some rules)).run
                design).2.report.violations.map Violation.check := by
  refine ⟨fun claim => ?_, fun claim => ?_, fun claim => ?_⟩
  · have ordered := claim _ _ ofText_exchanged _ List.mem_cons_self _ rfl
    exact absurd ordered.x (by decide +kernel)
  · have broad := claim _ _ ofText_exchanged _ List.mem_cons_self _ rfl
    exact broad (by decide +kernel)
  · have same := claim broadAndApart _ _ _ _ 0 .x _ _
      (Json.ofText?_pretty twoPlates.writable_toJson)
      (Json.ofText?_pretty (twoPlates.exchangedAt 0 .x).writable_toJson)
      writtenExchanged_twoPlates ofText_twoPlates ofText_exchanged
    have before : ((fresh {} [Clearance.check, MinArea.check] (some broadAndApart)).run
        twoPlates).2.report.violations.map Violation.check = ["clearance"] := by decide +kernel
    have after : ((fresh {} [Clearance.check, MinArea.check] (some broadAndApart)).run
        (twoPlates.exchangedAt 0 .x)).2.report.violations.map Violation.check =
          ["min_area"] := by decide +kernel
    rw [before, after] at same
    exact absurd same (by decide)

end Design

end DesignRules
