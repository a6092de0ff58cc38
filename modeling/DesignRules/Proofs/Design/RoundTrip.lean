/-
**A design is read back as it was written.**

* `Design.numbers`: the numbers of a design.
* `Point.ofJson?_toJson`, `Shape.ofJson?_toJson`, `Item.ofJson?_toJson`, `Layer.ofJson?_toJson`: its
  parts, from the inside out.
* `Design.ofJson?_toJson`, `Design.writable_toJson`: whole designs as values.
* `Design.ofText_text_eq_validate`, `Design.ofText_text`: whole designs as texts.
-/

import DesignRules.Proofs.Identity

namespace DesignRules

open Json (ReadsBack Writable fields?_record mapFrom?_map nullable?_orNull required? toFloat?_ofFloat
  toIndexedList? toList?_array toText?_text withDefault? writable_array_map writable_ofFloat
  writable_ofNat writable_orNull writable_record)

/-! ### Layers of a technology -/

theorem layerIdOfJson?_toJson (layer : LayerId) :
    layerIdOfJson? (layerIdToJson layer) = some layer := by
  have bounded : layer.toNat ≤ UInt32.size - 1 := Nat.le_pred_of_lt layer.toNat_lt
  rw [layerIdOfJson?, layerIdToJson, Json.toNatUpTo?_ofNat bounded, Option.map_some,
    UInt32.ofNat_toNat]

theorem writable_layerIdToJson (layer : LayerId) : (layerIdToJson layer).Writable :=
  writable_ofNat layer.toNat

namespace Layer

theorem ofJson?_toJson (layer : Layer) : ofJson? layer.toJson = some layer := by
  obtain ⟨id, name, kind, description⟩ := layer
  have named : Json.oneOf? LayerKind.names (.text kind.name) = some kind := by
    cases kind <;> decide
  rw [ofJson?, toJson, fields?_record (by rfl) (by decide)]
  simp [required?, withDefault?, layerIdOfJson?_toJson, toText?_text, named]

theorem writable_toJson (layer : Layer) : layer.toJson.Writable := by
  refine writable_record ?_
  simp [writable_layerIdToJson, Writable.text]

end Layer

namespace LayerStack

theorem ofJson?_toJson (stack : LayerStack) : ofJson? stack.toJson = some stack := by
  have layers := toList?_array fun layer (_ : layer ∈ stack.layers) => layer.ofJson?_toJson
  rw [ofJson?, toJson, fields?_record (by rfl) (by decide)]
  simp [required?, layers]

theorem writable_toJson (stack : LayerStack) : stack.toJson.Writable := by
  have layers : (Json.array (stack.layers.map Layer.toJson)).Writable :=
    writable_array_map fun layer _ => layer.writable_toJson
  exact writable_record (List.forall_mem_singleton.mpr layers)

end LayerStack

/-! ### Geometry -/

namespace Point

/-- The numbers of a point. -/
def numbers (point : Point Float) : List Float := [point.x, point.y]

theorem ofJson?_toJson {point : Point Float} (back : ∀ x ∈ point.numbers, ReadsBack x) :
    ofJson? point.toJson = some point := by
  have x := toFloat?_ofFloat (back point.x (by simp [numbers]))
  have y := toFloat?_ofFloat (back point.y (by simp [numbers]))
  rw [ofJson?, toJson, fields?_record (by rfl) (by decide)]
  simp [required?, x, y]

theorem writable_toJson (point : Point Float) : point.toJson.Writable := by
  refine writable_record ?_
  simp [writable_ofFloat]

/-- Points in a list. -/
theorem ofJson?_toJson_of_mem {points : List (Point Float)}
    (back : ∀ x ∈ points.flatMap numbers, ReadsBack x) :
    ∀ point ∈ points, ofJson? point.toJson = some point := by
  intro point listed
  exact ofJson?_toJson fun x member => back x (List.mem_flatMap.mpr ⟨point, listed, member⟩)

theorem writable_map_toJson (points : List (Point Float)) :
    (Json.array (points.map toJson)).Writable :=
  writable_array_map fun point _ => point.writable_toJson

end Point

namespace Rectangle

/-- The numbers of a rectangle. -/
def numbers (shape : Rectangle Float) : List Float :=
  shape.lowerLeft.numbers ++ shape.upperRight.numbers

theorem ofJson?_toJson {shape : Rectangle Float} (back : ∀ x ∈ shape.numbers, ReadsBack x) :
    ofJson? shape.toJson = some shape := by
  obtain ⟨lower, upper⟩ := List.forall_mem_append.mp back
  have lowerLeft := Point.ofJson?_toJson lower
  have upperRight := Point.ofJson?_toJson upper
  rw [ofJson?, toJson, fields?_record (by rfl) (by decide)]
  simp [required?, layerIdOfJson?_toJson, lowerLeft, upperRight]

theorem writable_toJson (shape : Rectangle Float) : shape.toJson.Writable := by
  refine writable_record ?_
  simp [writable_layerIdToJson, Point.writable_toJson]

end Rectangle

namespace Polygon

/-- The numbers of a polygon. -/
def numbers (shape : Polygon Float) : List Float := shape.vertices.flatMap Point.numbers

theorem ofJson?_toJson {shape : Polygon Float} (back : ∀ x ∈ shape.numbers, ReadsBack x) :
    ofJson? shape.toJson = some shape := by
  have vertices := toList?_array (Point.ofJson?_toJson_of_mem back)
  rw [ofJson?, toJson, fields?_record (by rfl) (by decide)]
  simp [required?, layerIdOfJson?_toJson, vertices]

theorem writable_toJson (shape : Polygon Float) : shape.toJson.Writable := by
  refine writable_record ?_
  simp [writable_layerIdToJson, Point.writable_map_toJson]

end Polygon

namespace Path

/-- The numbers of a path. -/
def numbers (shape : Path Float) : List Float :=
  shape.points.flatMap Point.numbers ++ [shape.width]

theorem ofJson?_toJson {shape : Path Float} (back : ∀ x ∈ shape.numbers, ReadsBack x) :
    ofJson? shape.toJson = some shape := by
  obtain ⟨along, across⟩ := List.forall_mem_append.mp back
  have points := toList?_array (Point.ofJson?_toJson_of_mem along)
  have width := toFloat?_ofFloat (List.forall_mem_singleton.mp across)
  rw [ofJson?, toJson, fields?_record (by rfl) (by decide)]
  simp [required?, layerIdOfJson?_toJson, points, width]

theorem writable_toJson (shape : Path Float) : shape.toJson.Writable := by
  refine writable_record ?_
  simp [writable_layerIdToJson, Point.writable_map_toJson, writable_ofFloat]

end Path

namespace Via

/-- The numbers of a via. -/
def numbers (shape : Via Float) : List Float :=
  shape.position.numbers ++ [shape.width, shape.height]

theorem ofJson?_toJson {shape : Via Float} (back : ∀ x ∈ shape.numbers, ReadsBack x) :
    ofJson? shape.toJson = some shape := by
  obtain ⟨centre, size⟩ := List.forall_mem_append.mp back
  have position := Point.ofJson?_toJson centre
  have width := toFloat?_ofFloat (size shape.width (by simp))
  have height := toFloat?_ofFloat (size shape.height (by simp))
  rw [ofJson?, toJson, fields?_record (by rfl) (by decide)]
  simp [required?, layerIdOfJson?_toJson, position, width, height]

theorem writable_toJson (shape : Via Float) : shape.toJson.Writable := by
  refine writable_record ?_
  simp [writable_layerIdToJson, Point.writable_toJson, writable_ofFloat]

end Via

namespace Shape

/-- The numbers of a shape. -/
def numbers : Shape Float → List Float
  | .rectangle shape => shape.numbers
  | .polygon shape => shape.numbers
  | .path shape => shape.numbers
  | .via shape => shape.numbers

theorem ofJson?_toJson {shape : Shape Float} (back : ∀ x ∈ shape.numbers, ReadsBack x) :
    ofJson? shape.toJson = some shape := by
  cases shape with
  | rectangle shape => exact congrArg (Option.map Shape.rectangle) (Rectangle.ofJson?_toJson back)
  | polygon shape => exact congrArg (Option.map Shape.polygon) (Polygon.ofJson?_toJson back)
  | path shape => exact congrArg (Option.map Shape.path) (Path.ofJson?_toJson back)
  | via shape => exact congrArg (Option.map Shape.via) (Via.ofJson?_toJson back)

theorem writable_toJson (shape : Shape Float) : shape.toJson.Writable := by
  cases shape with
  | rectangle shape => exact writable_record (List.forall_mem_singleton.mpr shape.writable_toJson)
  | polygon shape => exact writable_record (List.forall_mem_singleton.mpr shape.writable_toJson)
  | path shape => exact writable_record (List.forall_mem_singleton.mpr shape.writable_toJson)
  | via shape => exact writable_record (List.forall_mem_singleton.mpr shape.writable_toJson)

end Shape

/-! ### Items and designs -/

namespace Item

/-- The numbers of an item. -/
def numbers (item : Item Float) : List Float := item.shape.numbers

/-- An item is read back at any position, since it gives its identity. -/
theorem ofJson?_toJson {item : Item Float} (back : ∀ x ∈ item.numbers, ReadsBack x)
    (position : Nat) : ofJson? position item.toJson = some item := by
  have shape := Shape.ofJson?_toJson back
  have text (content? : Option String) :
      Json.nullable? Json.toText? (Json.orNull .text content?) = some content? :=
    nullable?_orNull content? (fun content _ => toText?_text content) fun _ => nofun
  rw [ofJson?, toJson, fields?_record (by rfl) (by decide)]
  simp [required?, withDefault?, Identity.ofJson?_toJson, toText?_text, text, shape]

theorem writable_toJson (item : Item Float) : item.toJson.Writable := by
  refine writable_record ?_
  simp [Identity.writable_toJson, Writable.text, writable_orNull, Shape.writable_toJson]

end Item

namespace Design

/-- The numbers of a design. -/
def numbers (design : Design Float) : List Float := design.items.flatMap Item.numbers

/-- **A design is read back from its JSON value.** -/
theorem ofJson?_toJson {design : Design Float} (back : ∀ x ∈ design.numbers, ReadsBack x) :
    ofJson? design.toJson = some design := by
  have items : toIndexedList? Item.ofJson? (.array (design.items.map Item.toJson)) =
      some design.items :=
    mapFrom?_map (fun item listed => Item.ofJson?_toJson fun x member =>
      back x (List.mem_flatMap.mpr ⟨item, listed, member⟩)) 0
  rw [ofJson?, toJson, fields?_record (by rfl) (by decide)]
  simp [required?, withDefault?, Identity.ofJson?_toJson, toText?_text,
    LayerStack.ofJson?_toJson, items]

theorem writable_toJson (design : Design Float) : design.toJson.Writable := by
  have items : (Json.array (design.items.map Item.toJson)).Writable :=
    writable_array_map fun item _ => item.writable_toJson
  refine writable_record ?_
  simp [Identity.writable_toJson, Writable.text, LayerStack.writable_toJson, items]

/-- Reading the text of a design comes down to validating the design. -/
theorem ofText_text_eq_validate {design : Design Float}
    (back : ∀ x ∈ design.numbers, ReadsBack x) :
    ofText design.text = design.validate.map fun _ => design := by
  have parsed : Json.ofText? design.text = some design.toJson :=
    Json.ofText?_pretty design.writable_toJson
  rw [ofText, parsed]
  show ofJson design.toJson = _
  rw [ofJson, ofJson?_toJson back]

/-- **A design is read back from its text.** A design whose items lie on layers that it has, and
whose numbers are finite, is read back with all that it holds, if the text of each of its numbers
reads back as that number. -/
theorem ofText_text (design : Design Float) (finite : ∀ x ∈ design.numbers, x.isFinite = true)
    (back : ∀ x ∈ design.numbers, x.isFinite = true → ReadsBack x)
    (valid : design.validate = .ok ()) : ofText design.text = .ok design := by
  have read := ofText_text_eq_validate fun x member => back x member (finite x member)
  rw [read, valid]
  rfl

/-- A design with a shape of each kind. Identities and layers repeat, nets and classes are absent,
empty and given, and the texts hold quotes, control characters and characters of four bytes. -/
def fourShapes : Design Float where
  id := .numbered 7
  name := "carrier \"Ω\" \\ 𝄞\n"
  stack :=
    ⟨[⟨0, "F.Cu", .conductor, "the \t front"⟩, ⟨31, "", .cut, ""⟩,
      ⟨4294967295, "B.Cu", .marker, "裏"⟩, ⟨0, "F.Cu", .dielectric, "unreachable"⟩]⟩
  items :=
    [{ id := .nil, net := some "GND", shape := .rectangle ⟨0, ⟨-0.0, 0.1⟩, ⟨-2.5, 1e300⟩⟩ },
      { id := .numbered 1, name := "\u0000\u001f\u007f",
        shape := .polygon ⟨4294967295, [⟨0.0, 0.0⟩, ⟨1.5, 0.0⟩, ⟨0.0, 1e-7⟩]⟩ },
      { id := .nil, name := "/", netClass := some "", shape := .path ⟨31, [], 0.25⟩ },
      { id := .numbered 2, net := some "", netClass := some "HV",
        shape := .via ⟨0, 4294967295, 31, ⟨123456.75, -3.0⟩, 0.6, 0.3⟩ }]

theorem ofText_text_of_four_shapes :
    (∀ x ∈ fourShapes.numbers, x.isFinite = true) ∧
      (∀ x ∈ fourShapes.numbers, x.isFinite = true → ReadsBack x) ∧
        fourShapes.validate = .ok () ∧ ofText fourShapes.text = .ok fourShapes := by
  have finite : ∀ x ∈ fourShapes.numbers, x.isFinite = true := by decide +kernel
  have back : ∀ x ∈ fourShapes.numbers, x.isFinite = true → ReadsBack x := by decide +kernel
  have valid : fourShapes.validate = .ok () := by decide +kernel
  exact ⟨finite, back, valid, ofText_text fourShapes finite back valid⟩

end Design

end DesignRules
