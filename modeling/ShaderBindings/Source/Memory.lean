import ShaderBindings.Source.Names
/-!
# Printed structs

Buffer structs with a check of their size, the vertex struct with its descriptions, and
push-constant ranges.

## Main definitions

* `StructDecl.lines` - a buffer struct.
* `VertexInput.lines` - the vertex struct.
* `ShaderBindings.pushRangeLines` - the push-constant ranges.
-/

set_option autoImplicit false

namespace ShaderBindings

open Text

/-- What stands in front of a struct whose memory is shared with a device. -/
def memoryAttributes : List String := ["#[repr(C)]", "#[derive(Clone, Copy, Debug)]"]

/-- A buffer struct, and a check of its size. The check is made by the host compiler, so a layout
that is wrong does not go unnoticed. -/
def StructDecl.lines (d : StructDecl) : List String :=
  memoryAttributes ++
    braced s!"pub struct {d.name}" (d.fields.map fun f => s!"pub {f.text},") "" ++
    ["", s!"const _: () = assert!(std::mem::size_of::<{d.name}>() == {d.size});"]

/-! ## Vertex input -/

/-- The place of an attribute in the vertex struct as an expression. The name of the field is
spelled as in the declaration of the struct. -/
def VertexAttribute.place (a : VertexAttribute) (owner : String) : String :=
  let start := s!"{runtimeCrate}::offset_of!({owner}, {identifier a.field})"
  if a.offset = 0 then start else s!"({start} + {a.offset})"

/-- The description of an attribute. -/
def VertexAttribute.lines (a : VertexAttribute) (owner : String) : List String :=
  braced "vk::VertexInputAttributeDescription"
    [s!"location: {a.location},",
     "binding: 0,",
     s!"format: vk::Format::{a.format.text},",
     s!"offset: {a.place owner} as u32,"] ","

/-- The vertex struct, and the descriptions of its binding and its attributes. The numbers that
depend on where the fields stand are left to the host compiler: they are printed as expressions. -/
def VertexInput.lines (v : VertexInput) : List String :=
  memoryAttributes ++
    braced s!"pub struct {v.name}"
      (v.fields.map fun f => s!"pub {identifier f.name}: {f.type.text},") "" ++
    [""] ++
    braced
      "pub fn vertex_binding_descriptions() -> [vk::VertexInputBindingDescription; 1]"
      (braced "[vk::VertexInputBindingDescription"
        ["binding: 0,",
         s!"stride: std::mem::size_of::<{v.name}>() as u32,",
         "input_rate: vk::VertexInputRate::VERTEX,"] "]") "" ++
    [""] ++
    braced
      ("pub fn vertex_attribute_descriptions() -> " ++
        s!"[vk::VertexInputAttributeDescription; {v.attributes.length}]")
      (bracketed "[" (v.attributes.flatMap (·.lines v.name)) "]") ""

/-! ## Push constants -/

/-- A push-constant range. It is printed by its first byte and its size, and it fails if it ends in
front of its first byte, which no range of `mergeRanges` does. -/
def PushRange.lines (r : PushRange) : Result (List String) := do
  let size ← r.size
  return braced "vk::PushConstantRange"
    [s!"stage_flags: {stageFlags r.stages},",
     s!"offset: {r.start},",
     s!"size: {size},"] ","

/-- The push-constant ranges. -/
def pushRangeLines (ranges : List PushRange) : Result (List String) := do
  let items ← ranges.mapM PushRange.lines
  return braced s!"pub fn push_constant_ranges() -> [vk::PushConstantRange; {ranges.length}]"
    (bracketed "[" items.flatten "]") ""

end ShaderBindings
