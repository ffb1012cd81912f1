import ShaderBindings.Source.Names
/-!
# Printed descriptor sets

For each set the bindings of its layout, and a type that fills sets of that layout.

## Main definitions

* `ShaderBindings.setLayoutLines` - the layout bindings of a set.
* `ShaderBindings.setWriterLines` - the type that fills sets.
-/

set_option autoImplicit false

namespace ShaderBindings

open Text

/-- The function that lists the layout bindings of a set. -/
def setLayoutName (set : Nat) : String := s!"descriptor_set{set}_layout_bindings"

/-- The layout binding. -/
def NamedBinding.layoutLines (b : NamedBinding) : List String :=
  braced "vk::DescriptorSetLayoutBinding"
    [s!"binding: {b.number},",
     s!"descriptor_type: {b.typeExpr},",
     s!"descriptor_count: {b.count},",
     s!"stage_flags: {stageFlags b.binding.stages},",
     "p_immutable_samplers: std::ptr::null(),"] ","

/-- The layout bindings of a set. The function takes a number for each binding whose number of
descriptors is fixed only when the program runs. -/
def setLayoutLines (set : Nat) (table : SetTable) : List String :=
  let params := commas ((runtimeCounts table).map fun count => s!"{count}: u32")
  braced
    (s!"pub fn {setLayoutName set}({params}) -> " ++
      s!"[vk::DescriptorSetLayoutBinding; {table.size}]")
    (bracketed "[" ((namedBindings table).flatMap (·.layoutLines)) "]") ""

/-- What the function that fills a binding of the kind takes. Kinds that are filled alike take the
same, so there are four lists for six kinds. -/
def DescriptorKind.params : DescriptorKind → String
  | .uniformBuffer | .storageBuffer =>
    "buffer: vk::Buffer, offset: vk::DeviceSize, range: vk::DeviceSize"
  | .combinedImageSampler =>
    "sampler: vk::Sampler, view: vk::ImageView, layout: vk::ImageLayout"
  | .sampledImage | .storageImage => "view: vk::ImageView, layout: vk::ImageLayout"
  | .sampler => "sampler: vk::Sampler"

/-- The operation that fills a binding of the kind. -/
def DescriptorKind.operation : DescriptorKind → String
  | .uniformBuffer | .storageBuffer => "write_buffer"
  | _ => "write_image"

/-- What the operation is handed besides the binding and its type. The operations for images take a
sampler and a view, and what a kind lacks is filled in. -/
def DescriptorKind.arguments : DescriptorKind → String
  | .uniformBuffer | .storageBuffer => "buffer, offset, range"
  | .combinedImageSampler => "sampler, view, layout"
  | .sampledImage | .storageImage => "vk::Sampler::null(), view, layout"
  | .sampler => "sampler, vk::ImageView::null(), vk::ImageLayout::UNDEFINED"

/-- The function that fills a binding. -/
def NamedBinding.setterLines (b : NamedBinding) : List String :=
  let kind := b.binding.kind
  braced s!"pub fn set_{b.name}(&mut self, {kind.params}) -> {writeResult}"
    [s!"self.inner.{kind.operation}({b.number}, {b.typeExpr}, {kind.arguments})?;",
     "Ok(self)"] ""

/-- The type that fills sets of the given number. It keeps a queue of writes; each of its functions
adds one write for one binding. -/
def setWriterLines (set : Nat) (table : SetTable) : List String :=
  let bindings := namedBindings table
  let writer := writerName set
  let params := commas
    ("set: vk::DescriptorSet" :: (runtimeCounts table).map fun count => s!"{count}: u32")
  let counts := commas (bindings.map fun b => s!"({b.number}, {b.count})")
  ["#[derive(Debug)]"] ++
    braced s!"pub struct {writer}" [s!"inner: {runtimeCrate}::DescriptorWriter,"] "" ++
    [""] ++
    braced s!"impl {writer}"
      (braced s!"pub fn new({params}) -> Self"
          [s!"let bindings = [{counts}];",
           s!"Self \x7b inner: {runtimeCrate}::DescriptorWriter::new(set, &bindings) \x7d"] "" ++
        (bindings.flatMap fun b => "" :: b.setterLines) ++
        [""] ++
        braced "pub fn clear(&mut self)" ["self.inner.clear();"] "" ++
        [""] ++
        braced "pub unsafe fn update(&self, device: &ash::Device)"
          ["self.inner.update(device);"] "") ""

end ShaderBindings
