import ShaderBindings.Source.Descriptors
/-!
# Printed components

The type that owns the set layouts, the pipeline layout and the shader modules of a program.

## Main definitions

* `Program.componentsLines` - the type with its functions.
-/

set_option autoImplicit false

namespace ShaderBindings

open Text

namespace Program

/-- The descriptor counts of a set as parameters of the whole program. -/
def setCounts (set : Nat) (table : SetTable) : List String :=
  (runtimeCounts table).map fun count => s!"set{set}_{count}"

/-- The parameters needed to create the components: code that is not embedded, and descriptor
counts. -/
def createParams (p : Program) (options : Options) : List String :=
  ["device: &ash::Device"] ++
    (if options.source then [] else p.stages.map fun s => s!"{s.ident}_code: &[u32]") ++
    p.sets.entries.flatMap fun (set, table) =>
      (setCounts set table).map fun count => s!"{count}: u32"

/-- The function that creates the components. It takes the words of the stages only if they are not
embedded, and a number for each binding whose number of descriptors is not fixed. -/
def createLines (p : Program) (options : Options) : List String :=
  let params := commas (p.createParams options)
  let layouts := p.sets.entries.map fun (set, table) =>
    s!"let set{set} = {setLayoutName set}({commas (setCounts set table)});"
  let sets := commas (p.sets.keys.map fun set => s!"({set}, &set{set}[..])")
  let push := if p.hasPushConstants then "&push_constant_ranges()" else "&[]"
  let code := commas (p.stages.map fun s =>
    if options.source then s!"&{codeName s.ident}[..]" else s!"{s.ident}_code")
  braced s!"pub unsafe fn new({params}) -> ash::prelude::VkResult<Self>"
    (layouts ++
      bracketed s!"let parts = {runtimeCrate}::PipelineParts::new("
        ["device,", s!"&[{sets}],", s!"{push},", s!"&[{code}],"] ")?;" ++
      ["Ok(Self \x7b parts \x7d)"]) ""

/-- The functions that give the shader modules. They are called like the stages, and they count on
the modules being created in the order of the stages. -/
def moduleLines (p : Program) : List String :=
  p.stages.zipIdx.flatMap fun (s, index) =>
    "" :: braced s!"pub fn {s.ident}(&self) -> vk::ShaderModule"
      [s!"self.parts.modules()[{index}]"] ""

/-- The entry of a stage in the creation of a pipeline. -/
def stageEntryLines (s : ProgramStage) : List String :=
  braced s!"{runtimeCrate}::StageEntry"
    ["stage: " ++ stageFlags {s.stage} ++ ",",
     s!"module: self.{s.ident}(),",
     s!"entry: {quote s.entry},"] ","

/-- Whether the pipeline reads vertex attributes. A compute pipeline reads none, whatever vertex
struct is declared. -/
def readsVertices (p : Program) : Bool := p.hasVertexInput && !p.isCompute

/-- The vertex input in the creation of a pipeline. -/
def vertexLines : List String :=
  ["let bindings = vertex_binding_descriptions();",
   "let attributes = vertex_attribute_descriptions();"] ++
    braced s!"let vertex = {runtimeCrate}::VertexInput"
      ["bindings: &bindings,", "attributes: &attributes,"] ";"

/-- The function that creates a pipeline. It describes the stages and the vertex data and leaves all
else to the runtime part. -/
def createPipeLines (p : Program) : List String :=
  let vertex := if p.readsVertices then "Some(&vertex)" else "None"
  [s!"pub unsafe fn create_pipe(&self, options: &{runtimeCrate}::PipeOptions) ->",
   tab ++ "ash::prelude::VkResult<vk::Pipeline>"] ++
    bracketed "\x7b"
      (bracketed "let stages = [" (p.stages.flatMap stageEntryLines) "];" ++
        (if p.readsVertices then vertexLines else []) ++
        [s!"{runtimeCrate}::create_pipe(self.parts.device(), self.layout(), &stages, {vertex}, " ++
          "options)"]) "\x7d"

/-- The type that owns what the program is made of. Its functions hand out handles of the set
layouts, the layout and the modules, which the parts inside destroy in the end. -/
def componentsLines (p : Program) (options : Options) : List String :=
  ["#[derive(Debug)]"] ++
    braced "pub struct Components" [s!"parts: {runtimeCrate}::PipelineParts,"] "" ++
    [""] ++
    braced "impl Components"
      (p.createLines options ++
        [""] ++
        braced "pub fn set_layouts(&self) -> &[vk::DescriptorSetLayout]"
          ["self.parts.set_layouts()"] "" ++
        [""] ++
        braced "pub fn layout(&self) -> vk::PipelineLayout" ["self.parts.layout()"] "" ++
        p.moduleLines ++
        [""] ++
        p.createPipeLines) ""

end Program

end ShaderBindings
