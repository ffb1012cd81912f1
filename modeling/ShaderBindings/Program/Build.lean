import ShaderBindings.Interface.PushConstants
import ShaderBindings.Interface.Specialization
import ShaderBindings.Interface.VertexInput
import ShaderBindings.Program.Names
import ShaderBindings.Struct.Naming
/-!
# Programs

The shader modules that make up a pipeline, put together: every declaration that the printed source
holds, in the order in which it is printed.

## Main definitions

* `ShaderBindings.StageModule` - a module with its stage, its short name and the names of its
  structs.
* `ShaderBindings.stageModules` - names the modules of a program and their structs.
* `ShaderBindings.Program` - what is printed.
* `ShaderBindings.build` - the program of a list of modules.
-/

set_option autoImplicit false

namespace ShaderBindings

/-- A module of a program. It keeps the module it is made from, from which all that is printed of
the stage is taken later. -/
structure StageModule where
  module : ShaderModule
  stage : Stage
  /-- The name of the entry point. -/
  entry : String
  /-- The short name, unique in the program. -/
  ident : String
  structs : ModuleStructs
deriving DecidableEq

/-- The module with the final names of its structs. -/
def StageModule.layout (s : StageModule) : Layout :=
  { module := s.module, names := s.structs.names }

/-- The entry point of the module at a place of the input. Kernels belong to no pipeline. A module
does not know its place, so the failure that it has no entry point is given the place here. -/
def ShaderModule.pipelineEntry (m : ShaderModule) (index : Nat) : Result EntryPoint :=
  match m.entryPoint with
  | .error (.missingEntryPoint _) => .error (.missingEntryPoint index)
  | .error e => .error e
  | .ok entry =>
    if entry.stage.vkName?.isSome then .ok entry else .error (.unsupportedStage entry.stage.label)

/-- Finds the entry points of the modules, names the modules, then names their structs. The entry
points of all modules are found before any struct is looked at. -/
def stageModules (options : Options) (modules : List ShaderModule) : Result (List StageModule) := do
  let entries ← modules.zipIdx.mapM fun (m, i) => m.pipelineEntry i
  let named := (shortNames (entries.map (·.stage))).zip modules
  let structs ← nameStructs named (reservedNames options named)
  return (named.zip (entries.zip structs)).map fun ((ident, module), entry, structs) =>
    { module, stage := entry.stage, entry := entry.name, ident, structs }

/-- What is printed of a stage. Its structs are not among it: they belong to the program, since
stages share them. -/
structure ProgramStage where
  ident : String
  stage : Stage
  entry : String
  specializations : List SpecEntry
  code : List UInt32
deriving DecidableEq, Repr

/-- Everything that is printed. All numbers and names are settled; what is left to printing is how
they are spelled. -/
structure Program where
  structs : List StructDecl := []
  vertex : Option VertexInput := none
  sets : DescriptorSets := ∅
  pushRanges : List PushRange := []
  stages : List ProgramStage := []
deriving DecidableEq

namespace Program

/-- Whether vertex attributes are declared. -/
def hasVertexInput (p : Program) : Bool := p.vertex.isSome

/-- Whether push constants are declared. -/
def hasPushConstants (p : Program) : Bool := !p.pushRanges.isEmpty

/-- Whether the pipeline is a compute pipeline. A program of several stages is none, even if one of
them is a compute stage. -/
def isCompute (p : Program) : Bool := p.stages.map (·.stage) == [.compute]

end Program

namespace StageModule

/-- The declarations of the structs the module declares. They are laid out by this module, with the
names that the structs have in the program. -/
def declarations (s : StageModule) : Result (List StructDecl) :=
  s.structs.emit.mapM fun id => do s.layout.declaration (← s.module.struct id)

/-- The vertex struct of the first vertex module, if it is wanted. Other vertex modules are not even
looked at, and without a vertex module there is no such struct. -/
def vertexInput? (options : Options) (stages : List StageModule) : Result (Option VertexInput) :=
  if options.vertex then
    match stages.find? (·.stage == .vertex) with
    | some s => s.module.vertexInput? options.vertexName
    | none => .ok none
  else .ok none

/-- What is printed of the module itself. It can fail for the constants only, since all else is
known. -/
def programStage (s : StageModule) : Result ProgramStage := do
  let specializations ← s.module.specializations
  return { ident := s.ident, stage := s.stage, entry := s.entry, specializations,
           code := s.module.code }

end StageModule

/-- Everything that is printed for a list of modules. If several parts cannot be made, the failure
is that of the first one in this order: names, structs, vertex, sets, push constants, stages. -/
def build (options : Options) (modules : List ShaderModule) : Result Program := do
  let all ← stageModules options modules
  let structs ← all.mapM StageModule.declarations
  let vertex ← StageModule.vertexInput? options all
  let sets ← aggregate (all.map fun s => (s.stage, s.module))
  let pushRanges ← pushRanges (all.map fun s => (s.stage, s.layout))
  let stages ← all.mapM StageModule.programStage
  return { structs := structs.flatten, vertex, sets, pushRanges, stages }

end ShaderBindings
