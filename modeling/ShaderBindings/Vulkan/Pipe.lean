import ShaderBindings.Vulkan.Binary32
import ShaderBindings.Vulkan.Device
/-!
# Creating pipelines

Creates a compute pipeline from a lone compute stage, and a graphics pipeline from anything else.

## Main definitions

* `ShaderBindings.Vulkan.PipeOptions` - the fixed state of a pipeline, with
  `PipeOptions.specialize`.
* `ShaderBindings.Vulkan.createPipe` - creates a pipeline on a device.
-/

set_option autoImplicit false

namespace ShaderBindings.Vulkan

/-- A stage with the entry point to use. -/
structure StageEntry where
  stage : Nat
  module : Nat
  entry : String
deriving DecidableEq, Repr

/-- The vertex data of a pipeline. -/
structure VertexState where
  bindings : List VertexBinding := []
  attributes : List VertexElement := []
deriving DecidableEq, Repr

/-- Blending by the alpha of the new color, which is not multiplied in yet. -/
def alphaBlend : Blend where
  enable := 1
  srcColor := 6
  dstColor := 7
  colorOp := 0
  srcAlpha := 1
  dstAlpha := 0
  alphaOp := 0
  writeMask := 0xf

/-- The fixed state of a pipeline. Compute pipelines use the flags, the cache and the
specializations only. -/
structure PipeOptions where
  renderPass : Nat := 0
  subpass : Nat := 0
  /-- Triangle strips. -/
  topology : Int := 4
  primitiveRestart : Bool := false
  patchControlPoints : Option Nat := none
  /-- Width and height of the viewport and the scissor. -/
  extent : Nat × Nat := (0, 0)
  polygonMode : Int := 0
  cullMode : Nat := 0
  /-- Clockwise. -/
  frontFace : Int := 1
  lineWidth : Nat := binary32One
  samples : Nat := 1
  depthTest : Bool := true
  depthWrite : Bool := true
  /-- Less. -/
  depthCompareOp : Int := 1
  blend : List Blend := [alphaBlend]
  dynamicStates : List Int := []
  flags : Nat := 0
  cache : Nat := 0
  /-- Specialization data by the bits of the stage. -/
  specializations : List (Nat × SpecInfo) := []
deriving DecidableEq

namespace PipeOptions

/-- Sets the specialization data of a stage, in place of what was set before. Stages are compared as
masks, so data for two stages together is data of neither. -/
def specialize (o : PipeOptions) (stage : Nat) (info : SpecInfo) : PipeOptions :=
  { o with specializations := o.specializations.filter (·.1 != stage) ++ [(stage, info)] }

/-- The specialization data of a stage. -/
def specialization? (o : PipeOptions) (stage : Nat) : Option SpecInfo :=
  (o.specializations.find? (·.1 == stage)).map (·.2)

/-- The viewport: the whole extent, at all depths. The extent is a number of pixels, which is
rounded to the nearest floating-point number. -/
def viewport (o : PipeOptions) : Viewport where
  x := 0
  y := 0
  width := binary32 o.extent.1
  height := binary32 o.extent.2
  minDepth := 0
  maxDepth := binary32One

/-- The scissor: the whole extent. -/
def scissor (o : PipeOptions) : Rect :=
  { x := 0, y := 0, width := o.extent.1, height := o.extent.2 }

end PipeOptions

/-- The stage as it is handed to the device. Constants that were not set for the stage keep the
values the shader declares. -/
def StageEntry.info (s : StageEntry) (o : PipeOptions) : StageInfo where
  stage := s.stage
  module := s.module
  name := s.entry
  specialization := o.specialization? s.stage

/-- Whether the text can be passed on as a name that ends at the first zero character. The empty
text can. -/
def isPlainName (name : String) : Bool := !name.toList.contains '\x00'

/-- The graphics pipeline of the stages. Nothing is checked here: what does not fit together is for
the device to refuse. -/
def graphicsInfo (layout : Nat) (stages : List StageInfo) (vertex : VertexState)
    (o : PipeOptions) : GraphicsInfo where
  cache := o.cache
  flags := o.flags
  stages := stages
  vertexBindings := vertex.bindings
  vertexAttributes := vertex.attributes
  topology := o.topology
  primitiveRestart := o.primitiveRestart
  patchControlPoints := o.patchControlPoints
  viewports := [o.viewport]
  scissors := [o.scissor]
  polygonMode := o.polygonMode
  cullMode := o.cullMode
  frontFace := o.frontFace
  lineWidth := o.lineWidth
  samples := o.samples
  depthTest := o.depthTest
  depthWrite := o.depthWrite
  depthCompareOp := o.depthCompareOp
  blend := o.blend
  dynamicStates := if o.dynamicStates.isEmpty then none else some o.dynamicStates
  layout := layout
  renderPass := o.renderPass
  subpass := o.subpass

/-- The failure to make anything of the arguments. -/
def initializationFailed : Int := -3

/-- The bit of the compute stage. -/
def computeBit : Nat := Stage.compute.bit

/-- Creates a pipeline on a device. No call is made if a name cannot be passed on.

The pipeline is a compute pipeline exactly if there is one stage and that is a compute stage. In all
other cases, that without stages included, a graphics pipeline is asked for. -/
def createPipe (d : Device) (layout : Nat) (stages : List StageEntry) (vertex : VertexState)
    (o : PipeOptions) : Outcome × Device :=
  if stages.any fun s => !isPlainName s.entry then (.error initializationFailed, d)
  else
    let graphics := fun infos =>
      d.create (.createGraphicsPipeline (graphicsInfo layout infos vertex o))
    match stages.map (·.info o) with
    | [stage] =>
      if stage.stage = computeBit then
        d.create (.createComputePipeline { cache := o.cache, flags := o.flags, stage, layout })
      else graphics [stage]
    | infos => graphics infos

end ShaderBindings.Vulkan
