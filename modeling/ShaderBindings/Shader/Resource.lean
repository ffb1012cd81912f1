import ShaderBindings.Shader.Type
/-!
# Structs and resources

What a reflected module declares: structs with laid out members, and resources, each in the list of
its class.

## Main definitions

* `ShaderBindings.Member`, `StructType` - a struct with its declared offsets and strides.
* `ShaderBindings.ResourceClass`, `Resource`, `Resources` - the resources by class.
* `ShaderBindings.DescriptorKind` - the classes that are bound through descriptor sets.
* `ShaderBindings.SpecConstant`, `WorkGroupSize` - specialization constants.
-/

set_option autoImplicit false

namespace ShaderBindings

/-- A member of a struct, with its place as the shader declares it. Strides are those that the
module states, and they may be missing although the type needs them. -/
structure Member where
  name : String
  ty : ShaderType
  /-- The byte at which the member starts. -/
  offset : Nat
  /-- The distance between the columns of a matrix. -/
  matrixStride : Option Nat := none
  /-- The distance between the elements of the outermost array dimension. -/
  arrayStride : Option Nat := none
  rowMajor : Bool := false
deriving DecidableEq, Repr

/-- A struct of a shader. The declared size need not be a multiple of the alignment, and whether the
members stand within it is asked only when the struct is laid out. -/
structure StructType where
  id : Nat
  name : String
  /-- The declared size in bytes. -/
  size : Nat
  members : List Member
deriving DecidableEq, Repr

/-- The first member with the given name. -/
def StructType.member? (st : StructType) (name : String) : Option Member :=
  st.members.find? (·.name == name)

/-- A variable through which a shader is connected to the program. Set and binding are zero and the
name is empty where the shader gives none; a location that is not given is none. -/
structure Resource where
  ty : ShaderType
  id : Nat := 0
  /-- The id of the type below all arrays. -/
  baseType : Nat := 0
  name : String := ""
  set : Nat := 0
  binding : Nat := 0
  location : Option Nat := none
deriving DecidableEq, Repr

/-- The classes of resources. Stage inputs and outputs and push constants have no descriptors, so
only the other six have a `DescriptorKind`. -/
inductive ResourceClass where
  | uniformBuffer
  | storageBuffer
  | pushConstantBlock
  | storageImage
  | combinedImageSampler
  | sampledImage
  | separateSampler
  | stageInput
  | stageOutput
deriving DecidableEq, Repr

/-- What a descriptor binding holds. -/
inductive DescriptorKind where
  | uniformBuffer
  | storageBuffer
  | storageImage
  | combinedImageSampler
  | sampledImage
  | sampler
deriving DecidableEq, Repr

namespace DescriptorKind

/-- The kinds in the order in which a module's descriptors are gone through. -/
def all : List DescriptorKind :=
  [uniformBuffer, storageBuffer, storageImage, combinedImageSampler, sampledImage, sampler]

/-- The kind in words. -/
def label : DescriptorKind → String
  | uniformBuffer => "uniform buffer"
  | storageBuffer => "storage buffer"
  | storageImage => "storage image"
  | combinedImageSampler => "combined image sampler"
  | sampledImage => "sampled image"
  | sampler => "sampler"

/-- The name of the kind in the graphics interface. -/
def vkName : DescriptorKind → String
  | uniformBuffer => "UNIFORM_BUFFER"
  | storageBuffer => "STORAGE_BUFFER"
  | storageImage => "STORAGE_IMAGE"
  | combinedImageSampler => "COMBINED_IMAGE_SAMPLER"
  | sampledImage => "SAMPLED_IMAGE"
  | sampler => "SAMPLER"

/-- Whether the binding holds a buffer. -/
def isBuffer : DescriptorKind → Bool
  | uniformBuffer | storageBuffer => true
  | _ => false

end DescriptorKind

/-- The resources of a module, in the order of their declaration within each class. The order
between two classes is not kept. -/
structure Resources where
  uniformBuffers : List Resource := []
  storageBuffers : List Resource := []
  pushConstantBlocks : List Resource := []
  storageImages : List Resource := []
  combinedImageSamplers : List Resource := []
  sampledImages : List Resource := []
  separateSamplers : List Resource := []
  stageInputs : List Resource := []
  stageOutputs : List Resource := []
deriving DecidableEq, Repr

namespace Resources

/-- The resources of one class. -/
def ofClass (r : Resources) : ResourceClass → List Resource
  | .uniformBuffer => r.uniformBuffers
  | .storageBuffer => r.storageBuffers
  | .pushConstantBlock => r.pushConstantBlocks
  | .storageImage => r.storageImages
  | .combinedImageSampler => r.combinedImageSamplers
  | .sampledImage => r.sampledImages
  | .separateSampler => r.separateSamplers
  | .stageInput => r.stageInputs
  | .stageOutput => r.stageOutputs

/-- Sorts classified resources into their lists. Within a class they stay in order, and none is left
out, see `Resources.ofClass_ofList`. -/
def ofList (classified : List (ResourceClass × Resource)) : Resources :=
  let pick (c : ResourceClass) := (classified.filter (·.1 == c)).map (·.2)
  { uniformBuffers := pick .uniformBuffer
    storageBuffers := pick .storageBuffer
    pushConstantBlocks := pick .pushConstantBlock
    storageImages := pick .storageImage
    combinedImageSamplers := pick .combinedImageSampler
    sampledImages := pick .sampledImage
    separateSamplers := pick .separateSampler
    stageInputs := pick .stageInput
    stageOutputs := pick .stageOutput }

/-- The descriptors of one kind. -/
def ofKind (r : Resources) : DescriptorKind → List Resource
  | .uniformBuffer => r.uniformBuffers
  | .storageBuffer => r.storageBuffers
  | .storageImage => r.storageImages
  | .combinedImageSampler => r.combinedImageSamplers
  | .sampledImage => r.sampledImages
  | .sampler => r.separateSamplers

/-- The resources whose type is a block of laid out memory. Blocks of push constants are among them,
though they are bound in another way. -/
def bufferBlocks (r : Resources) : List Resource :=
  r.uniformBuffers ++ r.storageBuffers ++ r.pushConstantBlocks

/-- The resources bound through descriptor sets, each with its kind. They come kind by kind, and
within a kind in the order of their declaration. -/
def descriptors (r : Resources) : List (DescriptorKind × Resource) :=
  DescriptorKind.all.flatMap fun kind => (r.ofKind kind).map (kind, ·)

end Resources

/-- A constant whose value is fixed when a pipeline is made. It is set by `constantId`; the other id
is that of its value in the module, which tells the parts of a work group size. -/
structure SpecConstant where
  constantId : Nat
  id : Nat := 0
  name : String := ""
  ty : ShaderType
deriving DecidableEq, Repr

/-- The specialization constants that give the size of a work group. -/
structure WorkGroupSize where
  x : Option SpecConstant := none
  y : Option SpecConstant := none
  z : Option SpecConstant := none
deriving DecidableEq, Repr

/-- The constants that are present, each under the name of its dimension. The name that the shader
gives them is not used. -/
def WorkGroupSize.components (w : WorkGroupSize) : List (String × SpecConstant) :=
  (w.x.map (("WorkGroupSizeX", ·))).toList ++ (w.y.map (("WorkGroupSizeY", ·))).toList ++
    (w.z.map (("WorkGroupSizeZ", ·))).toList

end ShaderBindings
