import ShaderBindings.Vulkan.Specializer
/-!
# Calls on a device

A device answers calls that create objects and calls that destroy them. Only the order of the calls
and their outcome matter here, so a device is the record of its calls together with a rule for the
outcome of each creation. Enumerated values, which can be negative, are integers; all else are
natural numbers.

## Main definitions

* `ShaderBindings.Vulkan.DeviceCall` - a call with its outcome.
* `ShaderBindings.Vulkan.Device` - a record of calls, with `Device.create`, `Device.createEach` and
  `Device.createFrom`.
-/

set_option autoImplicit false

namespace ShaderBindings.Vulkan

/-- The handle of a new object, or the code of a failure. -/
abbrev Outcome := Except Int Nat

/-- A binding in the layout of a descriptor set. -/
structure LayoutBinding where
  binding : Nat
  type : Int
  count : Nat
  stages : Nat
deriving DecidableEq, Repr

/-- A range of push constants. -/
structure ConstantRange where
  stages : Nat
  offset : Nat
  size : Nat
deriving DecidableEq, Repr

/-- A stage of a pipeline. The name is that of the entry point, and the module is known by the
handle of a shader module. -/
structure StageInfo where
  stage : Nat
  module : Nat
  name : String
  specialization : Option SpecInfo
deriving DecidableEq

/-- A binding of vertex data. -/
structure VertexBinding where
  binding : Nat
  stride : Nat
  rate : Int
deriving DecidableEq, Repr

/-- An attribute of vertex data. -/
structure VertexElement where
  location : Nat
  binding : Nat
  format : Int
  offset : Nat
deriving DecidableEq, Repr

/-- How a color is blended with the one that is there. -/
structure Blend where
  enable : Nat
  srcColor : Int
  dstColor : Int
  colorOp : Int
  srcAlpha : Int
  dstAlpha : Int
  alphaOp : Int
  writeMask : Nat
deriving DecidableEq, Repr

/-- The part of the target that is drawn to. Its numbers are floating-point numbers, and they are
kept by their bits. -/
structure Viewport where
  x : Nat
  y : Nat
  width : Nat
  height : Nat
  minDepth : Nat
  maxDepth : Nat
deriving DecidableEq, Repr

/-- A rectangle of pixels. -/
structure Rect where
  x : Int
  y : Int
  width : Nat
  height : Nat
deriving DecidableEq, Repr

/-- A compute pipeline to be created. -/
structure ComputeInfo where
  cache : Nat
  flags : Nat
  stage : StageInfo
  layout : Nat
deriving DecidableEq

/-- A graphics pipeline to be created. Fields that are the same for every pipeline made here are
left out. -/
structure GraphicsInfo where
  cache : Nat
  flags : Nat
  stages : List StageInfo
  vertexBindings : List VertexBinding
  vertexAttributes : List VertexElement
  topology : Int
  primitiveRestart : Bool
  patchControlPoints : Option Nat
  viewports : List Viewport
  scissors : List Rect
  polygonMode : Int
  cullMode : Nat
  frontFace : Int
  lineWidth : Nat
  samples : Nat
  depthTest : Bool
  depthWrite : Bool
  depthCompareOp : Int
  blend : List Blend
  /-- What is set while drawing, if anything is. -/
  dynamicStates : Option (List Int)
  layout : Nat
  renderPass : Nat
  subpass : Nat
deriving DecidableEq

/-- A call on a device; a creation with the answer to it. Calls are all that is kept of what happens
to a device, in the order in which they are made. -/
inductive DeviceCall where
  | createSetLayout (bindings : List LayoutBinding) (outcome : Outcome)
  | createPipelineLayout (setLayouts : List Nat) (ranges : List ConstantRange) (outcome : Outcome)
  | createShaderModule (code : List UInt32) (outcome : Outcome)
  | createComputePipeline (info : ComputeInfo) (outcome : Outcome)
  | createGraphicsPipeline (info : GraphicsInfo) (outcome : Outcome)
  | destroyShaderModule (handle : Nat)
  | destroyPipelineLayout (handle : Nat)
  | destroySetLayout (handle : Nat)

/-- A record of calls. A device answers each creation with the next handle, but for the one that is
set to fail. -/
structure Device where
  /-- The handles that creations return, by their numbers. -/
  handle : Nat → Nat := fun n => n
  /-- The number of the creation that fails, counting from one. -/
  failAt : Option Nat := none
  /-- The code of the failure. -/
  failCode : Int := -1
  /-- The number of creations so far. -/
  created : Nat := 0
  calls : Array DeviceCall := #[]

/-- What a creation that a device answers so comes to: a code of zero is that of success, but leaves
the caller with the handle of no object. -/
def settle : Outcome → Outcome
  | .error 0 => .ok 0
  | answer => answer

namespace Device

/-- The answer to the creation of the given number. -/
def answer (d : Device) (n : Nat) : Outcome :=
  if d.failAt = some n then .error d.failCode else .ok (d.handle n)

/-- Makes a call that creates an object. The call is recorded with its answer, also if the answer is
a failure. -/
def create (d : Device) (call : Outcome → DeviceCall) : Outcome × Device :=
  let n := d.created + 1
  let answer := d.answer n
  (settle answer, { d with created := n, calls := d.calls.push (call answer) })

/-- Makes calls that create objects, one after the other, until one fails. Returns the handles of
the objects created, and the code of the failure if there was one. -/
def createEach (d : Device) : List (Outcome → DeviceCall) → List Nat × Option Int × Device
  | [] => ([], none, d)
  | call :: rest =>
    match d.create call with
    | (.error code, d) => ([], some code, d)
    | (.ok handle, d) =>
      let (handles, fault, d) := d.createEach rest
      (handle :: handles, fault, d)

/-- Makes the given number of calls that create objects, counted from `next` on, until one fails.
No call behind the failure is put together. -/
def createFrom (d : Device) (call : Nat → Outcome → DeviceCall) (next : Nat) :
    Nat → List Nat × Option Int × Device
  | 0 => ([], none, d)
  | count + 1 =>
    match d.create (call next) with
    | (.error code, d) => ([], some code, d)
    | (.ok handle, d) =>
      let (handles, fault, d) := d.createFrom call (next + 1) count
      (handle :: handles, fault, d)

/-- Counting the calls comes to the same as listing them. -/
theorem createFrom_eq (d : Device) (call : Nat → Outcome → DeviceCall) (next count : Nat) :
    d.createFrom call next count = d.createEach ((List.range' next count).map call) := by
  induction count generalizing d next with
  | zero => rfl
  | succ count ih => simp only [createFrom, List.range'_succ, List.map_cons, createEach, ih]

/-- Makes calls that create nothing. -/
def record (d : Device) (calls : List DeviceCall) : Device := { d with calls := d.calls ++ calls }

end Device

end ShaderBindings.Vulkan
