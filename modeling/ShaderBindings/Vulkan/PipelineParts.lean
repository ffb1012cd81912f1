import ShaderBindings.Text.Lines
import ShaderBindings.Vulkan.Device
/-!
# Parts of a pipeline

The descriptor set layouts, the pipeline layout and the shader modules a pipeline is made from. They
are created together and destroyed together.

## Main definitions

* `ShaderBindings.Vulkan.PipelineParts` - the handles.
* `PipelineParts.create` - creates the parts; after a failure, destroys those that were created.
* `PipelineParts.destroyCalls` - the calls that destroy the parts.
-/

set_option autoImplicit false

namespace ShaderBindings.Vulkan

/-- The bindings of a descriptor set with the given number. -/
structure SetBindings where
  set : Nat
  bindings : List LayoutBinding
deriving DecidableEq, Repr

/-- Handles of the objects a pipeline is made from. A set without bindings has a layout as well, so
that the place in the list is the number of the set. -/
structure PipelineParts where
  setLayouts : List Nat := []
  /-- The pipeline layout; zero if there is none. -/
  layout : Nat := 0
  modules : List Nat := []
deriving DecidableEq, Repr

/-- One more than the largest number among the sets, each successor being a word. It is formed for
every set in order, so the first one without a successor is reported. -/
def setCount (sets : List SetBindings) : Except WordOp Nat :=
  sets.foldlM (fun n s => do return max n (← Word.add s.set 1)) 0

/-- The bindings of the set with the given number: those of the first entry for it, or none. Later
entries for the set are passed over. -/
def bindingsOf (sets : List SetBindings) (set : Nat) : List LayoutBinding :=
  ((sets.find? (·.set == set)).map (·.bindings)).getD []

namespace PipelineParts

/-- The calls that destroy the parts: the modules, the pipeline layout, the set layouts. It is the
reverse order of their creation, kind by kind; within a kind the order is that of creation. -/
def destroyCalls (p : PipelineParts) : List DeviceCall :=
  p.modules.map .destroyShaderModule ++
    (if p.layout = 0 then [] else [.destroyPipelineLayout p.layout]) ++
    p.setLayouts.map .destroySetLayout

/-- Gives up after a failure: destroys the parts that were created. The parts have to be those
created so far, with zero in place of a layout that is not there yet. -/
def abandon (p : PipelineParts) (code : Int) (d : Device) : Except Int PipelineParts × Device :=
  (.error code, d.record p.destroyCalls)

/-- Creates the parts on a device: a set layout for each number below `count`, a pipeline layout
over all of them, and a shader module for each code. -/
def createOn (d : Device) (count : Nat) (sets : List SetBindings) (ranges : List ConstantRange)
    (code : List (List UInt32)) : Except Int PipelineParts × Device :=
  let (setLayouts, fault, d) :=
    d.createFrom (fun set => .createSetLayout (bindingsOf sets set)) 0 count
  match fault with
  | some fault => abandon { setLayouts } fault d
  | none =>
    match d.create (.createPipelineLayout setLayouts ranges) with
    | (.error fault, d) => abandon { setLayouts } fault d
    | (.ok layout, d) =>
      let (modules, fault, d) := d.createEach (code.map fun words => .createShaderModule words)
      match fault with
      | some fault => abandon { setLayouts, layout, modules } fault d
      | none => (.ok { setLayouts, layout, modules }, d)

/-- Creates the parts on a device. Set numbers that are left out get an empty layout. -/
def create (d : Device) (sets : List SetBindings) (ranges : List ConstantRange)
    (code : List (List UInt32)) : Except WordOp (Except Int PipelineParts × Device) := do
  let count ← setCount sets
  return createOn d count sets ranges code

/-- The handles in hexadecimal digits. -/
def handleText (handle : Nat) : String := "0x" ++ Text.hex handle

/-- The parts as text, on the device of the given handle. -/
def describe (p : PipelineParts) (device : Nat) : String :=
  let handles (hs : List Nat) := s!"[{Text.commas (hs.map handleText)}]"
  "PipelineParts \x7b " ++
    Text.commas
      [s!"device: {handleText device}", s!"set_layouts: {handles p.setLayouts}",
       s!"layout: {handleText p.layout}", s!"modules: {handles p.modules}"] ++
    " \x7d"

end PipelineParts

end ShaderBindings.Vulkan
