import ShaderBindings.Shader.Module
/-!
# Descriptor sets

The descriptor bindings of all stages, merged into one table per set. Stages may share a binding if
they agree on what it holds.

## Main definitions

* `ShaderBindings.Binding`, `DescriptorSets` - a binding, and the bindings by set and number.
* `Binding.merge` - one binding for two declarations, or how they differ.
* `ShaderBindings.aggregate` - the sets of all modules.
-/

set_option autoImplicit false

namespace ShaderBindings

/-- What the stages declare at one place of a descriptor set. Kind, number and shape are the same in
all stages that declare it; stages and name are gathered from all of them. -/
structure Binding where
  kind : DescriptorKind
  /-- The number of descriptors; zero if it is fixed when the program runs. -/
  arraySize : Nat
  dim : Option ImageDim
  stages : StageSet
  name : String
deriving DecidableEq

namespace Binding

/-- Whether the number of descriptors is fixed when the program runs. The printed functions take a
parameter for it then. -/
def isRuntimeArray (b : Binding) : Bool := b.arraySize == 0

/-- The binding as a single resource declares it. Only the outermost extent of an array counts as
the number of descriptors; what is not an array is one descriptor. -/
def ofResource (stage : Stage) (kind : DescriptorKind) (r : Resource) : Binding where
  kind := kind
  arraySize := r.ty.outerExtent?.getD 1
  dim := r.ty.base.imageDim?
  stages := {stage}
  name := r.name

/-- The binding for two declarations of it: both agree on what it holds, it is used by the stages of
both, and the first name that is not empty is kept. -/
def merge (declared found : Binding) : Except ConflictCause Binding :=
  if declared.kind ≠ found.kind then .error (.kind declared.kind found.kind)
  else if declared.dim ≠ found.dim then .error (.dim declared.dim found.dim)
  else if declared.arraySize ≠ found.arraySize then
    .error (.arraySize declared.arraySize found.arraySize)
  else
    .ok { declared with
      stages := declared.stages ∪ found.stages
      name := if declared.name.isEmpty then found.name else declared.name }

end Binding

/-- The bindings of one set by number. -/
abbrev SetTable := Table Binding

/-- The sets by number. -/
abbrev DescriptorSets := Table SetTable

namespace DescriptorSets

/-- The binding at a place. -/
def at? (sets : DescriptorSets) (set binding : Nat) : Option Binding :=
  (sets.get? set).bind (·.get? binding)

/-- Puts a binding at a place. A set comes into being with its first binding. -/
def put (sets : DescriptorSets) (set binding : Nat) (b : Binding) : DescriptorSets :=
  sets.insert set (((sets.get? set).getD ∅).insert binding b)

/-- Adds what a stage declares through one resource. A failure names the stage of this resource, not
those that have declared the binding before. -/
def add (stage : Stage) (sets : DescriptorSets) (d : DescriptorKind × Resource) :
    Result DescriptorSets :=
  let (kind, r) := d
  let found := Binding.ofResource stage kind r
  match sets.at? r.set r.binding with
  | none => .ok (sets.put r.set r.binding found)
  | some declared =>
    match declared.merge found with
    | .ok b => .ok (sets.put r.set r.binding b)
    | .error cause => .error (.bindingConflict r.set r.binding stage cause)

end DescriptorSets

/-- The descriptor sets of all modules, each given with its stage. Modules are gone through in
order, and in each the kinds in the order of `DescriptorKind.all`; the first clash ends the walk. -/
def aggregate (modules : List (Stage × ShaderModule)) : Result DescriptorSets :=
  modules.foldlM (fun sets (stage, m) =>
    m.resources.descriptors.foldlM (DescriptorSets.add stage) sets) ∅

end ShaderBindings
