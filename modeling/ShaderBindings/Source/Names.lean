import ShaderBindings.Program.Build
import ShaderBindings.Text.Lines
/-!
# Names in printed source

## Main definitions

* `ShaderBindings.namedBindings` - the bindings of a set, each with the name its functions carry.
* `ShaderBindings.setterNames` - the names of the functions that set specialization constants.
* `ShaderBindings.codeName` - the name of the embedded words of a stage.
* `ShaderBindings.stageFlags` - a set of stages as an expression.
-/

set_option autoImplicit false

namespace ShaderBindings

/-- The crate the printed source builds on. -/
def runtimeCrate : String := "autoshader_runtime"

/-- The result of a function that writes into storage of fixed capacity. -/
def writeResult : String := s!"Result<&mut Self, {runtimeCrate}::WriterOverflow>"

/-- A set of stages as an expression. Stages unknown to the graphics interface are left out, and a
set of none is spelled out as an empty one. -/
def stageFlags (stages : StageSet) : String :=
  match stages.toList.filterMap Stage.vkName? with
  | [] => "vk::ShaderStageFlags::empty()"
  | names => " | ".intercalate (names.map fun name => s!"vk::ShaderStageFlags::{name}")

/-- The name of the embedded words of a stage. It is in upper case, as names of constants are. -/
def codeName (ident : String) : String := s!"{Text.upper ident}_CODE"

/-! ## Bindings of a set -/

/-- A binding with its number and the name its functions carry. -/
structure NamedBinding where
  number : Nat
  name : String
  binding : Binding
deriving DecidableEq

namespace NamedBinding

/-- The name of a binding before clashes are looked at: its own, or one made from its number. Two
bindings can have the same one. -/
def baseName (number : Nat) (b : Binding) : String :=
  if b.name.isEmpty then s!"binding{number}" else Text.sanitize b.name

/-- Names bindings in order. A name used before gets the number of the binding. The name so made is
not looked up again, so it can be that of another binding. -/
def ofEntries (used : List String) : List (Nat × Binding) → List NamedBinding
  | [] => []
  | (number, binding) :: rest =>
    let base := baseName number binding
    let name := if base ∈ used then s!"{base}_{number}" else base
    { number, name, binding } :: ofEntries (name :: used) rest

/-- The parameter for a number of descriptors that is fixed when the program runs. -/
def countName (b : NamedBinding) : String := s!"{b.name}_count"

/-- The number of descriptors as an expression. -/
def count (b : NamedBinding) : String :=
  if b.binding.isRuntimeArray then b.countName else s!"{b.binding.arraySize}"

/-- The descriptor type as an expression. -/
def typeExpr (b : NamedBinding) : String := s!"vk::DescriptorType::{b.binding.kind.vkName}"

end NamedBinding

/-- The bindings of a set, each with the name its functions carry. -/
def namedBindings (table : SetTable) : List NamedBinding :=
  NamedBinding.ofEntries [] table.entries

/-- The descriptor counts that the functions of a set have to be told. They are named after the
bindings, so they differ if the names of the bindings do. -/
def runtimeCounts (table : SetTable) : List String :=
  ((namedBindings table).filter (·.binding.isRuntimeArray)).map (·.countName)

/-! ## Setters -/

/-- Names setters in order. A name used before gets the id of the constant. As with bindings, the
name so made is not looked up again. -/
def setterNamesAfter (used : List String) : List SpecEntry → List (String × SpecEntry)
  | [] => []
  | spec :: rest =>
    let base := s!"set_{Text.sanitize spec.name}"
    let name := if base ∈ used then s!"{base}_{spec.constantId}" else base
    (name, spec) :: setterNamesAfter (name :: used) rest

/-- The constants with the names of their setters. -/
def setterNames (specs : List SpecEntry) : List (String × SpecEntry) := setterNamesAfter [] specs

end ShaderBindings
