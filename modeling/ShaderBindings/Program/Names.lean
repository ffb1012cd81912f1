import ShaderBindings.Ascending
import ShaderBindings.Interface.Descriptors
import ShaderBindings.Shader.Module
import ShaderBindings.Text.Identifier
/-!
# Names of a program

The stages of a program are told apart by short names, and the printed source declares some types of
its own. No buffer struct may take the name of one of them.

## Main definitions

* `ShaderBindings.shortNames` - a short name for each stage of a program.
* `ShaderBindings.writerName`, `specializerName` - types of the printed source.
* `ShaderBindings.Options` - what to print.
* `ShaderBindings.reservedNames` - the names that are taken.
-/

set_option autoImplicit false

namespace ShaderBindings

/-- What to print. The defaults are those of the command; a program that has no vertex stage has no
vertex struct, whatever is asked for. -/
structure Options where
  /-- The name of the vertex struct. -/
  vertexName : String := "Vertex"
  /-- Whether to print the vertex struct. -/
  vertex : Bool := true
  /-- Whether to embed the words of the modules. -/
  source : Bool := true
  /-- The modules to put the source into, outermost first. -/
  modules : List String := []
deriving DecidableEq, Repr

/-- The short name of a stage that has come up `repeats` times before. -/
def shortName (stage : Stage) (repeats : Nat) : String :=
  if repeats = 0 then stage.shortName else s!"{stage.shortName}_{repeats}"

/-- The short names of stages that follow those already seen. Only stages of the same kind count, so
a number says how many of them stand in front. -/
def shortNamesAfter (seen : List Stage) : List Stage → List String
  | [] => []
  | stage :: stages => shortName stage (seen.count stage) :: shortNamesAfter (stage :: seen) stages

/-- A short name for each stage of a program; a stage that comes up again gets a number. -/
def shortNames (stages : List Stage) : List String := shortNamesAfter [] stages

/-- The type that fills descriptor sets of the given number. -/
def writerName (set : Nat) : String := s!"DescriptorSet{set}Writer"

/-- The type that collects the specialization constants of a stage. -/
def specializerName (ident : String) : String := s!"{Text.typeName ident}Specializer"

/-- The descriptor sets the modules use, in ascending order. Their numbers come from the resources
alone, before it is known whether the resources agree. -/
def usedSets (modules : List ShaderModule) : List Nat :=
  Ascending.ofList (modules.flatMap fun m => m.resources.descriptors.map (·.2.set))

/-- The names that the printed source declares or imports besides buffer structs. A stage reserves
the name of its specializer even if it has no constants to set. -/
def reservedNames (options : Options) (modules : List (String × ShaderModule)) : List String :=
  ["ash", "vk", "Padded", "Components"] ++
    (if options.vertex then [options.vertexName] else []) ++
    (usedSets (modules.map (·.2))).map writerName ++
    modules.map fun (ident, _) => specializerName ident

end ShaderBindings
