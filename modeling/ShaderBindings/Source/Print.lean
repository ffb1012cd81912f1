import ShaderBindings.Source.Components
import ShaderBindings.Source.Memory
import ShaderBindings.Source.Stages
/-!
# Printed source

## Main definitions

* `Program.sections` - the parts of the source, in order.
* `Program.print` - the source of a program.
* `ShaderBindings.generate` - the source for a list of modules.
-/

set_option autoImplicit false

namespace ShaderBindings

open Text

/-- The first line of all printed source. -/
def headerLine : String := "// Generated by autoshader. Do not edit."

/-- What the source imports. -/
def importLines : List String :=
  ["#[allow(unused_imports)]",
   "use " ++ runtimeCrate ++ "::ash::\x7bself, vk\x7d;",
   "#[allow(unused_imports)]",
   "use " ++ runtimeCrate ++ "::Padded;"]

namespace Program

/-- The declarations of the program, part by part. Blank lines between them are put in when they are
joined. Only push constants can fail. -/
def sections (p : Program) (options : Options) : Result (List (List String)) := do
  let push ← if p.hasPushConstants then List.singleton <$> pushRangeLines p.pushRanges else .ok []
  return p.structs.map (·.lines) ++
    (p.vertex.map (·.lines)).toList ++
    (p.sets.entries.flatMap fun (set, table) =>
      [setLayoutLines set table, setWriterLines set table]) ++
    push ++
    (p.stages.filter (!·.specializations.isEmpty)).map (·.specializerLines) ++
    (if options.source then p.stages.map (·.codeLines) else []) ++
    [p.componentsLines options]

/-- Lines inside nested modules, given outermost first. Every module moves the lines one step to the
right; names of modules are spelled as identifiers. -/
def nest (modules : List String) (lines : List String) : List String :=
  modules.foldr (fun name body => braced s!"pub mod {identifier name}" body "") lines

/-- The source of a program. Line breaks inside names break the lines they stand in, so each line is
split before it is moved to the right. -/
def print (p : Program) (options : Options) : Result String := do
  let sections ← p.sections options
  let body := importLines ++ sections.flatMap ("" :: ·)
  return unlines (headerLine :: nest options.modules (body.flatMap splitLines))

end Program

/-- The source for a list of modules. -/
def generate (options : Options) (modules : List ShaderModule) : Result String := do
  let program ← build options modules
  program.print options

end ShaderBindings
