import ShaderBindings.Ascending
import ShaderBindings.Struct.Reachable
import ShaderBindings.Struct.Signature
import ShaderBindings.Text.Fresh
import ShaderBindings.Text.Identifier
/-!
# Final names of structs

Structs of all modules are grouped by declared name and signature. Each group gets one final name
and one declaration, in the module where it is met first.

The name of a group is its declared name made an identifier. Where one declared name stands for
several groups, those of a single module carry the name of the module and those of a module with
several carry a number as well. A name that is taken in the end gets a further number.

## Main definitions

* `ShaderBindings.Occurrence`, `StructGroup` - structs of modules, and those that share a
  declaration.
* `StructGroup.proposals` - the names wanted for the groups of one declared name.
* `ShaderBindings.assignNames` - the names given.
* `ShaderBindings.nameStructs` - which structs each module declares, and how it calls them.
-/

set_option autoImplicit false

namespace ShaderBindings

/-- The structs a module contributes. A struct that an earlier module declares has a name here too,
but it is not in `emit`. -/
structure ModuleStructs where
  /-- The structs the module declares, contained ones first. -/
  emit : List Nat := []
  /-- The final name of every struct reachable in the module. -/
  names : NameMap := ∅
deriving DecidableEq

/-- A struct of a module, the modules counted from zero. The same struct of a shader occurs in each
module that was compiled with it, often under another id. -/
structure Occurrence where
  module : Nat
  id : Nat
  /-- The declared name. -/
  name : String
  signature : String
deriving DecidableEq, Repr

/-- The reachable structs of a module, contained ones first. Of all modules the signatures are
written before any name is given. -/
def occurrences (module : Nat) (m : ShaderModule) : Result (List Occurrence) := do
  let order ← m.reachable
  order.mapM fun id => do
    let st ← m.struct id
    let signature ← m.signature st
    return { module, id, name := st.name, signature }

/-- Structs of one declared name and one signature, in the order in which they are met. There is at
least one of them, which is why the first one stands apart. -/
structure StructGroup where
  first : Occurrence
  others : List Occurrence
deriving DecidableEq, Repr

namespace StructGroup

/-- All structs of the group. -/
def members (g : StructGroup) : List Occurrence := g.first :: g.others

/-- Whether structs of several modules belong to the group. The name of such a group never carries
the short name of a module. -/
def isShared (g : StructGroup) : Bool := g.others.any (·.module != g.first.module)

/-- The group of the occurrences with the given name and signature, if there are any. -/
def find? (all : List Occurrence) (name signature : String) : Option StructGroup :=
  match all.filter fun o => o.name == name && o.signature == signature with
  | [] => none
  | first :: others => some { first, others }

/-- The groups of one declared name, in the order of their signatures. -/
def ofName (all : List Occurrence) (name : String) : List StructGroup :=
  (Ascending.ofList ((all.filter (·.name == name)).map (·.signature))).filterMap (find? all name)

/-- The groups with the name wanted for each: the same for a single group, numbered for several.
Numbers start at zero here, whereas those of `candidate` start at one. -/
def numbered (base : String) (groups : List StructGroup) : List (String × StructGroup) :=
  if 1 < groups.length then groups.zipIdx.map fun (g, i) => (s!"{base}_{i}", g)
  else groups.map (base, ·)

/-- The names wanted for the groups of one declared name: first those shared between modules, then
those of each single module, which carry its name if they are not the only ones. -/
def proposals (idents : List String) (name : String) (groups : List StructGroup) :
    List (String × StructGroup) :=
  let stem := Text.sanitize name
  let shared := groups.filter (·.isShared)
  let single := groups.filter (!·.isShared)
  let owners := Ascending.ofList (single.map (·.first.module))
  let spaces := owners.length + (if shared.isEmpty then 0 else 1)
  numbered stem shared ++ owners.flatMap fun owner =>
    let ident := idents.getD owner ""
    let base := if 1 < spaces then s!"{stem}_{ident}" else stem
    numbered base (single.filter (·.first.module == owner))

end StructGroup

/-- The names tried for a group: the one wanted, then the same with a number. -/
def candidate (base : String) : Nat → String
  | 0 => base
  | n => s!"{base}_{n}"

/-- Gives each group the first name tried for it that is not taken. Names given before are taken for
the groups behind, so the order of the groups decides who gets a number. -/
def assignNames (taken : List String) : List (String × StructGroup) → List (String × StructGroup)
  | [] => []
  | (base, g) :: rest =>
    let name := candidate base (Text.firstFree (candidate base) taken 0)
    (name, g) :: assignNames (name :: taken) rest

/-- What one module declares, given its reachable structs and the names of all groups. A struct is
left to another declaration if it is not the first of its group. -/
def ModuleStructs.of (module : Nat) (order : List Nat) (named : List (String × StructGroup)) :
    ModuleStructs where
  emit := order.filter fun id =>
    !named.any fun (_, g) => g.others.any fun o => o.module == module && o.id == id
  names := .ofList <| named.flatMap fun (name, g) =>
    (g.members.filter (·.module == module)).map fun o => (o.id, name)

/-- Names the reachable structs of all modules, each module given with the short name that its own
structs carry where needed. No struct gets a reserved name. -/
def nameStructs (modules : List (String × ShaderModule)) (reserved : List String) :
    Result (List ModuleStructs) := do
  let found ← modules.zipIdx.mapM fun ((_, m), i) => occurrences i m
  let all := found.flatten
  let names := Ascending.ofList (all.map (·.name))
  let wanted := names.flatMap fun name =>
    StructGroup.proposals (modules.map (·.1)) name (StructGroup.ofName all name)
  let named := assignNames reserved wanted
  return found.zipIdx.map fun (os, i) => .of i (os.map (·.id)) named

end ShaderBindings
