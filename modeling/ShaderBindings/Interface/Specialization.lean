import ShaderBindings.Shader.Module
/-!
# Specialization constants

The constants of a module that a host can set when it makes a pipeline: those with a name, and those
that give the size of a work group.

## Main definitions

* `ShaderBindings.SpecKind` - the types a settable constant can have.
* `ShaderModule.specializations` - the settable constants by id.
-/

set_option autoImplicit false

namespace ShaderBindings

/-- The type of a settable constant. These are the host scalars, but a truth value is passed on as a
word here, so the kinds are a type of their own. -/
inductive SpecKind where
  | bool
  | i32
  | u32
  | f32
  | i64
  | u64
  | f64
deriving DecidableEq, Repr

namespace SpecKind

/-- The kinds. -/
def all : List SpecKind := [bool, i32, u32, f32, i64, u64, f64]

/-- The host type of the value. -/
def typeName : SpecKind → String
  | bool => "bool"
  | i32 => "i32"
  | u32 => "u32"
  | f32 => "f32"
  | i64 => "i64"
  | u64 => "u64"
  | f64 => "f64"

/-- The operation that stores a value of the kind. -/
def setter (k : SpecKind) : String := s!"set_{k.typeName}"

/-- The kind of a constant of the type. That the type is a single value is asked first, then of what
it is made. -/
def ofType (context : String) (t : ShaderType) : Result SpecKind :=
  if t.components ≠ 1 ∨ t.columns ≠ 1 ∨ t.isArray then
    .error (.unsupportedType context .compositeConstant)
  else
    match t.base with
    | .boolean => .ok bool
    | .integer 32 true => .ok i32
    | .integer 32 false => .ok u32
    | .integer 64 true => .ok i64
    | .integer 64 false => .ok u64
    | .float 32 => .ok f32
    | .float 64 => .ok f64
    | base => .error (.unsupportedType context (.constantType base))

end SpecKind

/-- A settable constant. -/
structure SpecEntry where
  constantId : Nat
  name : String
  kind : SpecKind
deriving DecidableEq, Repr

namespace ShaderModule

/-- The constants that can be set, each under its name: those with a name of their own, then those
of the work group size. -/
def specCandidates (m : ShaderModule) : List (String × SpecConstant) :=
  ((m.specConstants.filter (!·.name.isEmpty)).map fun c => (c.name, c)) ++
    m.workGroupSize.components

/-- Adds a constant, unless its id is taken already. A constant whose id is taken is not looked at
any further: it may have a type that could not be set. -/
def addSpec (entries : Table SpecEntry) (candidate : String × SpecConstant) :
    Result (Table SpecEntry) :=
  let (name, c) := candidate
  match entries.get? c.constantId with
  | some _ => .ok entries
  | none => do
    let kind ← SpecKind.ofType name c.ty
    return entries.insert c.constantId { constantId := c.constantId, name, kind }

/-- The settable constants in the order of their ids, the first candidate of each. Constants with a
name come before the dimensions of the work group, so a name of a shader wins. -/
def specializations (m : ShaderModule) : Result (List SpecEntry) :=
  (m.specCandidates.foldlM addSpec ∅).map (·.values)

end ShaderModule

end ShaderBindings
