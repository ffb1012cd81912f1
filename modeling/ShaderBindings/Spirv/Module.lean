import ShaderBindings.Shader.Module
import ShaderBindings.Spirv.Declarations
/-!
# Binary modules

Reads a binary module: the interface of a shader, put together from the declarations of the module.

## Main definitions

* `Declarations.memberSize`, `Declarations.structs` - the structs with their declared sizes.
* `Declarations.resources`, `specConstants`, `workGroupSize`.
* `ShaderBindings.Spirv.BinaryModule` - a module with its version and all its entry points.
* `ShaderBindings.Spirv.parseWords`, `parseBytes` - read a module.

## Main results

* `ShaderBindings.Spirv.parseBytes_length` - bytes that are no whole number of words are refused.
-/

set_option autoImplicit false

namespace ShaderBindings.Spirv

namespace Declarations

/-! ## Structs -/

/-- The bytes a member takes by its declared strides. The outermost stride of an array, where it is
declared, counts for the whole element. -/
def memberSize (built : Table StructType) (mem : Member) : Parse Nat := do
  let column ← match mem.ty.base with
    | .struct id =>
      match built.get? id with
      | some st => .ok st.size
      | none => .error (.undefinedStruct id)
    | .boolean => Word.mul 4 mem.ty.components
    | .integer width _ => Word.mul (width / 8) mem.ty.components
    | .float width => Word.mul (width / 8) mem.ty.components
    | _ => .error (.unsizedMember mem.name)
  let element ←
    if mem.ty.isMatrix then Word.mul (mem.matrixStride.getD column) mem.ty.columns
    else .ok column
  match mem.ty.outerExtent?, mem.arrayStride with
  | none, _ => .ok element
  | some outer, some stride => Word.mul stride (extentCount outer)
  | some _, none => do
    let count ← Word.product (mem.ty.extents.map extentCount)
    Word.mul element count

/-- A member of a struct, from the id of its type. The array stride is a property of the type, the
matrix stride one of the member. A member of which no offset is stated is at the start. -/
def member (d : Declarations) (owner index type : Nat) : Parse Member := do
  let ty ← d.resolve type
  return {
    name := (d.memberName? owner index).getD s!"_m{index}"
    ty
    offset := (d.offset? owner index).getD 0
    matrixStride := d.matrixStride? owner index
    arrayStride := d.arrayStride? type
    rowMajor := (d.rowMajor? owner index).getD false }

/-- The byte behind the furthest member, at least `least`. Members need not be in order, so this is
the greatest of all ends and not the end of the last member. -/
def membersEnd (built : Table StructType) (least : Nat) : List Member → Parse Nat
  | [] => .ok least
  | mem :: rest => do
    let size ← memberSize built mem
    let stop ← Word.add mem.offset size
    membersEnd built (max least stop) rest

/-- A struct, from the ids of its member types. The size is not stated in a module: it is where the
furthest member ends, and `built` gives the sizes of the structs inside. -/
def struct (d : Declarations) (built : Table StructType) (id : Nat) (members : List Nat) :
    Parse StructType := do
  let members ← members.zipIdx.mapM fun (type, index) => d.member id index type
  let size ← membersEnd built 0 members
  return { id, name := (d.name? id).getD s!"_{id}", size, members }

/-- The ids declared as structs, in order. An id that is declared several times comes up as often,
each time with the members that it was given last. -/
def structIds (d : Declarations) : List Nat :=
  d.statements.filterMap fun
    | .type id (.struct _) => some id
    | _ => none

/-- Adds the structs of the given ids. A struct can use those that come before it. An id that stands
for a struct no more, because a later type has taken it, is left out. -/
def addStructs (d : Declarations) (built : Table StructType) : List Nat → Parse (Table StructType)
  | [] => .ok built
  | id :: rest =>
    match d.typeDecl? id with
    | some (.struct members) => do
      let st ← d.struct built id members
      d.addStructs (built.insert id st) rest
    | _ => d.addStructs built rest

/-- The structs of the module by id. -/
def structs (d : Declarations) : Parse (Table StructType) := d.addStructs ∅ d.structIds

/-! ## Resources -/

/-- A variable of a module. -/
structure VariableDecl where
  id : Nat
  type : Nat
  storage : StorageClass
deriving DecidableEq, Repr

/-- The variables outside functions. An id that is declared twice is there twice, since a resource
belongs to a declaration and not to an id. -/
def variableDecls (d : Declarations) : List VariableDecl :=
  d.statements.filterMap fun
    | .variableDecl id type storage =>
      if storage = .function then none else some { id, type, storage }
    | _ => none

/-- The class of the resource in constant storage, from its type below all arrays. An image which is
known to be read without a sampler is a storage image, all others are sampled. -/
def constantClass? (d : Declarations) (base : Nat) : Parse (Option ResourceClass) :=
  match d.typeDecl? base with
  | none => .error (.undefinedType base)
  | some (.image _ 2) => .ok (some .storageImage)
  | some (.image _ _) => .ok (some .sampledImage)
  | some (.sampledImage _) => .ok (some .combinedImageSampler)
  | some .sampler => .ok (some .separateSampler)
  | some _ => .ok none

/-- The class of the resource behind a variable, if there is one. Stage inputs and outputs need a
location; those that the interface builds in are no resources even with one. -/
def class? (d : Declarations) (v : VariableDecl) (base : Nat) : Parse (Option ResourceClass) :=
  let connected := (d.builtIn? v.id).isNone && (d.location? v.id).isSome
  match v.storage with
  | .input => .ok (if connected then some .stageInput else none)
  | .output => .ok (if connected then some .stageOutput else none)
  | .uniform =>
    .ok (if d.isBufferBlock base then some .storageBuffer
      else if d.isBlock base then some .uniformBuffer
      else none)
  | .storageBuffer => .ok (some .storageBuffer)
  | .pushConstant => .ok (some .pushConstantBlock)
  | .uniformConstant => d.constantClass? base
  | .function | .other _ => .ok none

/-- The resource behind a variable with its class, if there is one. The type is resolved only for a
variable with a class, so other variables may have types that cannot be resolved. -/
def resource? (d : Declarations) (v : VariableDecl) : Parse (Option (ResourceClass × Resource)) :=
  match d.typeDecl? v.type with
  | none => .error (.undefinedType v.type)
  | some (.pointer pointee) => do
    let baseType ← d.stripArrays pointee
    match ← d.class? v baseType with
    | none => return none
    | some c =>
      let ty ← d.resolve pointee
      return some (c, {
        ty
        id := v.id
        baseType
        name := (d.name? v.id).getD ""
        set := (d.set? v.id).getD 0
        binding := (d.binding? v.id).getD 0
        location := d.location? v.id })
  | some _ => .error (.notPointer v.id)

/-- The resources of the module. -/
def resources (d : Declarations) : Parse Resources := do
  let found ← d.variableDecls.mapM d.resource?
  return .ofList (found.filterMap id)

/-! ## Specialization constants -/

/-- The constants that can be set, in order. A constant without an id to be set by is none of them,
and its type is not resolved. -/
def specConstants (d : Declarations) : Parse (List SpecConstant) := do
  let marked := d.statements.filterMap fun
    | .specConstant id type => (d.specId? id).map fun constantId => (constantId, id, type)
    | _ => none
  marked.mapM fun (constantId, id, type) => do
    let ty ← d.resolve type
    return { constantId, id, name := (d.name? id).getD "", ty }

/-- What the size of a work group is built in as. -/
def workGroupBuiltIn : Nat := 25

/-- The parts of the constant that gives the size of a work group.

More than one id can be marked as that size. Here the first one in the order of the statements is
taken that has parts. A reader that keeps its annotations in a hash map comes upon these ids in the
order of the map, and may take any of them: which one it takes depends on the annotations alone, and
only where the marked constants differ does it show. -/
def workGroupParts? (d : Declarations) : Option (List Nat) :=
  d.statements.findSome? fun
    | .decoration id (.builtIn _) =>
      if d.builtIn? id = some workGroupBuiltIn then d.composite? id else none
    | _ => none

/-- The constants that give the size of a work group, among those that can be set. A part that is a
plain constant, or that is missing, gives none. -/
def workGroupSize (d : Declarations) (specs : List SpecConstant) : WorkGroupSize :=
  match d.workGroupParts? with
  | none => {}
  | some parts =>
    let component (i : Nat) := do
      let part ← parts[i]?
      specs.find? (·.id == part)
    { x := component 0, y := component 1, z := component 2 }

/-! ## Entry points -/

/-- The stage of an execution model. -/
def stage? : Nat → Option Stage
  | 0 => some .vertex
  | 1 => some .tessControl
  | 2 => some .tessEval
  | 3 => some .geometry
  | 4 => some .fragment
  | 5 => some .compute
  | 6 => some .kernel
  | _ => none

/-- The entry points in order. Their interface lists are not used: what a variable is for follows
from its storage and its decorations. -/
def entryPoints (d : Declarations) : List DeclaredEntry :=
  d.statements.filterMap fun
    | .entryPoint model name => some { name, model := modelName model, stage := stage? model }
    | _ => none

end Declarations

/-! ## Modules -/

/-- A module that was read. All but the version and the further entry points is in `reflected`,
which has the form that modules given field by field have. -/
structure BinaryModule where
  /-- The version of the format, major and minor. -/
  version : Nat × Nat
  /-- All entry points. The first one is used. -/
  entryPoints : List DeclaredEntry
  reflected : ShaderModule
deriving DecidableEq, Repr

/-- The first entry point with the given name. -/
def BinaryModule.entry? (m : BinaryModule) (name : String) : Option DeclaredEntry :=
  m.entryPoints.find? (·.name == name)

/-- The version in a header word. -/
def versionOf (w : UInt32) : Nat × Nat := (w.toNat / 0x10000 % 0x100, w.toNat / 0x100 % 0x100)

/-- Puts a module together from its declarations. Structs come first, then resources, then
constants, which matters if several of them cannot be read. -/
def Declarations.toModule (d : Declarations) (words : List UInt32) : Parse BinaryModule := do
  let structs ← d.structs
  let resources ← d.resources
  let specConstants ← d.specConstants
  return {
    version := versionOf (words.getD 1 0)
    entryPoints := d.entryPoints
    reflected :=
      { origin := .binary
        entry := d.entryPoints.head?
        structs := structs.values
        resources
        specConstants
        workGroupSize := d.workGroupSize specConstants
        code := words } }

/-- Reads a module from its words. The stream is read to its end before anything is made of it, so a
fault of the stream comes before all others. -/
def parseWords (words : List UInt32) : Parse BinaryModule := do
  let instructions ← (readInstructions words).mapError .stream
  (Declarations.ofInstructions instructions).toModule words

/-! ## Byte order -/

/-- The word of four bytes, highest first. -/
def wordOfBytes (a b c d : UInt8) : UInt32 :=
  .ofNat (((a.toNat * 256 + b.toNat) * 256 + c.toNat) * 256 + d.toNat)

/-- The words of bytes in the given byte order. -/
def wordsOfBytes (bigEndian : Bool) : List UInt8 → List UInt32
  | a :: b :: c :: d :: rest =>
    (if bigEndian then wordOfBytes a b c d else wordOfBytes d c b a) :: wordsOfBytes bigEndian rest
  | _ => []

/-- Whether the bytes begin with the first word of a module, highest byte first. Bytes that do not
are taken with the lowest one first, whatever they begin with. -/
def isBigEndian : List UInt8 → Bool
  | a :: b :: c :: d :: _ => (wordOfBytes a b c d).toNat == magic
  | _ => false

/-- Reads a module from bytes in either byte order. -/
def parseBytes (bytes : List UInt8) : Parse BinaryModule :=
  if bytes.length % 4 ≠ 0 then .error (.length bytes.length)
  else parseWords (wordsOfBytes (isBigEndian bytes) bytes)

/-- Bytes that are no whole number of words are refused. -/
theorem parseBytes_length {bytes : List UInt8} (h : bytes.length % 4 ≠ 0) :
    parseBytes bytes = .error (.length bytes.length) := by
  simp [parseBytes, h]

end ShaderBindings.Spirv
