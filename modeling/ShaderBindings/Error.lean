import ShaderBindings.Shader.Resource
import ShaderBindings.Shader.Stage
import ShaderBindings.Text.Quoted
/-!
# Failures

Everything that can keep bindings from being generated, each as the cause it has. The wording of all
causes stands in this module.

## Main definitions

* `ShaderBindings.Error` - the failures, with `Error.message`.
* `ShaderBindings.UnsupportedCause`, `LayoutCause`, `ConflictCause`, `ModuleCause` - their causes.
-/

set_option autoImplicit false

namespace ShaderBindings

/-- The base type in diagnostics. It shows how the type is kept and not how a shader spells it: a
struct stands by its id, a foreign type by its name in quotes. -/
def BaseType.describe : BaseType → String
  | .boolean => "Boolean"
  | .integer width signed => s!"Integer \x7b width: {width}, signed: {signed} \x7d"
  | .float width => s!"Float \x7b width: {width} \x7d"
  | .struct id => s!"Struct({id})"
  | .image dim sampled => s!"Image \x7b dim: {dim.tag}, sampled: {sampled} \x7d"
  | .sampledImage dim => s!"SampledImage \x7b dim: {dim.tag} \x7d"
  | .sampler => "Sampler"
  | .foreign name => s!"Opaque({Text.quote name})"

/-- Why a type has no counterpart on the host. The first eight come from members of structs, the
next two from inputs of a vertex stage and the last two from settable constants. -/
inductive UnsupportedCause where
  | floatWidth (width : Nat)
  | integerWidth (width : Nat)
  | boolean
  | structAsScalar
  | image (dim : ImageDim)
  | sampler
  | foreign (name : String)
  | rowMajorMatrix
  | vertexInput (base : BaseType)
  | vertexWidth (width : Nat)
  | compositeConstant
  | constantType (base : BaseType)
deriving DecidableEq, Repr

/-- Describes the cause. -/
def UnsupportedCause.message : UnsupportedCause → String
  | floatWidth width => s!"{width}-bit float"
  | integerWidth width => s!"{width}-bit integer"
  | boolean => "boolean"
  | structAsScalar => "struct is not a scalar"
  | image dim => s!"{dim.label} image"
  | sampler => "sampler"
  | foreign name => name
  | rowMajorMatrix => "row-major matrix"
  | vertexInput base => s!"vertex input of type {base.describe}"
  | vertexWidth width => s!"{width}-bit vertex input"
  | compositeConstant => "composite specialization constant"
  | constantType base => s!"specialization constant of type {base.describe}"

/-- Why declared offsets or strides cannot be reproduced on the host. All but the last two come from
the layout of a struct, and those from the ranges of push constants. -/
inductive LayoutCause where
  | containsItself
  | strideTooSmall (stride size : Nat)
  | strideMisaligned (stride align : Nat)
  /-- The bytes between two elements cannot be filled with words. -/
  | oddPadding (gap : Nat)
  | sizeOverflow
  | offsetOverflow
  | noMatrixStride
  | noArrayStride
  | strideIndivisible (stride inner : Nat)
  | overlap (offset previousEnd : Nat)
  | offsetMisaligned (offset align : Nat)
  /-- The bytes between two members cannot be filled with words. -/
  | oddGap (gap offset : Nat)
  | sizeTooSmall (size membersEnd : Nat)
  | pushOverflow
  | pushOverlap (offset previousEnd : Nat)
deriving DecidableEq, Repr

/-- Describes the cause. -/
def LayoutCause.message : LayoutCause → String
  | containsItself => "struct contains itself"
  | strideTooSmall stride size => s!"stride {stride} is smaller than element size {size}"
  | strideMisaligned stride align =>
    s!"stride {stride} is not a multiple of host alignment {align}"
  | oddPadding gap => s!"padding of {gap} bytes is not a whole number of words"
  | sizeOverflow => "size overflows 32 bits"
  | offsetOverflow => "offset overflows 32 bits"
  | noMatrixStride => "matrix without a matrix stride"
  | noArrayStride => "array without an array stride"
  | strideIndivisible stride inner =>
    s!"stride {stride} does not divide into {inner} inner elements"
  | overlap offset previousEnd =>
    s!"offset {offset} overlaps the previous member ending at {previousEnd}"
  | offsetMisaligned offset align =>
    s!"offset {offset} is not a multiple of host alignment {align}"
  | oddGap gap offset => s!"gap of {gap} bytes at offset {offset} is not a whole number of words"
  | sizeTooSmall size membersEnd =>
    s!"declared size {size} is smaller than its members ({membersEnd})"
  | pushOverflow => "push constant range overflows 32 bits"
  | pushOverlap offset previousEnd =>
    s!"push constant at {offset} overlaps range ending at {previousEnd}"

/-- How two declarations of one descriptor binding differ: first what stands in the table, then what
was met. -/
inductive ConflictCause where
  | kind (declared found : DescriptorKind)
  | dim (declared found : Option ImageDim)
  | arraySize (declared found : Nat)
deriving DecidableEq, Repr

/-- Describes the cause. -/
def ConflictCause.message : ConflictCause → String
  | kind declared found => s!"{declared.label} declared as {found.label}"
  | dim declared found =>
    s!"image dimension {ImageDim.tag? declared} declared as {ImageDim.tag? found}"
  | arraySize declared found => s!"array size {declared} declared as {found}"

/-- What is inconsistent about a module. That ids stand for structs is not asked when a module is
put together; it is reported where a struct is needed first. -/
inductive ModuleCause where
  | unnamedStruct (id : Nat)
  | noMember (owner : String) (index : Nat)
  | blockNotStruct (name : String)
  | pushBlockNotStruct (name : String)
  /-- A module given field by field lacks the struct. -/
  | noStruct (id : Nat)
  /-- The id stands for no struct in a binary module. -/
  | notStructType (id : Nat)
  /-- A binary module could not be read. -/
  | malformed (detail : String)
deriving DecidableEq, Repr

/-- Describes the cause. -/
def ModuleCause.message : ModuleCause → String
  | unnamedStruct id => s!"struct {id} was never named"
  | noMember owner index => s!"{owner} has no member {index}"
  | blockNotStruct name => s!"buffer block {name} is not a struct"
  | pushBlockNotStruct name => s!"push constant block {name} is not a struct"
  | noStruct id => s!"no struct {id}"
  | notStructType id => s!"%{id} is not a struct type"
  | malformed detail => detail

/-- Why bindings cannot be generated. The context of an unsupported type or of a layout is the name
of the struct or member, or of the constant or input, that the failure is about. -/
inductive Error where
  /-- A type of the shader has no counterpart on the host. -/
  | unsupportedType (context : String) (cause : UnsupportedCause)
  /-- Declared offsets or strides cannot be reproduced on the host. -/
  | layout (context : String) (cause : LayoutCause)
  /-- Two declarations of a descriptor binding differ; the stage is that of the later one. -/
  | bindingConflict (set binding : Nat) (stage : Stage) (cause : ConflictCause)
  /-- The module, by its place in the input, has no entry point. -/
  | missingEntryPoint (module : Nat)
  | unsupportedStage (stage : String)
  | invalidModule (cause : ModuleCause)
  /-- A computed quantity does not fit a word. -/
  | overflow (op : WordOp)
deriving DecidableEq, Repr

namespace Error

/-- A failed operation is one of the failures to generate bindings. -/
instance : OfWordOp Error := ⟨overflow⟩

/-- The failure in words. -/
def message : Error → String
  | unsupportedType context cause => s!"unsupported type in {context}: {cause.message}"
  | layout context cause => s!"layout error in {context}: {cause.message}"
  | bindingConflict set binding stage cause =>
    s!"binding conflict at set {set} binding {binding} ({stage.label} stage): {cause.message}"
  | missingEntryPoint module => s!"module {module} has no entry point"
  | unsupportedStage stage => s!"unsupported stage: {stage}"
  | invalidModule cause => s!"invalid module: {cause.message}"
  | overflow op => op.message

/-- Whether the declared layout is at fault. -/
def isLayout : Error → Bool
  | layout .. => true
  | _ => false

/-- Whether a type without a counterpart is at fault. -/
def isUnsupportedType : Error → Bool
  | unsupportedType .. => true
  | _ => false

end Error

/-- The result of a step that can fail. -/
abbrev Result := Except Error

end ShaderBindings
