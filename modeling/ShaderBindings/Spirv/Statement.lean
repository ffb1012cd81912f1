import ShaderBindings.Shader.Type
import ShaderBindings.Spirv.Instruction
/-!
# Statements

What instructions say about a module, as far as its interface is concerned: names and decorations of
ids, types, constants, variables and entry points. All other instructions say nothing.

## Main definitions

* `ShaderBindings.Spirv.TypeDecl`, `Decoration`, `MemberDecoration`, `StorageClass`.
* `ShaderBindings.Spirv.Statement` - what an instruction says.
* `Instruction.statements` - the statements of an instruction.
-/

set_option autoImplicit false

namespace ShaderBindings.Spirv

/-- Where a variable lives. The classes that make no difference are kept by their numbers. -/
inductive StorageClass where
  | uniformConstant
  | input
  | uniform
  | output
  | function
  | pushConstant
  | storageBuffer
  | other (value : Nat)
deriving DecidableEq, Repr

/-- The storage class of a number. -/
def StorageClass.ofValue : Nat → StorageClass
  | 0 => uniformConstant
  | 1 => input
  | 2 => uniform
  | 3 => output
  | 7 => function
  | 9 => pushConstant
  | 12 => storageBuffer
  | n => other n

/-- The shape of an image of a number. The set of the operand has seven values, so all that is left
for the last case is the number six. -/
def imageDim : Nat → ImageDim
  | 0 => .d1
  | 1 => .d2
  | 2 => .d3
  | 3 => .cube
  | 4 => .rect
  | 5 => .buffer
  | _ => .subpassData

/-- A type in terms of other ids. Nothing is asked of the ids: they may be those of later types, of
no type at all or of the type itself. -/
inductive TypeDecl where
  | void
  | bool
  | int (width : Nat) (signed : Bool)
  | float (width : Nat)
  | vector (component count : Nat)
  | matrix (column count : Nat)
  | array (element length : Nat)
  | runtimeArray (element : Nat)
  | struct (members : List Nat)
  | image (dim : ImageDim) (sampled : Nat)
  | sampler
  | sampledImage (image : Nat)
  | pointer (pointee : Nat)
deriving DecidableEq, Repr

/-- What can be said about an id. Only those decorations are listed that bindings depend on; of all
others it does not even matter whether there are any. -/
inductive Decoration where
  | location (n : Nat)
  | binding (n : Nat)
  | set (n : Nat)
  | specId (n : Nat)
  | arrayStride (n : Nat)
  | builtIn (n : Nat)
  | block
  | bufferBlock
deriving DecidableEq, Repr

/-- What can be said about a member of a struct. That the rows follow one another can be said and
can be taken back: there is one decoration for either. -/
inductive MemberDecoration where
  | offset (n : Nat)
  | matrixStride (n : Nat)
  /-- Whether the rows of a matrix follow one another. -/
  | rowMajor (yes : Bool)
deriving DecidableEq, Repr

/-- What an instruction says about the interface of its module. Most instructions say nothing, and a
settable number says two things: its value, and that it can be set. -/
inductive Statement where
  | name (target : Nat) (text : String)
  | memberName (target member : Nat) (text : String)
  | decoration (target : Nat) (a : Decoration)
  | memberDecoration (target member : Nat) (a : MemberDecoration)
  | entryPoint (model : Nat) (name : String)
  | type (id : Nat) (decl : TypeDecl)
  /-- A constant with an integer value. -/
  | constant (id value : Nat)
  | composite (id : Nat) (parts : List Nat)
  | specConstant (id type : Nat)
  | variableDecl (id type : Nat) (storage : StorageClass)
deriving DecidableEq, Repr

/-- The id that a statement is about, if it is about one. -/
def Statement.target? : Statement → Option Nat
  | .name target _ => some target
  | .memberName target _ _ => some target
  | .decoration target _ => some target
  | .memberDecoration target _ _ => some target
  | .entryPoint _ _ => none
  | .type id _ => some id
  | .constant id _ => some id
  | .composite id _ => some id
  | .specConstant id _ => some id
  | .variableDecl id _ _ => some id

/-- What the operands of a decoration say about an id. -/
def Decoration.of? : List Operand → Option Decoration
  | [.value .decoration 1, .integer n] => some (.specId n)
  | [.value .decoration 2] => some .block
  | [.value .decoration 3] => some .bufferBlock
  | [.value .decoration 6, .integer n] => some (.arrayStride n)
  | [.value .decoration 11, .value .builtIn n] => some (.builtIn n)
  | [.value .decoration 30, .integer n] => some (.location n)
  | [.value .decoration 33, .integer n] => some (.binding n)
  | [.value .decoration 34, .integer n] => some (.set n)
  | _ => none

/-- What the operands of a decoration say about a member. -/
def MemberDecoration.of? : List Operand → Option MemberDecoration
  | [.value .decoration 4] => some (.rowMajor true)
  | [.value .decoration 5] => some (.rowMajor false)
  | [.value .decoration 7, .integer n] => some (.matrixStride n)
  | [.value .decoration 35, .integer n] => some (.offset n)
  | _ => none

/-- The ids among operands. -/
def idsOf (operands : List Operand) : List Nat :=
  operands.filterMap fun
    | .id id => some id
    | _ => none

/-- The type that an operation declares. The sign of an integer is any number but zero; of an image
only the shape and the way it is read are kept. -/
def TypeDecl.of? : Opcode → List Operand → Option TypeDecl
  | .typeVoid, [] => some .void
  | .typeBool, [] => some .bool
  | .typeInt, [.integer width, .integer signed] => some (.int width (signed != 0))
  | .typeFloat, [.integer width] => some (.float width)
  | .typeVector, [.id component, .integer count] => some (.vector component count)
  | .typeMatrix, [.id column, .integer count] => some (.matrix column count)
  | .typeImage, .id _ :: .value .dim dim :: .integer _ :: .integer _ :: .integer _ ::
      .integer sampled :: _ => some (.image (imageDim dim) sampled)
  | .typeSampler, [] => some .sampler
  | .typeSampledImage, [.id wrapped] => some (.sampledImage wrapped)
  | .typeArray, [.id element, .id length] => some (.array element length)
  | .typeRuntimeArray, [.id element] => some (.runtimeArray element)
  | .typeStruct, members => some (.struct (idsOf members))
  | .typePointer, [.value .storageClass _, .id pointee] => some (.pointer pointee)
  | _, _ => none

/-- The value of a constant with an integer value. -/
def Operand.integer? : Operand → Option Nat
  | .integer n => some n
  | .wide n => some n
  | _ => none

/-- What an instruction says. Operations that are not listed say nothing, unless they have a result
without a type and `TypeDecl.of?` knows them. -/
def Instruction.statements (i : Instruction) : List Statement :=
  match i.opcode, i.operands with
  | .name, [.id target, .text s] => [.name target s]
  | .memberName, [.id target, .integer member, .text s] => [.memberName target member s]
  | .decorate, .id target :: decoration =>
    ((Decoration.of? decoration).map (.decoration target)).toList
  | .memberDecorate, .id target :: .integer member :: decoration =>
    ((MemberDecoration.of? decoration).map (.memberDecoration target member)).toList
  | .entryPoint, .value .executionModel model :: .id _ :: .text s :: _ => [.entryPoint model s]
  | .constant, [.resultType _, .result id, n] => (n.integer?.map (.constant id)).toList
  | .specConstant, [.resultType type, .result id, n] =>
    (n.integer?.map (.constant id)).toList ++ [.specConstant id type]
  | .specConstantTrue, [.resultType type, .result id] => [.specConstant id type]
  | .specConstantFalse, [.resultType type, .result id] => [.specConstant id type]
  | .constantComposite, .resultType _ :: .result id :: parts => [.composite id (idsOf parts)]
  | .specConstantComposite, .resultType _ :: .result id :: parts => [.composite id (idsOf parts)]
  | .variableOp, .resultType type :: .result id :: .value .storageClass storage :: _ =>
    [.variableDecl id type (.ofValue storage)]
  | opcode, .result id :: operands => ((TypeDecl.of? opcode operands).map (.type id)).toList
  | _, _ => []

end ShaderBindings.Spirv
