import ShaderBindings.Spirv.Opcode
/-!
# Grammar of instructions

Which operands follow each operation, and which words follow an operand that takes arguments.

## Main definitions

* `ShaderBindings.Spirv.OperandKind`, `OperandSpec` - an operand, and how often it stands.
* `Opcode.operands` - the operands of an operation, and `OpcodeFamily.operands` - those of the
  operations without a name of their own.
* `Enumeration.arguments` - the arguments of a value.
-/

set_option autoImplicit false

namespace ShaderBindings.Spirv

/-- An operand without arguments. It takes one word, but for a text, which takes as many as it
needs. -/
inductive PlainOperand where
  | id
  | integer
  | text
  | value (e : Enumeration)
deriving DecidableEq, Repr

/-- An operand of an operation. How often it occurs is not part of it: that is the arity of an
`OperandSpec`. -/
inductive OperandKind where
  /-- The type of the result. -/
  | resultType
  /-- The id of the result. -/
  | result
  /-- An operand and the arguments its value takes. -/
  | plain (operand : PlainOperand)
  /-- A number as wide as the type of the result says. -/
  | number
  /-- An operation with its operands. -/
  | constantOp
  /-- An id and a number. -/
  | pair
deriving DecidableEq, Repr

/-- How often an operand stands. -/
inductive Arity where
  | one
  | optional
  | many
deriving DecidableEq, Repr

/-- An operand with how often it stands. -/
structure OperandSpec where
  kind : OperandKind
  arity : Arity := .one
deriving DecidableEq, Repr

namespace OperandSpec

/-- The type of the result. -/
def resultType : OperandSpec := { kind := .resultType }

/-- The id of the result. -/
def result : OperandSpec := { kind := .result }

/-- The type and the id of the result. -/
def results : List OperandSpec := [resultType, result]

/-- An id. -/
def ref : OperandSpec := { kind := .plain .id }

/-- An id or nothing. -/
def ref? : OperandSpec := { kind := .plain .id, arity := .optional }

/-- Any number of ids. -/
def refs : OperandSpec := { kind := .plain .id, arity := .many }

/-- A number. -/
def int : OperandSpec := { kind := .plain .integer }

/-- Any number of numbers. -/
def ints : OperandSpec := { kind := .plain .integer, arity := .many }

/-- A text. -/
def text : OperandSpec := { kind := .plain .text }

/-- A text or nothing. -/
def text? : OperandSpec := { kind := .plain .text, arity := .optional }

/-- A value of a set. -/
def of (e : Enumeration) : OperandSpec := { kind := .plain (.value e) }

/-- A value of a set or nothing. -/
def of? (e : Enumeration) : OperandSpec := { kind := .plain (.value e), arity := .optional }

/-- A number as wide as the type of the result says. -/
def number : OperandSpec := { kind := .number }

/-- An operation with its operands. -/
def constantOp : OperandSpec := { kind := .constantOp }

/-- Any number of pairs of an id and a number. -/
def pairs : OperandSpec := { kind := .pair, arity := .many }

end OperandSpec

open OperandSpec in
/-- What stands in front of the other operands of an instruction that gives something. -/
def Yield.operands : Yield → List OperandSpec
  | .nothing => []
  | .type => [result]
  | .value => results

open OperandSpec in
/-- The operands of the operations of a family: what they give, their ids, and then any number of
words that are not looked at. -/
def OpcodeFamily.operands (family : OpcodeFamily) : List OperandSpec :=
  family.yield.operands ++ List.replicate family.ids ref ++
    (if family.openEnd then [refs] else []) ++ [ints]

open OperandSpec in
/-- The operands of an operation. -/
def Opcode.operands : Opcode → List OperandSpec
  | .nop => []
  | .undef => results
  | .sourceContinued => [text]
  | .source => [of .sourceLanguage, int, ref?, text?]
  | .sourceExtension => [text]
  | .name => [ref, text]
  | .memberName => [ref, int, text]
  | .string => [result, text]
  | .line => [ref, int, int]
  | .extension => [text]
  | .extInstImport => [result, text]
  | .extInst => results ++ [ref, int, refs]
  | .memoryModel => [of .addressingModel, of .memoryModel]
  | .entryPoint => [of .executionModel, ref, text, refs]
  | .executionMode => [ref, of .executionMode]
  | .capability => [of .capability]
  | .typeVoid => [result]
  | .typeBool => [result]
  | .typeInt => [result, int, int]
  | .typeFloat => [result, int]
  | .typeVector => [result, ref, int]
  | .typeMatrix => [result, ref, int]
  | .typeImage => [result, ref, of .dim, int, int, int, int, of .imageFormat, of? .accessQualifier]
  | .typeSampler => [result]
  | .typeSampledImage => [result, ref]
  | .typeArray => [result, ref, ref]
  | .typeRuntimeArray => [result, ref]
  | .typeStruct => [result, refs]
  | .typeOpaque => [result, text]
  | .typePointer => [result, of .storageClass, ref]
  | .typeFunction => [result, ref, refs]
  | .typeForwardPointer => [ref, of .storageClass]
  | .constantTrue => results
  | .constantFalse => results
  | .constant => results ++ [number]
  | .constantComposite => results ++ [refs]
  | .constantNull => results
  | .specConstantTrue => results
  | .specConstantFalse => results
  | .specConstant => results ++ [number]
  | .specConstantComposite => results ++ [refs]
  | .specConstantOp => results ++ [constantOp]
  | .function => results ++ [of .functionControl, ref]
  | .functionParameter => results
  | .functionEnd => []
  | .functionCall => results ++ [ref, refs]
  | .variableOp => results ++ [of .storageClass, ref?]
  | .load => results ++ [ref, of? .memoryAccess]
  | .store => [ref, ref, of? .memoryAccess]
  | .accessChain => results ++ [ref, refs]
  | .decorate => [ref, of .decoration]
  | .memberDecorate => [ref, int, of .decoration]
  | .decorationGroup => [result]
  | .groupDecorate => [ref, refs]
  | .groupMemberDecorate => [ref, pairs]
  | .compositeConstruct => results ++ [refs]
  | .compositeExtract => results ++ [ref, ints]
  | .sNegate => results ++ [ref]
  | .iAdd => results ++ [ref, ref]
  | .iMul => results ++ [ref, ref]
  | .select => results ++ [ref, ref, ref]
  | .label => [result]
  | .branch => [ref]
  | .returnOp => []
  | .returnValue => [ref]
  | .noLine => []
  | .moduleProcessed => [text]
  | .executionModeId => [ref, of .executionMode]
  | .decorateId => [ref, of .decoration]
  | .copyLogical => results ++ [ref]
  | .decorateString => [ref, of .decoration]
  | .memberDecorateString => [ref, int, of .decoration]
  | .other op => op.family.operands

/-! ## Arguments of values -/

/-- The arguments of a decoration, by its number. Decorations without arguments are most of them,
and they are not listed. -/
def decorationArguments : Nat → List PlainOperand
  | 1 | 6 | 7 | 29 | 30 | 31 | 32 | 33 | 34 | 35 | 36 | 37 | 43 | 44 | 45 | 5256 => [.integer]
  | 27 | 46 | 47 | 5634 => [.id]
  | 11 => [.value .builtIn]
  | 38 => [.value .functionParameterAttribute]
  | 39 => [.value .fpRoundingMode]
  | 40 => [.value .fpFastMathMode]
  | 41 => [.text, .value .linkageType]
  | 5635 => [.text]
  | _ => []

/-- The arguments of an execution mode, by its number. Modes that are not listed take none; whether
there is such a mode is settled by the set it is taken from. -/
def executionModeArguments : Nat → List PlainOperand
  | 0 | 26 | 30 | 35 | 36 | 4459 | 4460 | 4461 | 4462 | 4463 | 5270 => [.integer]
  | 17 | 18 => [.integer, .integer, .integer]
  | 37 | 39 => [.id]
  | 38 => [.id, .id, .id]
  | _ => []

/-- The arguments of a memory access: one for each of three bits. -/
def memoryAccessArguments (mask : Nat) : List PlainOperand :=
  (if mask.testBit 1 then [.integer] else []) ++
    (if mask.testBit 3 then [.id] else []) ++
    (if mask.testBit 4 then [.id] else [])

/-- The arguments that follow a value of the set. Only decorations, execution modes and memory
accesses have any. -/
def Enumeration.arguments (e : Enumeration) (value : Nat) : List PlainOperand :=
  match e with
  | .decoration => decorationArguments value
  | .executionMode => executionModeArguments value
  | .memoryAccess => memoryAccessArguments value
  | _ => []

end ShaderBindings.Spirv
