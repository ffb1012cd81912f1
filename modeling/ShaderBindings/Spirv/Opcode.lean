import ShaderBindings.Spirv.Enumeration
/-!
# Operations

The operations that a reader of the binary format knows, with their numbers.

An operation that says something about a module, or that stands in front of its functions, has a
name of its own. All others are known by their numbers: most of them stand in the bodies of
functions, where nothing is said about the interface of a module, and some declare types that no
variable of an interface has. They form families whose instructions start alike, and only the start
matters: the type of the result, because the width of a later constant can depend on it, and the
number of ids, because the operation can stand inside a specialization constant. The words behind
the start are passed over, as many of them as the length of the instruction says.

## Main definitions

* `ShaderBindings.Spirv.OpcodeFamily`, `OpcodeFamily.all` - the operations without a name of their
  own.
* `ShaderBindings.Spirv.OtherOpcode` - one of them.
* `ShaderBindings.Spirv.Opcode` - the operations.
* `Opcode.ofCode?` - the operation of a number.

## Main results

* `Opcode.familyOf?_of_mem_named` - no operation with a name of its own belongs to a family.
* `Opcode.ofCode?_eq_some_iff` - numbers tell the operations apart.
-/

set_option autoImplicit false

namespace ShaderBindings.Spirv

/-! ## Operations without a name of their own -/

/-- What an instruction gives. -/
inductive Yield where
  | nothing
  /-- An id, which is that of a type. -/
  | type
  /-- A value: the id of its type, and its own id. -/
  | value
deriving DecidableEq, Repr

/-- Operations whose instructions start alike. -/
structure OpcodeFamily where
  yield : Yield
  /-- How many ids every instruction takes. Scopes and the like are ids of another kind, and they
  are not counted. -/
  ids : Nat
  /-- Whether more ids may follow. -/
  openEnd : Bool := false
  /-- The numbers of the operations, as ranges with their ends. -/
  ranges : List (Nat × Nat)
deriving DecidableEq, Repr

namespace OpcodeFamily

/-- The families: the core of the format and, from 4421 on, what vendors have added. -/
def all : List OpcodeFamily :=
  [{ yield := .type, ids := 0,
     ranges :=
       [(34, 38), (322, 322), (327, 327), (5341, 5341), (5701, 5712)] },
   { yield := .type, ids := 1, ranges := [(5700, 5700)] },
   { yield := .type, ids := 3, ranges := [(5358, 5358)] },
   { yield := .value, ids := 0,
     ranges :=
       [(45, 45), (245, 245), (299, 299), (303, 303), (323, 323), (333, 333), (5713, 5816)] },
   { yield := .value, ids := 1,
     ranges :=
       [(68, 69), (83, 84), (100, 102), (104, 104), (106, 107), (109, 124), (127, 127),
        (154, 160), (168, 168), (200, 200), (204, 205), (207, 215), (227, 227), (232, 233),
        (261, 262), (264, 271), (282, 282), (300, 300), (316, 316), (318, 318), (321, 321),
        (324, 324), (328, 328), (334, 336), (338, 340), (342, 344), (4421, 4422), (4428, 4430),
        (5000, 5007), (5296, 5296), (5362, 5362), (5575, 5575)] },
   { yield := .value, ids := 2,
     ranges :=
       [(77, 77), (79, 79), (82, 82), (86, 88), (91, 92), (95, 95), (98, 98), (103, 103),
        (105, 105), (129, 131), (133, 152), (161, 167), (170, 191), (194, 199), (229, 229),
        (234, 242), (263, 263), (305, 306), (309, 310), (313, 313), (320, 320), (337, 337),
        (341, 341), (345, 348), (365, 366), (401, 403), (4432, 4432), (5011, 5011), (5334, 5334),
        (5571, 5571), (5574, 5574), (5577, 5577), (5699, 5699)] },
   { yield := .value, ids := 3,
     ranges :=
       [(60, 60), (78, 78), (89, 90), (93, 94), (96, 97), (202, 203), (230, 231), (283, 284),
        (304, 304), (307, 308), (311, 312), (314, 315), (5012, 5012), (5359, 5359), (5361, 5361),
        (5572, 5573)] },
   { yield := .value, ids := 4,
     ranges :=
       [(201, 201), (274, 275), (278, 279), (285, 286), (291, 291), (295, 296), (326, 326),
        (5283, 5283), (5580, 5580)] },
   { yield := .value, ids := 5, ranges := [(259, 259), (293, 294), (325, 325)] },
   { yield := .value, ids := 6, ranges := [(276, 277)] },
   { yield := .value, ids := 1, openEnd := true, ranges := [(66, 66), (349, 364)] },
   { yield := .value, ids := 2, openEnd := true, ranges := [(67, 67), (70, 70)] },
   { yield := .value, ids := 10, openEnd := true, ranges := [(292, 292)] },
   { yield := .nothing, ids := 0,
     ranges :=
       [(218, 219), (224, 225), (252, 252), (255, 255), (5335, 5336)] },
   { yield := .nothing, ids := 1,
     ranges :=
       [(220, 221), (247, 247), (256, 257), (297, 298), (319, 319), (329, 329)] },
   { yield := .nothing, ids := 2,
     ranges :=
       [(63, 63), (228, 228), (246, 246), (251, 251), (260, 260), (301, 301), (5299, 5299),
        (5344, 5344), (5576, 5576)] },
   { yield := .nothing, ids := 3,
     ranges :=
       [(64, 64), (99, 99), (250, 250), (302, 302), (5578, 5578)] },
   { yield := .nothing, ids := 4, ranges := [(280, 281), (287, 288), (5360, 5360)] },
   { yield := .nothing, ids := 5, ranges := [(5581, 5581)] },
   { yield := .nothing, ids := 11, ranges := [(5337, 5337)] }]

/-- The family that a number belongs to. No number belongs to two families. -/
def of? (number : Nat) : Option OpcodeFamily :=
  all.find? fun family => (Domain.values family.ranges).accepts number

end OpcodeFamily

/-- An operation that is known by its number, with the family it belongs to. -/
structure OtherOpcode where
  number : Nat
  family : OpcodeFamily
  belongs : OpcodeFamily.of? number = some family
deriving DecidableEq, Repr

/-- The operation of a number that belongs to a family. -/
def OtherOpcode.ofNumber? (number : Nat) : Option OtherOpcode :=
  match h : OpcodeFamily.of? number with
  | some family => some { number, family, belongs := h }
  | none => none

/-- A number that belongs to a family is that of an operation, and of no other one.

**Proof sketch.** An operation carries the proof that its number belongs to its family, so the
look-up finds the same family again. -/
theorem OtherOpcode.ofNumber?_eq_some_iff {number : Nat} {op : OtherOpcode} :
    ofNumber? number = some op ↔ op.number = number := by
  obtain ⟨n, family, belongs⟩ := op
  constructor
  · intro h
    unfold ofNumber? at h
    split at h
    · cases h
      rfl
    · cases h
  · rintro rfl
    unfold ofNumber?
    split
    · next other h =>
      obtain rfl : other = family := Option.some.inj (h.symm.trans belongs)
      rfl
    · next h => exact absurd (h.symm.trans belongs) nofun

/-! ## All operations -/

/-- An operation. -/
inductive Opcode where
  | nop
  | undef
  | sourceContinued
  | source
  | sourceExtension
  | name
  | memberName
  | string
  | line
  | extension
  | extInstImport
  | extInst
  | memoryModel
  | entryPoint
  | executionMode
  | capability
  | typeVoid
  | typeBool
  | typeInt
  | typeFloat
  | typeVector
  | typeMatrix
  | typeImage
  | typeSampler
  | typeSampledImage
  | typeArray
  | typeRuntimeArray
  | typeStruct
  | typeOpaque
  | typePointer
  | typeFunction
  | typeForwardPointer
  | constantTrue
  | constantFalse
  | constant
  | constantComposite
  | constantNull
  | specConstantTrue
  | specConstantFalse
  | specConstant
  | specConstantComposite
  | specConstantOp
  | function
  | functionParameter
  | functionEnd
  | functionCall
  | variableOp
  | load
  | store
  | accessChain
  | decorate
  | memberDecorate
  | decorationGroup
  | groupDecorate
  | groupMemberDecorate
  | compositeConstruct
  | compositeExtract
  | sNegate
  | iAdd
  | iMul
  | select
  | label
  | branch
  | returnOp
  | returnValue
  | noLine
  | moduleProcessed
  | executionModeId
  | decorateId
  | copyLogical
  | decorateString
  | memberDecorateString
  | other (op : OtherOpcode)
deriving DecidableEq, Repr

namespace Opcode

/-- The number of the operation. -/
def code : Opcode → Nat
  | nop => 0
  | undef => 1
  | sourceContinued => 2
  | source => 3
  | sourceExtension => 4
  | name => 5
  | memberName => 6
  | string => 7
  | line => 8
  | extension => 10
  | extInstImport => 11
  | extInst => 12
  | memoryModel => 14
  | entryPoint => 15
  | executionMode => 16
  | capability => 17
  | typeVoid => 19
  | typeBool => 20
  | typeInt => 21
  | typeFloat => 22
  | typeVector => 23
  | typeMatrix => 24
  | typeImage => 25
  | typeSampler => 26
  | typeSampledImage => 27
  | typeArray => 28
  | typeRuntimeArray => 29
  | typeStruct => 30
  | typeOpaque => 31
  | typePointer => 32
  | typeFunction => 33
  | typeForwardPointer => 39
  | constantTrue => 41
  | constantFalse => 42
  | constant => 43
  | constantComposite => 44
  | constantNull => 46
  | specConstantTrue => 48
  | specConstantFalse => 49
  | specConstant => 50
  | specConstantComposite => 51
  | specConstantOp => 52
  | function => 54
  | functionParameter => 55
  | functionEnd => 56
  | functionCall => 57
  | variableOp => 59
  | load => 61
  | store => 62
  | accessChain => 65
  | decorate => 71
  | memberDecorate => 72
  | decorationGroup => 73
  | groupDecorate => 74
  | groupMemberDecorate => 75
  | compositeConstruct => 80
  | compositeExtract => 81
  | sNegate => 126
  | iAdd => 128
  | iMul => 132
  | select => 169
  | label => 248
  | branch => 249
  | returnOp => 253
  | returnValue => 254
  | noLine => 317
  | moduleProcessed => 330
  | executionModeId => 331
  | decorateId => 332
  | copyLogical => 400
  | decorateString => 5632
  | memberDecorateString => 5633
  | other op => op.number

/-- The operations with a name of their own, in the order of their numbers. -/
def named : List Opcode :=
  [.nop, .undef, .sourceContinued, .source, .sourceExtension, .name, .memberName, .string, .line,
   .extension, .extInstImport, .extInst, .memoryModel, .entryPoint, .executionMode, .capability,
   .typeVoid, .typeBool, .typeInt, .typeFloat, .typeVector, .typeMatrix, .typeImage, .typeSampler,
   .typeSampledImage, .typeArray, .typeRuntimeArray, .typeStruct, .typeOpaque, .typePointer,
   .typeFunction, .typeForwardPointer, .constantTrue, .constantFalse, .constant,
   .constantComposite, .constantNull, .specConstantTrue, .specConstantFalse, .specConstant,
   .specConstantComposite, .specConstantOp, .function, .functionParameter, .functionEnd,
   .functionCall, .variableOp, .load, .store, .accessChain, .decorate, .memberDecorate,
   .decorationGroup, .groupDecorate, .groupMemberDecorate, .compositeConstruct, .compositeExtract,
   .sNegate, .iAdd, .iMul, .select, .label, .branch, .returnOp, .returnValue, .noLine,
   .moduleProcessed, .executionModeId, .decorateId, .copyLogical, .decorateString,
   .memberDecorateString]

/-- The operation of a number: one with a name, else one of a family. Other numbers are those of no
operation that is known. -/
def ofCode? (code : Nat) : Option Opcode :=
  named.find? (·.code == code) <|> (OtherOpcode.ofNumber? code).map .other

/-- No operation with a name of its own belongs to a family. Both tables are given, so this is
computed. -/
theorem familyOf?_of_mem_named : ∀ op ∈ named, OpcodeFamily.of? op.code = none := by
  decide

/-- The number of an operation leads back to it.

**Proof sketch.** For an operation with a name the look-up is run. The number of any other one
belongs to a family, so no operation with a name has it (`familyOf?_of_mem_named`). -/
theorem ofCode?_code (op : Opcode) : ofCode? op.code = some op := by
  cases op
  case other op =>
    have hnamed : named.find? (·.code == op.number) = none := by
      refine List.find?_eq_none.2 fun o ho hcode => ?_
      have hnone := familyOf?_of_mem_named o ho
      rw [beq_iff_eq.1 hcode, op.belongs] at hnone
      cases hnone
    change ofCode? op.number = _
    rw [ofCode?, hnamed, OtherOpcode.ofNumber?_eq_some_iff.2 rfl]
    rfl
  all_goals rfl

/-- Numbers tell the operations apart: the operation of a number is the one that has it.

**Proof sketch.** What is found among the operations with a name has the number it was found by, and
so has what is found among the others (`OtherOpcode.ofNumber?_eq_some_iff`). The other direction is
`ofCode?_code`. -/
theorem ofCode?_eq_some_iff {code : Nat} {op : Opcode} :
    ofCode? code = some op ↔ op.code = code := by
  constructor
  · intro h
    unfold ofCode? at h
    cases hnamed : named.find? (·.code == code) with
    | some o =>
      obtain rfl : o = op := by simpa [hnamed] using h
      simpa using List.find?_some hnamed
    | none =>
      obtain ⟨other, hother, rfl⟩ : ∃ other, OtherOpcode.ofNumber? code = some other ∧
          Opcode.other other = op := by
        simpa [hnamed] using h
      exact OtherOpcode.ofNumber?_eq_some_iff.1 hother
  · rintro rfl
    exact ofCode?_code op

/-- The number 252 is that of an operation in the bodies of functions. -/
example : (ofCode? 252).map Opcode.code = some 252 := by decide

end Opcode

end ShaderBindings.Spirv
