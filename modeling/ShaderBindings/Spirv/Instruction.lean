import ShaderBindings.Spirv.Cursor
import ShaderBindings.Spirv.Grammar
import ShaderBindings.Table
import ShaderBindings.Word
/-!
# Instructions

Reads a stream of words as instructions. The grammar says which operands to expect; only the width
of a constant depends on what was read before, on its type.

## Main definitions

* `ShaderBindings.Spirv.Operand`, `Instruction` - an instruction with its operands.
* `ShaderBindings.Spirv.NumberType` - the types whose constants can be read.
* `ShaderBindings.Spirv.readInstructions` - the instructions of a module.
-/

set_option autoImplicit false

namespace ShaderBindings.Spirv

/-- An operand. It is what has been read and no longer says how: a value keeps the set it is taken
from, since the same number means different things in different sets. -/
inductive Operand where
  | resultType (id : Nat)
  | result (id : Nat)
  | id (id : Nat)
  | integer (n : Nat)
  /-- A number of two words. -/
  | wide (n : Nat)
  | float (bits : Nat)
  | text (s : String)
  | value (e : Enumeration) (n : Nat)
deriving DecidableEq, Repr

/-- An instruction. -/
structure Instruction where
  opcode : Opcode
  operands : List Operand
deriving DecidableEq, Repr

/-! ## Halves of a word -/

/-- The upper sixteen bits of a word. -/
def highHalf (w : Nat) : Nat := w / 0x10000

/-- The lower sixteen bits of a word. -/
def lowHalf (w : Nat) : Nat := w % 0x10000

/-! ## Types of numbers -/

/-- The types of numbers. -/
inductive NumberType where
  | integer (width : Nat)
  | float (width : Nat)
deriving DecidableEq, Repr

/-- The types of numbers by id. An id also stands for the type of the value it names. -/
abbrev NumberTypes := Table NumberType

/-- Takes note of the type that an instruction declares, or that its result has. A result whose type
has been noted is noted with this type, so an id may stand for the type of its value. -/
def NumberTypes.note (types : NumberTypes) (i : Instruction) : NumberTypes :=
  match i.opcode, i.operands with
  | .typeInt, .result id :: .integer width :: _ => types.insert id (.integer width)
  | .typeFloat, .result id :: .integer width :: _ => types.insert id (.float width)
  | _, .resultType type :: .result id :: _ =>
    match types.get? type with
    | some t => types.insert id t
    | none => types
  | _, _ => types

/-! ## Operands -/

/-- What is known where an instruction stands: its number, and the types of numbers before it. Types
that come later are not known, even if a constant refers to them. -/
structure Place where
  index : Nat
  types : NumberTypes

/-- Reads one operand without its arguments. -/
def plain : PlainOperand → Read OperandFault Operand
  | .id => .id <$> word
  | .integer => .integer <$> word
  | .text => .text <$> text
  | .value e => .value e <$> value e

/-- Reads an operand and the arguments its value takes. Arguments have no arguments of their own, so
one step is all there is. -/
def withArguments (p : PlainOperand) : Read OperandFault (List Operand) := do
  let operand ← plain p
  match operand with
  | .value e n =>
    let arguments ← (e.arguments n).mapM plain
    return operand :: arguments
  | _ => return [operand]

/-- Reads a number of the given type; without one it is a single word. Where the type has another
width than one or two words nothing is read. -/
def number : Option NumberType → Read OperandFault Operand
  | none | some (.integer 32) => .integer <$> word
  | some (.float 32) => .float <$> word
  | some (.integer 64) => do
    let low ← word
    let high ← word
    return .wide (high * Word.bound + low)
  | some (.float 64) => do
    let low ← word
    let high ← word
    return .float (high * Word.bound + low)
  | some _ => do throw (.unsupportedNumber (← get).offset)

/-- A failed operand is the fault of the stream. Such a fault does not name the instruction: its
offset says where it is. -/
def inOperand {α : Type} (step : Read OperandFault α) : Read StreamFault α :=
  ExceptT.adapt .operand step

/-- The type of the result among operands that were read. -/
def resultTypeOf (operands : List Operand) : Option Nat :=
  operands.findSome? fun
    | .resultType id => some id
    | _ => none

/-- Reads the operation inside a specialization constant, with an id for each id it takes. What else
the operation takes is not read, and it is left over at the end of the instruction. -/
def constantOp (index : Nat) : Read StreamFault (List Operand) := do
  let w ← inOperand word
  match Opcode.ofCode? (lowHalf w) with
  | none => throw (.unknownConstantOp (← get).offset index)
  | some op =>
    let ids ← (op.operands.filter (·.kind == .plain .id)).mapM fun _ => inOperand (plain .id)
    return .integer w :: ids

/-- Reads an operand, `before` being those that were read. What was read before matters to numbers
only, which are as wide as the type of the result. -/
def operand (place : Place) (before : List Operand) : OperandKind → Read StreamFault (List Operand)
  | .resultType => inOperand (do return [.resultType (← word)])
  | .result => inOperand (do return [.result (← word)])
  | .plain p => inOperand (withArguments p)
  | .number =>
    inOperand (List.singleton <$> number ((resultTypeOf before).bind place.types.get?))
  | .constantOp => constantOp place.index
  | .pair => inOperand ([.id, .integer].mapM plain)

/-- Reads an operand again and again until the instruction is used up, at most `fuel` times. An
operand uses up at least one word or fails, so as many times as there are words is enough. -/
def repeated (place : Place) (kind : OperandKind) : Nat → Read StreamFault (List Operand)
  | 0 => return []
  | fuel + 1 => do
    if (← get).left = 0 then return []
    else
      let first ← operand place [] kind
      let others ← repeated place kind fuel
      return first ++ others

/-- Reads operands, `before` being those that were read. An instruction that ends early is at fault
only if an operand that has to be there is missing. -/
def operands (place : Place) (before : List Operand) :
    List OperandSpec → Read StreamFault (List Operand)
  | [] => return before
  | spec :: specs => do
    let c ← get
    if c.left = 0 then
      match spec.arity with
      | .one => throw (.operandExpected c.offset place.index)
      | .optional | .many => return before
    else
      let more ← match spec.arity with
        | .many => repeated place spec.kind c.left
        | .one | .optional => operand place before spec.kind
      operands place (before ++ more) specs

/-! ## Streams -/

/-- The number of words of an instruction, from its first word. -/
def lengthOf (w : UInt32) : Nat := highHalf w.toNat

/-- Reads the instruction that starts with the word `w` at `offset`. Words that are left over are
reported first. -/
def readInstruction (place : Place) (offset : Nat) (w : UInt32) (rest : List UInt32) :
    Except StreamFault Instruction :=
  if lengthOf w = 0 then .error (.zeroLength offset place.index)
  else
    let code := lowHalf w.toNat
    match Opcode.ofCode? code with
    | none => .error (.unknownOpcode offset place.index code)
    | some opcode =>
      let start : Cursor := { offset := offset + 4, left := lengthOf w - 1, rest }
      let (outcome, stop) := (operands place [] opcode.operands).run.run start
      if stop.left ≠ 0 then .error (.operandExceeded stop.offset place.index)
      else outcome.map fun operands => { opcode, operands }

/-- Reads instructions that start at `offset`. The next instruction starts behind the words that the
first one claims, which it has to use up. -/
def readFrom (place : Place) (offset : Nat) (words : List UInt32) :
    Except StreamFault (List Instruction) :=
  match words with
  | [] => .ok []
  | w :: rest => do
    let i ← readInstruction place offset w rest
    let next : Place := { index := place.index + 1, types := place.types.note i }
    let others ← readFrom next (offset + 4 * lengthOf w) (rest.drop (lengthOf w - 1))
    return i :: others
termination_by words.length
decreasing_by
  simp only [List.length_drop, List.length_cons]
  omega

/-- The first word of every module. -/
def magic : Nat := 0x07230203

/-- The first word of a module whose words are in the other byte order. -/
def swappedMagic : Nat := 0x03022307

/-- The words in front of the first instruction. -/
def headerLength : Nat := 5

/-- The instructions of a module. The first word tells the byte order; the version and the rest of
the header are not looked at here. -/
def readInstructions (words : List UInt32) : Except StreamFault (List Instruction) :=
  if words.length < headerLength then .error (.headerIncomplete (4 * words.length))
  else
    let first := (words.headD 0).toNat
    if first = swappedMagic then .error .swappedBytes
    else if first ≠ magic then .error .headerIncorrect
    else
      readFrom { index := 1, types := ∅ } (4 * headerLength) (words.drop headerLength)

end ShaderBindings.Spirv
