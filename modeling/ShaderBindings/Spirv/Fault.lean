import ShaderBindings.Spirv.Enumeration
import ShaderBindings.Text.Quoted
import ShaderBindings.Text.Utf8
/-!
# Faults of an instruction stream

Why words are not a stream of instructions. Places are byte offsets from the start of the module;
instructions are counted from one.

## Main definitions

* `ShaderBindings.Spirv.OperandFault` - what is wrong with an operand.
* `ShaderBindings.Spirv.StreamFault` - what is wrong with a stream, with `StreamFault.message`.
-/

set_option autoImplicit false

namespace ShaderBindings.Spirv

/-- What is wrong with an operand. Offsets count bytes from the start of the stream; that of a text
is where the text starts, whichever of its bytes is at fault. -/
inductive OperandFault where
  /-- The stream ends before the word. -/
  | streamExpected (offset : Nat)
  /-- The instruction ends before the word. -/
  | limitReached (offset : Nat)
  /-- The value does not belong to the set. -/
  | unknown (set : Enumeration) (offset value : Nat)
  /-- The text that starts here is no text. -/
  | badText (offset : Nat) (fault : Text.Utf8Fault)
  /-- Numbers of the result type cannot be read. -/
  | unsupportedNumber (offset : Nat)
deriving DecidableEq, Repr

/-- Describes the fault. -/
def OperandFault.message : OperandFault → String
  | streamExpected offset => s!"StreamExpected({offset})"
  | limitReached offset => s!"LimitReached({offset})"
  | unknown set offset value => s!"{set.label}Unknown({offset}, {value})"
  | badText offset fault => s!"DecodeStringFailed({offset}, {Text.quote fault.message})"
  | unsupportedNumber offset => s!"TypeUnsupported({offset})"

/-- What is wrong with a stream. Where an instruction is at fault there is its number as well,
counted from one. -/
inductive StreamFault where
  | headerIncomplete (offset : Nat)
  | headerIncorrect
  /-- The words are in the other byte order. -/
  | swappedBytes
  | zeroLength (offset index : Nat)
  | unknownOpcode (offset index opcode : Nat)
  /-- An operand is missing. -/
  | operandExpected (offset index : Nat)
  /-- Words of the instruction are left over. -/
  | operandExceeded (offset index : Nat)
  | operand (fault : OperandFault)
  /-- The operation inside a specialization constant is unknown. -/
  | unknownConstantOp (offset index : Nat)
deriving DecidableEq, Repr

/-- Describes the fault. -/
def StreamFault.message : StreamFault → String
  | headerIncomplete offset => s!"HeaderIncomplete({(OperandFault.streamExpected offset).message})"
  | headerIncorrect => "HeaderIncorrect"
  | swappedBytes => "EndiannessUnsupported"
  | zeroLength offset index => s!"WordCountZero({offset}, {index})"
  | unknownOpcode offset index opcode => s!"OpcodeUnknown({offset}, {index}, {opcode})"
  | operandExpected offset index => s!"OperandExpected({offset}, {index})"
  | operandExceeded offset index => s!"OperandExceeded({offset}, {index})"
  | operand fault => s!"OperandError({fault.message})"
  | unknownConstantOp offset index => s!"SpecConstantOpIntegerIncorrect({offset}, {index})"

end ShaderBindings.Spirv
