import ShaderBindings.Error
import ShaderBindings.Spirv.Fault
/-!
# Failures to read a module

## Main definitions

* `ShaderBindings.Spirv.ParseError` - why a binary module could not be read, with
  `ParseError.message`.
* `ParseError.toError` - the same among the failures to generate bindings.
-/

set_option autoImplicit false

namespace ShaderBindings.Spirv

/-- What kind of failure it is. The kind stands in front of the message; among the failures to
generate bindings all kinds are malformed modules, see `ParseError.toError`. -/
inductive ParseErrorKind where
  /-- The words are no module. -/
  | invalid
  /-- A number is too large. -/
  | limitExceeded
  /-- The module uses something that cannot be read. -/
  | unsupported
deriving DecidableEq, Repr

/-- The kind in words. -/
def ParseErrorKind.label : ParseErrorKind → String
  | invalid => "invalid module"
  | limitExceeded => "limit exceeded"
  | unsupported => "unsupported module"

/-- Why a module could not be read. The first two are about the bytes and the stream of
instructions, the others about what the instructions declare. -/
inductive ParseError where
  /-- The bytes are no whole number of words. -/
  | length (bytes : Nat)
  | stream (fault : StreamFault)
  | undefinedType (id : Nat)
  /-- The type is made of itself, so the walk along it does not end: nothing is reported. -/
  | endlessType (id : Nat)
  | notImage (id : Nat)
  | notPointer (variableId : Nat)
  | undefinedStruct (id : Nat)
  /-- A member has a type without a size. -/
  | unsizedMember (name : String)
  | lengthNotConstant (id : Nat)
  | lengthTooLarge (value : Nat)
  /-- A computed quantity does not fit a word. -/
  | overflow (op : WordOp)
deriving DecidableEq, Repr

/-- The result of a step in reading a module. -/
abbrev Parse := Except ParseError

namespace ParseError

/-- A failed operation is one of the failures to read a module. -/
instance : OfWordOp ParseError := ⟨overflow⟩

/-- The kind of the failure. -/
def kind : ParseError → ParseErrorKind
  | lengthNotConstant _ => .unsupported
  | lengthTooLarge _ => .limitExceeded
  | _ => .invalid

/-- The failure in words, without its kind. -/
def detail : ParseError → String
  | length bytes => s!"length {bytes} is not a multiple of 4"
  | stream fault => fault.message
  | undefinedType id => s!"undefined type %{id}"
  | endlessType id => s!"type %{id} contains itself"
  | notImage id => s!"sampled image %{id} does not wrap an image"
  | notPointer id => s!"variable %{id} is not a pointer"
  | undefinedStruct id => s!"struct %{id} used before definition"
  | unsizedMember name => s!"member {name} has an opaque type"
  | lengthNotConstant id => s!"array length %{id} is not an integer constant"
  | lengthTooLarge value => s!"array length {value} does not fit in 32 bits"
  | overflow op => op.message

/-- The failure in words. -/
def message (e : ParseError) : String := s!"{e.kind.label}: {e.detail}"

/-- The failure among those to generate bindings. An overflow stays one, so it can be told from a
module that is at fault. -/
def toError : ParseError → Error
  | overflow op => .overflow op
  | e => .invalidModule (.malformed e.message)

end ParseError

end ShaderBindings.Spirv
