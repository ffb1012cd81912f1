import ShaderBindings.Word
import ShaderBindings.Text.Identifier
/-!
# Host types

The types from which host declarations are built: scalars, named structs, arrays, and values
followed by filler words.

## Main definitions

* `ShaderBindings.HostScalar`, `HostType` - the types, with `HostType.text`.
* `ShaderBindings.Field`, `StructDecl` - a struct declaration with the place of each field.
* `ShaderBindings.Footprint`, `HostType.footprint?` - size and alignment by the rules of C.
-/

set_option autoImplicit false

namespace ShaderBindings

/-- The scalars of the host. Members of structs and inputs of a vertex stage use all of them but
`bool`, which only stands for a settable constant. -/
inductive HostScalar where
  | bool
  | i32
  | u32
  | f32
  | i64
  | u64
  | f64
deriving DecidableEq, Repr, Inhabited

namespace HostScalar

/-- The name of the scalar. -/
def name : HostScalar → String
  | bool => "bool"
  | i32 => "i32"
  | u32 => "u32"
  | f32 => "f32"
  | i64 => "i64"
  | u64 => "u64"
  | f64 => "f64"

/-- The size in bytes, which is the alignment too. -/
def size : HostScalar → Nat
  | bool => 1
  | i32 | u32 | f32 => 4
  | i64 | u64 | f64 => 8

end HostScalar

/-- The size of a filler word. -/
def wordSize : Nat := 4

/-- A type of the host. A type says nothing of where it stands: the size and the alignment follow
from it once those of the named types are known, see `HostType.footprint?`. -/
inductive HostType where
  | scalar (s : HostScalar)
  /-- A type known by its name. -/
  | named (name : String)
  | array (elem : HostType) (count : Nat)
  /-- A value followed by filler words. -/
  | padded (elem : HostType) (words : Nat)
deriving DecidableEq, Repr, Inhabited

namespace HostType

/-- The spelling of the type. An array is spelled with its length behind its elements, so the
extents of a type of several dimensions stand in reverse order. -/
def text : HostType → String
  | scalar s => s.name
  | named name => name
  | array elem count => s!"[{elem.text}; {count}]"
  | padded elem words => s!"Padded<{elem.text}, {words}>"

/-- The type inside array dimensions, given outermost first. A dimension sized when the program runs
has one element. -/
def wrapArrays (t : HostType) (counts : List Nat) : HostType :=
  counts.foldr (fun n t => array t n) t

end HostType

/-- A field of a host struct. Only its name and its type are printed: its place follows from the
types of the fields in front of it, see `StructDecl.IsExact`. -/
structure Field where
  name : String
  type : HostType
  /-- The byte at which the field starts. -/
  offset : Nat := 0
  /-- The bytes the field takes. -/
  size : Nat := 0
  /-- Whether the field only fills a gap. -/
  padding : Bool := false
deriving DecidableEq, Repr

/-- The field as it stands in the declaration. -/
def Field.text (f : Field) : String := s!"{Text.identifier f.name}: {f.type.text}"

/-- A host struct declaration. The name is the final one; the id is that of the struct in the module
which declares it. -/
structure StructDecl where
  id : Nat := 0
  name : String
  size : Nat
  fields : List Field
deriving DecidableEq, Repr

/-! ## Size and alignment

A host compiler places the fields of a struct in order, each at the next multiple of its alignment;
the struct has the largest alignment of its fields and is rounded up to it. -/

/-- The bytes a value takes, and the multiple its address must be. By the rules of C the first is a
multiple of the second. -/
structure Footprint where
  size : Nat
  align : Nat
deriving DecidableEq, Repr

namespace Footprint

/-- The footprint of a struct of two fields. It is what a padded value and a field behind another
one come to by the rules of C, see `Footprint.pair_eq_struct`. -/
def pair (a b : Footprint) : Footprint :=
  let align := max a.align b.align
  { size := roundUp (roundUp a.size b.align + b.size) align, align }

/-- The footprint of an array. -/
def times (f : Footprint) (count : Nat) : Footprint := { f with size := f.size * count }

end Footprint

/-- The footprint of a type, if all types named in it have one. -/
def HostType.footprint? (named : String → Option Footprint) : HostType → Option Footprint
  | scalar s => some { size := s.size, align := s.size }
  | .named name => named name
  | array elem count => (elem.footprint? named).map (·.times count)
  | padded elem words =>
    (elem.footprint? named).map fun f =>
      f.pair ({ size := wordSize, align := wordSize : Footprint }.times words)

end ShaderBindings
