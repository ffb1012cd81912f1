import ShaderBindings.Word
/-!
# Shader types

The type of a buffer member or of a resource: a base type, made a vector or a matrix, inside arrays.

## Main definitions

* `ShaderBindings.BaseType` - scalars, structs by id, images and samplers.
* `ShaderBindings.ShaderType` - a base type with its vector size, columns and array extents.
-/

set_option autoImplicit false

namespace ShaderBindings

/-- The shape of an image. -/
inductive ImageDim where
  | d1
  | d2
  | d3
  | cube
  | rect
  | buffer
  | subpassData
deriving DecidableEq, Repr

namespace ImageDim

/-- All shapes. -/
def all : List ImageDim := [d1, d2, d3, cube, rect, buffer, subpassData]

/-- The shape in words. -/
def label : ImageDim → String
  | d1 => "1D"
  | d2 => "2D"
  | d3 => "3D"
  | cube => "Cube"
  | rect => "Rect"
  | buffer => "Buffer"
  | subpassData => "SubpassData"

/-- The tag of the shape in diagnostics. -/
def tag : ImageDim → String
  | d1 => "D1"
  | d2 => "D2"
  | d3 => "D3"
  | cube => "Cube"
  | rect => "Rect"
  | buffer => "Buffer"
  | subpassData => "SubpassData"

/-- The tag of a shape that may be absent. -/
def tag? : Option ImageDim → String
  | none => "None"
  | some d => s!"Some({d.tag})"

end ImageDim

/-- What a shader type is made of. Vectors, matrices and arrays are no base types: `ShaderType`
counts components, columns and extents. -/
inductive BaseType where
  | boolean
  | integer (width : Nat) (signed : Bool)
  | float (width : Nat)
  /-- The struct with the given id. -/
  | struct (id : Nat)
  /-- An image that is read directly, or, if `sampled`, through a sampler. -/
  | image (dim : ImageDim) (sampled : Bool)
  | sampledImage (dim : ImageDim)
  | sampler
  /-- Any other type, by its name. -/
  | foreign (name : String)
deriving DecidableEq, Repr

/-- The id of a struct type. -/
def BaseType.structId? : BaseType → Option Nat
  | .struct id => some id
  | _ => none

/-- The shape of an image type. -/
def BaseType.imageDim? : BaseType → Option ImageDim
  | .image dim _ => some dim
  | .sampledImage dim => some dim
  | _ => none

/-- A type as a shader declares it. One component, one column and no extents is the base type
itself; arrays of arrays are one type with several extents. -/
structure ShaderType where
  base : BaseType
  /-- The number of components of a vector, or of a column of a matrix. -/
  components : Nat := 1
  /-- The number of columns of a matrix. -/
  columns : Nat := 1
  /-- Array extents, outermost first. Zero stands for an array sized when the program runs. -/
  extents : List Nat := []
deriving DecidableEq, Repr

/-- The elements an array dimension counts for: one if it is sized when the program runs. So the
field of such an array has room for one element. -/
def extentCount (extent : Nat) : Nat := max extent 1

namespace ShaderType

/-- A single 32-bit float. -/
def float32 : ShaderType := { base := .float 32 }

/-- A single signed 32-bit integer. -/
def int32 : ShaderType := { base := .integer 32 true }

/-- A single unsigned 32-bit integer. -/
def uint32 : ShaderType := { base := .integer 32 false }

/-- The struct with the given id. -/
def struct (id : Nat) : ShaderType := { base := .struct id }

/-- The type as a vector of `n` components. -/
def vector (t : ShaderType) (n : Nat) : ShaderType := { t with components := n }

/-- The type as a matrix. Its columns are vectors of as many components as there are rows. -/
def matrix (t : ShaderType) (columns rows : Nat) : ShaderType :=
  { t with components := rows, columns := columns }

/-- An array of the type: the new dimension becomes the outermost one. -/
def arrayOf (t : ShaderType) (extent : Nat) : ShaderType :=
  { t with extents := extent :: t.extents }

/-- Whether the type has more than one column. -/
def isMatrix (t : ShaderType) : Bool := 1 < t.columns

/-- Whether the type has an array dimension. -/
def isArray (t : ShaderType) : Bool := !t.extents.isEmpty

/-- The type of one column, outside all arrays. Of a type that is no matrix it is the type itself
without its extents. -/
def column (t : ShaderType) : ShaderType := { base := t.base, components := t.components }

/-- The extent of the outermost dimension. -/
def outerExtent? (t : ShaderType) : Option Nat := t.extents.head?

end ShaderType

end ShaderBindings
