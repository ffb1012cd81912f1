import ShaderBindings.Host.Alignment
import ShaderBindings.Text.Fresh
/-!
# Host layout

Lays out the structs of a module so that a host compiler, which places fields by their alignment
alone, puts every member at the offset the shader declares. Elements that stand further apart than
they are long are padded one by one; gaps between members become filler fields.

## Main definitions

* `ShaderBindings.Layout` - a module with the final names of its structs.
* `Layout.structAlign`, `Layout.structSize` - alignment and size of a struct on the host.
* `Layout.memberField` - the host field of a member, with its alignment.
* `Layout.placeMembers` - the members of a struct at their places, with the gaps between them.
* `Layout.declaration` - the declaration of a struct, fillers included.
* `ShaderBindings.scalarType` - the host spelling of a number, vector or matrix.
-/

set_option autoImplicit false

namespace ShaderBindings

/-- A size, an offset or an end is a word, or the failure is reported for the context. This is how
the numbers are treated that are checked; the others are those of `Word.mul` and its likes. -/
def inWord (context : String) (cause : LayoutCause) : Option Nat → Result Nat
  | some n => .ok n
  | none => .error (.layout context cause)

/-- The size of `n` elements. -/
def sizeTimes (context : String) (size n : Nat) : Result Nat :=
  inWord context .sizeOverflow (Word.mul? size n)

/-- The byte behind `size` bytes that start at `offset`. -/
def endOf (context : String) (offset size : Nat) : Result Nat :=
  inWord context .offsetOverflow (Word.add? offset size)

/-- The size rounded up to the alignment. The sum that is rounded down again has to be a word; for
the alignments of the host, which divide the bound, it is one exactly if the rounded size is. -/
def roundedSize (context : String) (size align : Nat) : Result Nat := do
  let n ← endOf context size (align - 1)
  return n / align * align

/-- The host type of a number, vector or matrix, inside its arrays. Truth values count as numbers
here, although no buffer can hold them. -/
def scalarType (t : ShaderType) : Result HostType := do
  let s ← match t.base with
    | .boolean => .ok .bool
    | base => base.scalarIn "scalar"
  let host := HostType.scalar s
  let host := if 1 < t.components then .array host t.components else host
  let host := if 1 < t.columns then .array host t.columns else host
  return host.wrapArrays (t.extents.map extentCount)

/-! ## Parts of a member -/

/-- A host type with its size and alignment. -/
structure Part where
  type : HostType
  size : Nat
  align : Nat
deriving DecidableEq, Repr

/-- The part made as long as the stride, by filler words behind it.

What is asked of the stride is asked in this order: that it is no less than the size, that it keeps
the alignment, and that the difference is a whole number of words. -/
def Part.padTo (p : Part) (context : String) (stride : Nat) : Result Part := do
  if stride < p.size then
    .error (.layout context (.strideTooSmall stride p.size))
  else if stride % p.align ≠ 0 then
    .error (.layout context (.strideMisaligned stride p.align))
  else
    let gap ← Word.sub stride p.size
    if gap = 0 then
      .ok p
    else if gap % wordSize ≠ 0 then
      .error (.layout context (.oddPadding gap))
    else
      .ok { p with type := .padded p.type (gap / wordSize), size := stride }

/-- The matrix made of a column, its columns as far apart as declared. What is no matrix is left as
it is, even if a stride or an order of rows is declared for it. -/
def Part.columns (p : Part) (context : String) (mem : Member) : Result Part :=
  if mem.ty.isMatrix then
    if mem.rowMajor then .error (.unsupportedType context .rowMajorMatrix)
    else
      match mem.matrixStride with
      | none => .error (.layout context .noMatrixStride)
      | some stride => do
        let column ← p.padTo context stride
        let size ← sizeTimes context column.size mem.ty.columns
        return { p with type := .array column.type mem.ty.columns, size }
  else .ok p

/-- The array made of an element. The declared stride is that of the outermost dimension; it is
shared out evenly among the elements of the inner ones. -/
def Part.elements (p : Part) (context : String) (mem : Member) : Result Part :=
  if mem.ty.isArray then
    match mem.arrayStride with
    | none => .error (.layout context .noArrayStride)
    | some stride => do
      let counts := mem.ty.extents.map extentCount
      let inner ← Word.product counts.tail
      if stride % inner ≠ 0 then
        .error (.layout context (.strideIndivisible stride inner))
      else
        let elem ← p.padTo context (stride / inner)
        let size ← counts.foldlM (sizeTimes context) elem.size
        return { p with type := elem.type.wrapArrays counts, size }
  else .ok p

/-! ## Layout of a module -/

/-- A module with the final names of its structs. That every struct in use has a name is not part of
it: a struct without one is reported when its name is asked for. -/
structure Layout where
  module : ShaderModule
  names : NameMap

namespace Layout

/-- The final name of a struct. -/
def structName (l : Layout) (id : Nat) : Result String :=
  match l.names.get? id with
  | some name => .ok name
  | none => .error (.invalidModule (.unnamedStruct id))

/-- The host alignment of a struct: the largest among its members. It fails if the struct, or one
found inside it, is missing or contains itself. -/
def structAlign (l : Layout) (id : Nat) : Result Nat := l.module.alignWithin [] id

/-- The host size of a struct: its declared size rounded up to its alignment. -/
def structSize (l : Layout) (id : Nat) : Result Nat := do
  let st ← l.module.struct id
  let size ← l.module.declaredSize id
  roundedSize st.name size (← l.structAlign id)

/-- One column of a type, outside all arrays. A vector counts as one column and a number as a vector
of one component; a struct is known by its final name only. -/
def column (l : Layout) (context : String) (t : ShaderType) : Result Part :=
  match t.base with
  | .struct id => do
    let name ← l.structName id
    let size ← l.structSize id
    let align ← l.structAlign id
    return { type := .named name, size, align }
  | base => do
    let s ← base.scalarIn context
    let host := HostType.scalar s
    let type := if 1 < t.components then .array host t.components else host
    let size ← Word.mul s.size t.components
    return { type, size, align := s.size }

/-- The place of a member in diagnostics. -/
def contextOf (owner : StructType) (mem : Member) : String := s!"{owner.name}.{mem.name}"

/-- The host field of a member, with its alignment. It is made from the inside: first one column,
then the matrix, then the arrays around it, the innermost extent first. -/
def memberField (l : Layout) (owner : StructType) (mem : Member) : Result (Field × Nat) := do
  let context := contextOf owner mem
  let column ← l.column context mem.ty
  let matrix ← column.columns context mem
  let whole ← matrix.elements context mem
  return ({ name := mem.name, type := whole.type, offset := mem.offset, size := whole.size },
    whole.align)

/-- The host field of the member at a place in its struct. It is asked for one member at a time,
without regard to the members around it. -/
def member (l : Layout) (owner : StructType) (index : Nat) : Result Field :=
  match owner.members[index]? with
  | none => .error (.invalidModule (.noMember owner.name index))
  | some mem => (l.memberField owner mem).map (·.1)

/-! ## Fillers -/

/-- The `n`th filler name. -/
def fillerName (n : Nat) : String := s!"pad{n}_"

/-- Filler fields from `offset` on, each under the next filler name that is not taken, together with
the number after the last name used. -/
def fillers (taken : List String) (next offset : Nat) : Nat → List Field × Nat
  | 0 => ([], next)
  | count + 1 =>
    let n := Text.firstFree fillerName taken next
    let rest := fillers taken (n + 1) (offset + wordSize) count
    ({ name := fillerName n, type := .scalar .f32, offset, size := wordSize, padding := true }
      :: rest.1, rest.2)

/-- What stands in a stretch of a struct. Fillers get their names only when all stretches are known,
since no name of a later member may be used for them. -/
inductive Stretch where
  /-- A member. -/
  | member (field : Field)
  /-- A number of words to be filled, from the byte `offset` on. -/
  | gap (offset words : Nat)
deriving DecidableEq, Repr

/-- The fields of stretches, fillers included, none under a name that is taken. The number `next` is
the first one not yet tried for the name of a filler, so that no number is tried twice. -/
def stretchFields (taken : List String) (next : Nat) : List Stretch → List Field
  | [] => []
  | .member field :: rest => field :: stretchFields taken next rest
  | .gap offset words :: rest =>
    let (fields, next) := fillers taken next offset words
    fields ++ stretchFields taken next rest

/-! ## Declarations -/

/-- The gap of the bytes from `start` to `stop`, which has to be a whole number of words. A gap of
no bytes is one as well: it has no fillers. -/
def gap (owner : StructType) (start stop : Nat) : Result Stretch := do
  let bytes ← Word.sub stop start
  if bytes % wordSize ≠ 0 then
    .error (.layout owner.name (.oddGap bytes start))
  else
    .ok (.gap start (bytes / wordSize))

/-- Members with their places: the stretches they take up, and the byte behind the last one. -/
structure Laid where
  stretches : List Stretch
  stop : Nat
deriving DecidableEq, Repr

/-- Lays out members in order from the byte `start` on, a gap in front of each.

A member is refused first if it starts within the one before, then if it has no field, then if its
offset does not keep its alignment, then if its end is no word. Last comes the gap, so a gap that
cannot be filled is reported only for a member that is right in itself. -/
def placeMembers (l : Layout) (owner : StructType) (start : Nat) : List Member → Result Laid
  | [] => .ok { stretches := [], stop := start }
  | mem :: rest => do
    let context := contextOf owner mem
    if mem.offset < start then
      .error (.layout context (.overlap mem.offset start))
    else
      let (field, align) ← l.memberField owner mem
      if mem.offset % align ≠ 0 then
        .error (.layout context (.offsetMisaligned mem.offset align))
      else
        let stop ← endOf context mem.offset field.size
        let gap ← gap owner start mem.offset
        let laid ← l.placeMembers owner stop rest
        return { laid with stretches := gap :: .member field :: laid.stretches }

/-- The declaration of a struct, with fillers for every gap and up to its host size.

The host size is the declared one rounded up to the alignment, so the fillers behind the last member
also make up for the rounding. It is the declared size that a failure mentions. -/
def declaration (l : Layout) (st : StructType) : Result StructDecl := do
  let name ← l.structName st.id
  let size ← l.structSize st.id
  let laid ← l.placeMembers st 0 st.members
  if size < laid.stop then
    .error (.layout st.name (.sizeTooSmall st.size laid.stop))
  else
    let gap ← gap st laid.stop size
    let fields := stretchFields (st.members.map (·.name)) 0 (laid.stretches ++ [gap])
    return { id := st.id, name, size, fields }

end Layout

end ShaderBindings
