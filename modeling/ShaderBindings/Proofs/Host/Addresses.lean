import ShaderBindings.Proofs.Host.Elements
/-!
# Addresses inside a member

The host type of a member is put together from the inside out: a scalar or a struct, the components
of a column, the padded columns of a matrix, the padded elements of an array of any number of
dimensions. By the rules of C every component stands where the declared strides put it, counting the
elements of the inner dimensions row by row.

## Main definitions

* `HostType.StandsAt` - what stands in a host type under some indices, and at which byte.
* `ShaderBindings.flatIndex` - the number of an element, row by row.
* `Member.elementStart`, `Member.columnStart` - where an element starts, and a column in it.

## Main results

* `HostType.StandsAt.wrapArrays`, `Part.standsAt_columns`, `Part.standsAt_elements` - each step
  keeps inside what it is put around.
* `Layout.member_standsAt` - the addresses inside the field of a member, and its size.
-/

set_option autoImplicit false

namespace ShaderBindings

/-! ## Values inside a host type -/

/-- The scalar or struct that stands in a value, given by its indices, outermost first. Filler words
have no index, so a padded element is passed through. -/
def HostType.leaf? : HostType → List Nat → Option HostType
  | array elem count, i :: rest => if i < count then elem.leaf? rest else none
  | array _ _, [] => none
  | padded elem _, path => elem.leaf? path
  | scalar s, [] => some (scalar s)
  | named name, [] => some (named name)
  | scalar _, _ :: _ => none
  | .named _, _ :: _ => none

/-- Under the indices stands a scalar or a struct, and its first byte is the given one. The byte
counts from the start of the value of type `t`. -/
structure HostType.StandsAt (named : String → Option Footprint) (t : HostType) (path : List Nat)
    (leaf : HostType) (start : Nat) : Prop where
  leaf : t.leaf? path = some leaf
  start : t.elementOffset? named path = some start

/-- The number of an element among those of an array, row by row. The last index runs fastest: a
step of an index counts for all elements of the dimensions behind it. -/
def flatIndex : List Nat → List Nat → Nat
  | _ :: extents, i :: indices => i * elementCount extents + flatIndex extents indices
  | _, _ => 0

/-- One index for each dimension, below the number of elements that it counts for. A dimension whose
extent is settled when the program runs counts for one. -/
def InExtents (extents indices : List Nat) : Prop :=
  List.Forall₂ (fun extent i => i < extentCount extent) extents indices

namespace HostType.StandsAt

variable {named : String → Option Footprint} {t leaf : HostType} {path : List Nat}
  {start : Nat} {f : Footprint}

/-- Filler words behind a value move nothing in it. -/
theorem padded (h : t.StandsAt named path leaf start) (words : Nat) :
    (HostType.padded t words).StandsAt named path leaf start := by
  refine ⟨h.leaf, ?_⟩
  have hstart := h.start
  cases path with
  | nil =>
    unfold elementOffset? at hstart ⊢
    exact hstart
  | cons i rest => exact hstart

/-- The elements of an array follow one another, so what stands in one of them stands as many sizes
further behind as its index says. -/
theorem array (h : t.StandsAt named path leaf start) (hf : t.footprint? named = some f)
    {i count : Nat} (hi : i < count) :
    (HostType.array t count).StandsAt named (i :: path) leaf (i * f.size + start) where
  leaf := by rw [leaf?, if_pos hi, h.leaf]
  start := by
    rw [elementOffset?, if_pos hi, hf, h.start]
    rfl

/-- The elements of an array of arrays follow one another row by row.

**Proof sketch.** Induction on the indices. The elements inside one element of the outermost
dimension take as many bytes as there are of them (`footprint?_wrapArrays`), so its index counts
whole such blocks. -/
theorem wrapArrays (h : t.StandsAt named path leaf start) (hf : t.footprint? named = some f)
    {extents indices : List Nat} (hindices : InExtents extents indices) :
    (t.wrapArrays (extents.map extentCount)).StandsAt named (indices ++ path) leaf
      (flatIndex extents indices * f.size + start) := by
  induction hindices with
  | nil =>
    simpa [flatIndex, HostType.wrapArrays] using h
  | @cons extent i extents indices hi _ ih =>
    have hinner : (t.wrapArrays (extents.map extentCount)).footprint? named =
        some (f.times (elementCount extents)) := footprint?_wrapArrays hf _
    have hstands := ih.array hinner hi
    rw [flatIndex, Nat.add_mul, Nat.add_assoc, Nat.mul_assoc, Nat.mul_comm (elementCount extents)]
    exact hstands

end HostType.StandsAt

/-! ## Addresses by the declared strides -/

namespace Member

/-- The byte at which an element of the member starts. The stride is that of the outermost
dimension, and is shared out among the elements of the inner ones. -/
def elementStart (mem : Member) : List Nat → Nat
  | [] => 0
  | i :: rest =>
    let stride := mem.arrayStride.getD 0
    let inner := mem.ty.extents.tail
    i * stride + flatIndex inner rest * (stride / elementCount inner)

/-- The byte at which a column of an element starts. -/
def columnStart (mem : Member) (indices : List Nat) (column : Nat) : Nat :=
  mem.elementStart indices + if mem.ty.isMatrix then column * mem.matrixStride.getD 0 else 0

/-- The indices of a column in the host type. What is no matrix is its own only column and has no
index for it. -/
def columnPath (mem : Member) (indices : List Nat) (column : Nat) : List Nat :=
  indices ++ if mem.ty.isMatrix then [column] else []

/-- The indices of a component in the host type of a column. -/
def rowPath (mem : Member) (row : Nat) : List Nat := if 1 < mem.ty.components then [row] else []

/-- All inner elements together take up the stride, so the index of the outermost dimension counts
whole strides. -/
theorem elementStart_eq {mem : Member} {stride : Nat} (hstride : mem.arrayStride = some stride)
    (hdvd : elementCount mem.ty.extents.tail ∣ stride) {indices : List Nat}
    (hindices : InExtents mem.ty.extents indices) :
    mem.elementStart indices =
      flatIndex mem.ty.extents indices * (stride / elementCount mem.ty.extents.tail) := by
  unfold elementStart
  rw [hstride]
  cases hextents : mem.ty.extents with
  | nil =>
    rw [hextents] at hindices
    cases List.forall₂_nil_left_iff.1 hindices
    rw [flatIndex, Nat.zero_mul]
    simp
  | cons outer inner =>
    rw [hextents] at hindices hdvd
    obtain ⟨i, rest, -, -, rfl⟩ := List.forall₂_cons_left_iff.1 hindices
    simp only [List.tail_cons, Option.getD_some, flatIndex] at hdvd ⊢
    rw [Nat.add_mul, Nat.mul_assoc, Nat.mul_div_cancel' hdvd]

end Member

/-! ## Parts -/

namespace Part

variable {named : String → Option Footprint} {p q : Part} {f : Footprint} {context : String}
  {mem : Member} {path : List Nat} {leaf : HostType} {start : Nat}

/-- Padding a part moves nothing in it. -/
theorem standsAt_padTo (h : p.type.StandsAt named path leaf start) {stride : Nat}
    (hq : p.padTo context stride = .ok q) : q.type.StandsAt named path leaf start := by
  obtain ⟨-, -, ⟨-, rfl⟩ | ⟨-, rfl⟩⟩ := padTo_eq_ok hq
  · exact h
  · exact h.padded _

/-- The columns of a matrix start at multiples of the declared stride.

**Proof sketch.** A matrix is an array of its padded columns. Padding moves nothing
(`standsAt_padTo`), and each column takes the bytes of the stride (`size_padTo`). -/
theorem standsAt_columns (hp : p.Fits named f) (h : p.type.StandsAt named path leaf start)
    (hq : p.columns context mem = .ok q) {column : Nat} (hcolumn : column < mem.ty.columns) :
    q.type.StandsAt named ((if mem.ty.isMatrix then [column] else []) ++ path) leaf
      ((if mem.ty.isMatrix then column * mem.matrixStride.getD 0 else 0) + start) := by
  unfold Part.columns at hq
  split at hq
  · next hmatrix =>
    rw [Result.ite_error_eq_ok_iff] at hq
    obtain ⟨-, hq⟩ := hq
    split at hq
    · cases hq
    · next stride hstride =>
      simp only [Result.bind_eq_ok_iff] at hq
      obtain ⟨padded, hpadded, size, -, hq⟩ := hq
      cases hq
      obtain ⟨-, g, hg⟩ := hp.padTo hpadded
      have hsize : g.size = stride := hg.size.trans (size_padTo hpadded).1
      have hstands := (standsAt_padTo h hpadded).array hg.footprint hcolumn
      simpa [hmatrix, hstride, hsize] using hstands
  · next hmatrix =>
    cases hq
    simpa [hmatrix] using h

/-- The elements of an array start at multiples of the even share of the declared stride.

**Proof sketch.** An array is wrapped around its padded element, which takes the even share of the
stride (`size_padTo`). The elements follow one another (`HostType.StandsAt.wrapArrays`), and all
inner ones together take up the stride (`Member.elementStart_eq`). -/
theorem standsAt_elements (hp : p.Fits named f) (h : p.type.StandsAt named path leaf start)
    (hq : p.elements context mem = .ok q) {indices : List Nat}
    (hindices : InExtents mem.ty.extents indices) :
    q.type.StandsAt named (indices ++ path) leaf (mem.elementStart indices + start) := by
  unfold Part.elements at hq
  split at hq
  · split at hq
    · cases hq
    · next stride hstride =>
      simp only [Result.bind_eq_ok_iff, Result.ite_error_eq_ok_iff, Decidable.not_not] at hq
      obtain ⟨inner, hinner, hmod, elem, helem, size, -, hq⟩ := hq
      cases hq
      rw [← List.map_tail, Word.product_eq_ok_iff] at hinner
      obtain ⟨-, rfl⟩ := hinner
      obtain ⟨-, g, hg⟩ := hp.padTo helem
      have hsize : g.size = stride / elementCount mem.ty.extents.tail :=
        hg.size.trans (size_padTo helem).1
      have hstands := (standsAt_padTo h helem).wrapArrays hg.footprint hindices
      rwa [hsize, ← Member.elementStart_eq hstride (Nat.dvd_of_mod_eq_zero hmod) hindices]
        at hstands
  · next harray =>
    cases hq
    have hextents : mem.ty.extents = [] := by simpa [ShaderType.isArray] using harray
    rw [hextents] at hindices
    cases List.forall₂_nil_left_iff.1 hindices
    simpa [Member.elementStart] using h

end Part

namespace Layout

variable {l : Layout} {named : String → Option Footprint} {mem : Member} {owner : StructType}
  {column : Part} {context : String}

/-- A member has a column of numbers or of a struct, with its natural size.

**Proof sketch.** What is no struct has a scalar, or an array of scalars with one for each component
(`column_plain`); a struct stands under its name (`column_struct`). -/
theorem column_cases (h : l.column context mem.ty = .ok column) :
    (∃ s, mem.ty.base.hostScalar = .ok s ∧ column.size = s.size * mem.ty.components ∧
      ∀ row < mem.ty.components,
        column.type.StandsAt named (mem.rowPath row) (.scalar s) (row * s.size)) ∨
      ∃ id name, mem.ty.base = .struct id ∧ l.names.get? id = some name ∧
        l.structSize id = .ok column.size ∧ column.type.StandsAt named [] (.named name) 0 := by
  cases hbase : mem.ty.base.structId? with
  | none =>
    obtain ⟨s, hs, -, hsize, -, htype⟩ := (column_plain hbase).1 h
    refine .inl ⟨s, hs, hsize, fun row hrow => ?_⟩
    have hscalar : (HostType.scalar s).StandsAt named [] (.scalar s) 0 :=
      ⟨rfl, by rw [HostType.elementOffset?]⟩
    rw [htype, Member.rowPath]
    split
    · have hstands := hscalar.array rfl hrow
      exact hstands
    · next hone =>
      obtain rfl : row = 0 := by omega
      rwa [Nat.zero_mul]
  | some id =>
    rw [BaseType.structId?_eq_some_iff] at hbase
    obtain ⟨name, hname, hsize, -, htype⟩ := (column_struct hbase).1 h
    refine .inr ⟨id, name, hbase, hname, hsize, ?_⟩
    rw [htype]
    exact ⟨rfl, by rw [HostType.elementOffset?]⟩

/-- What stands in the column of a member stands in each column of its field.

**Proof sketch.** The field is made in two steps, the matrix of a column and the array of a matrix.
The column stands in the matrix (`Part.standsAt_columns`) and the matrix in the array
(`Part.standsAt_elements`). -/
theorem memberField_standsAt {field : Field} {a : Nat}
    (h : l.memberField owner mem = .ok (field, a)) (hknows : l.Knows named mem)
    (hsized : mem.IsSized) :
    ∃ part, l.column (contextOf owner mem) mem.ty = .ok part ∧ mem.HasStrides ∧
      field.size = mem.stridedSize part.size ∧
      ∀ path leaf start, part.type.StandsAt named path leaf start → ∀ indices column,
        InExtents mem.ty.extents indices → column < mem.ty.columns →
          field.type.StandsAt named (mem.columnPath indices column ++ path) leaf
            (mem.columnStart indices column + start) := by
  obtain ⟨part, hpart, -, hstrides, hsize⟩ := memberField_size h
  refine ⟨part, hpart, hstrides, hsize,
    fun path leaf start hstands indices column hindices hcolumn => ?_⟩
  simp only [memberField, Result.bind_eq_ok_iff] at h
  obtain ⟨part', hpart', matrix, hmatrix, whole, hwhole, h⟩ := h
  cases h
  cases hpart.symm.trans hpart'
  obtain ⟨f, hf⟩ := column_fits hpart hknows hsized
  obtain ⟨-, g, hg⟩ := hf.columns hmatrix
  have hcolumns := Part.standsAt_columns hf hstands hmatrix hcolumn
  have helements := Part.standsAt_elements hg hcolumns hwhole hindices
  rw [Member.columnPath, Member.columnStart, List.append_assoc, Nat.add_assoc]
  exact helements

/-- **Addresses inside a member.** A member that can be laid out has all the strides it needs. It is
made of numbers or of structs. By the rules of C, a name standing for the struct that the member
refers to, component `row` of a column stands as many numbers behind the byte at which the column
starts, and a struct at that byte. The field takes the bytes of the declared strides, and without
any, those of its column.

**Proof sketch.** What stands in a column is known for numbers and for structs (`column_cases`), and
what stands in a column stands in each column of the field (`memberField_standsAt`). -/
theorem member_standsAt {i : Nat} (hmem : owner.members[i]? = some mem) {field : Field}
    (h : l.member owner i = .ok field) (hsized : mem.IsSized) :
    let named := l.namedIn mem
    mem.HasStrides ∧
      ((∃ s, mem.ty.base.hostScalar = .ok s ∧
          field.size = mem.stridedSize (s.size * mem.ty.components) ∧
          ∀ indices column row, InExtents mem.ty.extents indices → column < mem.ty.columns →
            row < mem.ty.components →
              field.type.StandsAt named (mem.columnPath indices column ++ mem.rowPath row)
                (.scalar s) (mem.columnStart indices column + row * s.size)) ∨
        ∃ id name size, mem.ty.base = .struct id ∧ l.names.get? id = some name ∧
          l.structSize id = .ok size ∧ field.size = mem.stridedSize size ∧
          ∀ indices column, InExtents mem.ty.extents indices → column < mem.ty.columns →
            field.type.StandsAt named (mem.columnPath indices column) (.named name)
              (mem.columnStart indices column)) := by
  intro named
  simp only [member, hmem, Result.map_eq_ok_iff] at h
  obtain ⟨⟨_, a⟩, hfield, rfl⟩ := h
  obtain ⟨part, hpart, hstrides, hsize, hstands⟩ :=
    memberField_standsAt hfield (knows_namedIn mem) hsized
  refine ⟨hstrides, ?_⟩
  rcases column_cases hpart with
    ⟨s, hs, hnatural, hrows⟩ | ⟨id, name, hbase, hname, hnatural, hstruct⟩
  · exact .inl ⟨s, hs, hnatural ▸ hsize, fun indices column row hindices hcolumn hrow =>
      hstands _ _ _ (hrows row hrow) indices column hindices hcolumn⟩
  · refine .inr ⟨id, name, part.size, hbase, hname, hnatural, hsize, fun indices column hindices
      hcolumn => ?_⟩
    simpa using hstands [] _ 0 hstruct indices column hindices hcolumn

/-- Three dimensions of matrices, with filler words behind columns and behind matrices. The declared
stride is that of the outermost dimension. -/
def curveMember : Member where
  name := "curves"
  ty := { ShaderType.float32.matrix 2 3 with extents := [2, 2, 3] }
  offset := 0
  matrixStride := some 16
  arrayStride := some 240

/-- A block of them. -/
def curveBlock : StructType where
  id := 1
  name := "Block"
  size := 480
  members := [curveMember]

/-- Their field. -/
def curveField : Field where
  name := "curves"
  offset := 0
  size := 480
  type :=
    .array (.array (.array (.padded (.array (.padded (.array (.scalar .f32) 3) 1) 2) 2) 3) 2) 2

/-- The last component of the last matrix but one stands at the byte
`240 + (1 * 3 + 1) * 40 + 16 + 2 * 4`. -/
theorem curveField_standsAt :
    lightLayout.member curveBlock 0 = .ok curveField ∧ curveMember.HasStrides ∧
      curveField.type.StandsAt (lightLayout.namedIn curveMember) [1, 1, 1, 1, 2] (.scalar .f32)
        424 := by
  have hfield : lightLayout.member curveBlock 0 = .ok curveField := by cbv
  have hmem : curveBlock.members[0]? = some curveMember := rfl
  have hsized : curveMember.IsSized := fun _ _ => by decide
  obtain ⟨hstrides, ⟨s, hs, -, hall⟩ | ⟨id, name, size, hbase, -⟩⟩ :=
    member_standsAt hmem hfield hsized
  · cases hs
    have hindices : InExtents curveMember.ty.extents [1, 1, 1] :=
      .cons (by decide) (.cons (by decide) (.cons (by decide) .nil))
    exact ⟨hfield, hstrides, hall [1, 1, 1] 1 2 hindices (by decide) (by decide)⟩
  · cases hbase

end Layout

end ShaderBindings
