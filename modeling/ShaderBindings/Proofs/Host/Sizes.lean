import ShaderBindings.Proofs.Host.Declaration
import ShaderBindings.Proofs.Host.Failures
import ShaderBindings.Proofs.Struct.Acyclic
/-!
# Sizes by declared strides

The bytes that the field of a member takes follow from its declared strides, if it has any, and from
its column otherwise. Laid out members end with the last of them, which the size of the struct has
to cover; no other step of a declaration looks at that size.

## Main definitions

* `Member.stridedSize` - the bytes of a member, from those of one column.
* `Member.HasStrides` - the strides that a layout needs are declared.
* `ShaderBindings.KeepsSize` - a step does not fail for a size that is too small.

## Main results

* `Layout.memberField_size` - the field of a member takes the bytes of its strides.
* `Layout.placeMembers_stop` - laid out members end where the last of them does.
* `ShaderBindings.add_roundUp_le` - a rounded struct at an aligned place fits into a rounded one.
* `Layout.keepsSize_declaration` - a declaration fails for its size only at the end of its members.
-/

set_option autoImplicit false

namespace ShaderBindings

/-- The bytes of a member by its declared strides, from those of one column. The stride of an array
decides alone, whatever the elements take. -/
def Member.stridedSize (mem : Member) (column : Nat) : Nat :=
  match mem.ty.outerExtent?, mem.arrayStride with
  | some outer, some stride => stride * extentCount outer
  | _, _ => if mem.ty.isMatrix then mem.matrixStride.getD column * mem.ty.columns else column

/-- A matrix has the stride of its columns declared, and an array that of its elements. A field can
be formed only if they are. -/
structure Member.HasStrides (mem : Member) : Prop where
  matrix : mem.ty.isMatrix → mem.matrixStride.isSome
  array : mem.ty.isArray → mem.arrayStride.isSome

namespace Member

variable {mem : Member}

/-- Without matrices and arrays there is only the column. -/
theorem stridedSize_of_plain (hmatrix : mem.ty.isMatrix = false) (harray : mem.ty.isArray = false)
    (column : Nat) : mem.stridedSize column = column := by
  have hextents : mem.ty.extents = [] := by simpa [ShaderType.isArray] using harray
  simp [stridedSize, ShaderType.outerExtent?, hextents, hmatrix]

/-- The strides of a matrix or an array leave no bytes to its column.

**Proof sketch.** The bytes of an array are made of its stride and its outermost extent, and those
of a matrix of its stride and its columns. -/
theorem stridedSize_eq_of_strides (h : mem.HasStrides) (hty : mem.ty.isMatrix ∨ mem.ty.isArray)
    (column column' : Nat) : mem.stridedSize column = mem.stridedSize column' := by
  unfold stridedSize
  cases hextents : mem.ty.extents with
  | nil =>
    have hmatrix : mem.ty.isMatrix := by simpa [ShaderType.isArray, hextents] using hty
    obtain ⟨stride, hstride⟩ := Option.isSome_iff_exists.1 (h.matrix hmatrix)
    simp [ShaderType.outerExtent?, hextents, hmatrix, hstride]
  | cons outer inner =>
    obtain ⟨stride, hstride⟩ :=
      Option.isSome_iff_exists.1 (h.array (by simp [ShaderType.isArray, hextents]))
    simp [ShaderType.outerExtent?, hextents, hstride]

end Member

/-- Bytes that start at a multiple of an alignment can be rounded up to it and stay within a total
that is rounded up to a multiple of it. -/
theorem add_roundUp_le {offset size total align align' : Nat} (hpos : 0 < align)
    (hpos' : 0 < align') (hoffset : align ∣ offset) (halign : align ∣ align')
    (hle : offset + size ≤ total) :
    offset + roundUp size align ≤ roundUp total align' := by
  have htotal : total ≤ roundUp total align' := le_roundUp hpos'
  have hdvd : align ∣ roundUp total align' - offset :=
    Nat.dvd_sub (Nat.dvd_trans halign (dvd_roundUp total align')) hoffset
  have := roundUp_le_of_dvd hpos hdvd (by omega : size ≤ roundUp total align' - offset)
  omega

/-! ## Parts -/

namespace Part

variable {p q : Part} {context : String} {mem : Member}

/-- A part padded to a stride takes the bytes of the stride. -/
theorem size_padTo {stride : Nat} (h : p.padTo context stride = .ok q) :
    q.size = stride ∧ q.align = p.align := by
  obtain ⟨-, -, ⟨hstride, rfl⟩ | ⟨-, rfl⟩⟩ := padTo_eq_ok h
  · exact ⟨hstride.symm, rfl⟩
  · exact ⟨rfl, rfl⟩

/-- The columns of a matrix are as far apart as declared.

**Proof sketch.** A matrix is accepted with a stride only, and each of its columns is padded to it
(`size_padTo`). Anything else is its own column. -/
theorem size_columns (h : p.columns context mem = .ok q) :
    q.align = p.align ∧ (mem.ty.isMatrix → mem.matrixStride.isSome) ∧
      q.size =
        if mem.ty.isMatrix then mem.matrixStride.getD p.size * mem.ty.columns else p.size := by
  unfold Part.columns at h
  split at h
  · next hmatrix =>
    rw [Result.ite_error_eq_ok_iff] at h
    obtain ⟨-, h⟩ := h
    split at h
    · cases h
    · next stride hstride =>
      simp only [Result.bind_eq_ok_iff, sizeTimes_eq_ok_iff] at h
      obtain ⟨column, hcolumn, size, ⟨-, rfl⟩, h⟩ := h
      cases h
      obtain ⟨hsize, -⟩ := size_padTo hcolumn
      simp [hmatrix, hstride, hsize]
  · next hmatrix =>
    cases h
    simp [hmatrix]

/-- The elements of the outermost dimension are as far apart as declared.

**Proof sketch.** The stride is shared out among the inner elements without remainder, so all of
them together take it up again. -/
theorem size_elements (h : p.elements context mem = .ok q) :
    q.align = p.align ∧ (mem.ty.isArray → mem.arrayStride.isSome) ∧
      q.size = match mem.ty.outerExtent?, mem.arrayStride with
        | some outer, some stride => stride * extentCount outer
        | _, _ => p.size := by
  unfold Part.elements at h
  cases hextents : mem.ty.extents with
  | nil =>
    simp only [ShaderType.isArray, hextents, List.isEmpty_nil, Bool.not_true, Bool.false_eq_true,
      if_false] at h
    cases h
    simp [ShaderType.isArray, ShaderType.outerExtent?, hextents]
  | cons outer rest =>
    simp only [ShaderType.isArray, hextents, List.isEmpty_cons, Bool.not_false, if_true] at h
    split at h
    · cases h
    · next stride hstride =>
      simp only [Result.bind_eq_ok_iff, Result.ite_error_eq_ok_iff, Decidable.not_not] at h
      obtain ⟨inner, hinner, hdvd, elem, helem, size, hsize, h⟩ := h
      cases h
      obtain ⟨helemsize, -⟩ := size_padTo helem
      have hwhole : size = stride * extentCount outer := by
        rw [eq_of_foldlM_sizeTimes hsize, helemsize, List.map_cons, List.foldr_cons,
          Nat.mul_left_comm, Nat.mul_comm stride]
        rw [List.map_cons, List.tail_cons] at hinner
        rw [← Word.eq_of_product hinner, Nat.div_mul_cancel (Nat.dvd_of_mod_eq_zero hdvd)]
      simp [ShaderType.outerExtent?, hextents, hstride, hwhole]

end Part

namespace Layout

variable {l : Layout} {owner : StructType} {mem : Member} {field : Field} {a : Nat}

/-- The field of a member takes the bytes of its strides, aligned like its column, and the member
has the strides that its type needs. -/
theorem memberField_size (h : l.memberField owner mem = .ok (field, a)) :
    ∃ column, l.column (contextOf owner mem) mem.ty = .ok column ∧ column.align = a ∧
      mem.HasStrides ∧ field.size = mem.stridedSize column.size := by
  simp only [memberField, Result.bind_eq_ok_iff] at h
  obtain ⟨column, hcolumn, matrix, hmatrix, whole, hwhole, h⟩ := h
  cases h
  obtain ⟨halign, hstride, hsize⟩ := Part.size_columns hmatrix
  obtain ⟨halign', hstride', hsize'⟩ := Part.size_elements hwhole
  refine ⟨column, hcolumn, by rw [halign', halign], ⟨hstride, hstride'⟩, ?_⟩
  rw [hsize', hsize, Member.stridedSize]

/-- The column of a struct member has the alignment of the struct, and its size rounded up to it.

**Proof sketch.** The two computations of the host size, for the column and for the struct, come
from the same struct and the same alignment. -/
theorem column_struct_size {context : String} {id : Nat} {st : StructType} {column : Part}
    (h : l.column context mem.ty = .ok column) (hbase : mem.ty.base = .struct id)
    (hst : l.module.struct? id = some st) :
    l.structAlign id = .ok column.align ∧ column.size = roundUp st.size column.align := by
  obtain ⟨-, -, hsize, halign, -⟩ := (column_struct hbase).1 h
  obtain ⟨st', align, hst', halign', -, hround⟩ := structSize_eq_ok_iff.1 hsize
  cases hst.symm.trans hst'
  cases halign.symm.trans halign'
  exact ⟨halign, hround⟩

/-! ## Ends -/

/-- Laid out members end where the last of them does.

**Proof sketch.** Induction on the members. Either no member comes behind the first one, and it is
the last, or the last one is found behind it. -/
theorem placeMembers_stop {start : Nat} {members : List Member} {laid : Laid}
    (h : l.placeMembers owner start members = .ok laid) :
    laid.stop = start ∧ members = [] ∨ ∃ mem ∈ members, ∃ field a,
      l.memberField owner mem = .ok (field, a) ∧ a ∣ mem.offset ∧
        laid.stop = mem.offset + field.size := by
  induction members generalizing start laid with
  | nil =>
    cases h
    exact .inl ⟨rfl, rfl⟩
  | cons mem rest ih =>
    obtain ⟨field, a, laid', hfield, -, halign, -, -, hrest, rfl⟩ :=
      placeMembers_cons_eq_ok_iff.1 h
    rcases ih hrest with ⟨hstop, -⟩ | ⟨mem', hmem', hlast⟩
    · exact .inr ⟨mem, List.mem_cons_self, field, a, hfield, halign, hstop⟩
    · exact .inr ⟨mem', List.mem_cons_of_mem _ hmem', hlast⟩

end Layout

/-! ## Failures -/

/-- The step does not fail for a size that is too small. -/
def KeepsSize {α : Type} (x : Result α) : Prop :=
  Result.FailsOnly (fun e => e.isSizeTooSmall = false) x

namespace Layout

variable {l : Layout}

/-- A missing struct is not reported as a size that is too small. -/
theorem isSizeTooSmall_missingStruct (m : ShaderModule) (id : Nat) :
    (m.missingStruct id).isSizeTooSmall = false :=
  @ShaderModule.kind_missingStruct (fun e => e.isSizeTooSmall = false) (fun _ => rfl) m id

/-- In a complete module without cycles no host alignment fails for a size.

**Proof sketch.** What is left to fail are missing structs and numbers that the host does not have
(`ShaderModule.failsOnly_alignWithin`), and none of them is about a size. -/
theorem keepsSize_structAlign (hcomplete : l.module.IsComplete) (hacyclic : l.module.IsAcyclic)
    (id : Nat) : KeepsSize (l.structAlign id) := by
  refine (ShaderModule.failsOnly_alignWithin hcomplete hacyclic id).mono fun e he => ?_
  rcases he with rfl | hkind
  · exact isSizeTooSmall_missingStruct _ id
  · cases e with
    | layout => cases hkind
    | _ => rfl

/-- A declaration fails for its size only if the members end behind it.

**Proof sketch.** All other failures are those at structs and members (`failsOnly_declaration`),
which are about no declared size. The one that is left wants the members to end behind the size. -/
theorem keepsSize_declaration (halign : ∀ id, KeepsSize (l.structAlign id)) {st : StructType}
    (hle : ∀ size laid, l.structSize st.id = .ok size → l.placeMembers st 0 st.members = .ok laid →
      laid.stop ≤ size) : KeepsSize (l.declaration st) := by
  have hcovered (id : Nat) : l.StructCoveredBy (fun e => e.isSizeTooSmall = false) id :=
    { found := fun _ => isSizeTooSmall_missingStruct _ id
      named := fun _ => rfl
      aligned := halign id }
  refine failsOnly_declaration (fun _ _ h _ => h) (hcovered st.id)
    (fun mem _ => ⟨⟨.inr fun _ _ => rfl, .inr rfl⟩, fun child _ => hcovered child⟩) ?_
  exact fun size laid hsize hlaid hlt => absurd (hle size laid hsize hlaid) (Nat.not_le.2 hlt)

end Layout

end ShaderBindings
