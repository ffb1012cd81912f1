import ShaderBindings.Proofs.Host.Sizes
import ShaderBindings.Proofs.Spirv.Structs
/-!
# Sizes of a binary module

The reader of a binary module computes sizes from declared strides, long before the host layout
computes its own from padded types. Of every member that the layout accepts both give the same size,
except that the host rounds a struct up to its alignment; so the declared size of a struct, rounded
up in turn, always covers its members.

## Main results

* `Declarations.eq_stridedSize` - the reader goes by the declared strides, as the layout does.
* `Declarations.memberField_size` - both sizes of a member.
* `Declarations.IsBuilt.stop_le_roundUp` - the members of a struct end within its host size.
* `toModule_sizes` - all of it for the structs of a module that was read.
-/

set_option autoImplicit false

namespace ShaderBindings

/-- A host scalar has the width of the number that it stands for. -/
theorem BaseType.width_of_hostScalar {base : BaseType} {s : HostScalar}
    (h : base.hostScalar = .ok s) :
    (∃ signed, base = .integer (8 * s.size) signed) ∨ base = .float (8 * s.size) := by
  unfold hostScalar at h
  split at h <;> cases h <;> simp [HostScalar.size]

namespace Spirv

namespace Declarations

variable {d : Declarations} {built : Table StructType} {l : Layout} {owner st : StructType}
  {mem : Member} {field : Field} {n a : Nat}

/-- With the strides of arrays declared, the reader goes by the declared strides.

**Proof sketch.** The two formulas are compared part by part: a matrix takes its columns, and an
array its outermost extent times the stride. Without a stride they would differ, but there is
one. -/
theorem eq_stridedSize {column element : Nat} (helement : elementSize mem column = .ok element)
    (hn : wholeSize mem element = .ok n) (harray : mem.ty.isArray → mem.arrayStride.isSome) :
    n = mem.stridedSize column := by
  have hstrided : element =
      if mem.ty.isMatrix then mem.matrixStride.getD column * mem.ty.columns else column := by
    unfold elementSize at helement
    split at helement
    · next hmatrix => rw [if_pos hmatrix, (Word.mul_eq_ok_iff.1 helement).2]
    · next hmatrix =>
      cases helement
      rw [if_neg hmatrix]
  unfold wholeSize at hn
  unfold Member.stridedSize
  split at hn
  · next hextent =>
    cases hn
    simp [hextent, hstrided]
  · next hextent hstride => simp [hextent, hstride, (Word.mul_eq_ok_iff.1 hn).2]
  · next outer hextent hstride =>
    have hextents : mem.ty.isArray := by
      cases hnil : mem.ty.extents with
      | nil => simp [ShaderType.outerExtent?, hnil] at hextent
      | cons => simp [ShaderType.isArray, hnil]
    simpa [hstride] using harray hextents

/-- A column of numbers takes the same bytes on the host.

**Proof sketch.** Both are the width of the number in bytes times the components, and a host scalar
has the width of the number (`BaseType.width_of_hostScalar`). -/
theorem column_size_plain {context : String} {column : Part} (hbase : mem.ty.base.structId? = none)
    (hcolumn : l.column context mem.ty = .ok column) (hn : columnSize built mem = .ok n) :
    column.size = n := by
  obtain ⟨s, hs, -, hsize, -, -⟩ := (Layout.column_plain hbase).1 hcolumn
  have hwidth : 8 * s.size / 8 = s.size := Nat.mul_div_cancel_left _ (by decide)
  rcases BaseType.width_of_hostScalar hs with ⟨signed, hty⟩ | hty
  all_goals
    simp only [columnSize, hty, Word.mul_eq_ok_iff, hwidth] at hn
    rw [hsize, hn.2]

/-- **Both sizes of a member.** The host gives a member of a built struct the size that the reader
gives it, except that a struct outside matrices and arrays is rounded up to its alignment.

**Proof sketch.** The size on the host is that of the strides for the column of the layout
(`Layout.memberField_size`), and the reader's is that of the strides for its own column
(`eq_stridedSize`). Columns of numbers are equal (`column_size_plain`). With a matrix or an array of
structs the column does not count, and a struct by itself is rounded up
(`Layout.column_struct_size`). -/
theorem memberField_size (hfound : ∀ id, l.module.struct? id = built.get? id)
    (hn : memberSize built mem = .ok n) (hfield : l.memberField owner mem = .ok (field, a)) :
    (field.size = n ∧
        ∀ child, mem.ty.base = .struct child → mem.ty.isMatrix ∨ mem.ty.isArray) ∨
      ∃ child, mem.ty.base = .struct child ∧ mem.ty.isMatrix = false ∧ mem.ty.isArray = false ∧
        l.structAlign child = .ok a ∧ field.size = roundUp n a := by
  obtain ⟨column, hcolumn, rfl, hstrides, hsize⟩ := Layout.memberField_size hfield
  simp only [memberSize_eq, Result.bind_eq_ok_iff] at hn
  obtain ⟨c, hc, element, helement, hwhole⟩ := hn
  have hread : n = mem.stridedSize c := eq_stridedSize helement hwhole hstrides.array
  cases hbase : mem.ty.base.structId? with
  | none =>
    refine .inl ⟨?_, fun child hchild => ?_⟩
    · rw [hsize, hread, column_size_plain hbase hcolumn hc]
    · simp [hchild, BaseType.structId?] at hbase
  | some child =>
    rw [BaseType.structId?_eq_some_iff] at hbase
    by_cases hty : mem.ty.isMatrix ∨ mem.ty.isArray
    · exact .inl ⟨by rw [hsize, hread, Member.stridedSize_eq_of_strides hstrides hty],
        fun _ _ => hty⟩
    · simp only [not_or, Bool.not_eq_true] at hty
      obtain ⟨hmatrix, harray⟩ := hty
      cases hst : built.get? child with
      | none => simp [columnSize, hbase, hst] at hc
      | some inner =>
        simp only [columnSize, hbase, hst, Except.ok.injEq] at hc
        obtain ⟨halign, hround⟩ := Layout.column_struct_size hcolumn hbase (hfound child ▸ hst)
        refine .inr ⟨child, hbase, hmatrix, harray, halign, ?_⟩
        rw [hsize, hread, Member.stridedSize_of_plain hmatrix harray,
          Member.stridedSize_of_plain hmatrix harray, hround, hc]

/-- **The members of a struct end within its host size.**

**Proof sketch.** The last member ends within the declared size by the bytes the reader gives it. If
the host rounds it up, it is to an alignment that divides the alignment of the whole struct, to
which the host rounds up the declared size. -/
theorem IsBuilt.stop_le_roundUp (h : d.IsBuilt built)
    (hfound : ∀ id, l.module.struct? id = built.get? id) (hst : built.get? st.id = some st)
    {align : Nat} {laid : Layout.Laid} (halign : l.structAlign st.id = .ok align)
    (hlaid : l.placeMembers st 0 st.members = .ok laid) : laid.stop ≤ roundUp st.size align := by
  have hpos : 0 < align := by
    have := Layout.align_eq halign
    omega
  obtain ⟨hzero, -⟩ | ⟨mem, hmem, field, a, hfield, hoffset, hstop⟩ :=
    Layout.placeMembers_stop hlaid
  · rw [hzero]
    exact Nat.zero_le _
  obtain ⟨-, hsized, -⟩ := membersEnd_spec (h.membersEnd hst)
  obtain ⟨n, hn, hle⟩ := hsized mem hmem
  rw [hstop]
  rcases memberField_size hfound hn hfield with ⟨hplain, -⟩ | ⟨child, -, -, -, ha, hround⟩
  · rw [hplain]
    exact Nat.le_trans hle (le_roundUp hpos)
  · have hdvd : a ∣ align := by
      obtain ⟨st', o, hst', ho, halign'⟩ := ShaderModule.alignWithin_nil_eq_ok_iff.1 halign
      cases ((hfound st.id).trans hst).symm.trans hst'
      obtain ⟨column, hcolumn, rfl, -⟩ := Layout.memberField_size hfield
      exact Layout.align_dvd_of_hasOutline ho halign' (.inl rfl) hmem hcolumn
    have hpos' : 0 < a := by
      have := Layout.align_eq ha
      omega
    rw [hround]
    exact add_roundUp_le hpos' hpos hoffset hdvd hle

end Declarations

/-- **Reader and layout agree on sizes.** The declared size of a struct of a module that was read is
the byte behind its furthest member, by the sizes of the reader. Whatever names the structs have:
the host size is the declared size rounded up to the alignment, members that can be laid out end
within it, so that no declaration fails because the declared size is too small, and every member
takes the bytes that the reader gives it, except that a struct outside matrices and arrays is
rounded up to its alignment.

**Proof sketch.** The struct was built, so its size is the maximum that
`Declarations.membersEnd_spec` describes. Members that are laid out end within its host size by
`stop_le_roundUp`. A declaration that failed because of its size would have to break this bound, as
the other steps keep what they are told about sizes (`Layout.keepsSize_declaration`). The last part
is `memberField_size`, member by member. -/
theorem toModule_sizes {is : List Instruction} {words : List UInt32} {b : BinaryModule}
    (h : (Declarations.ofInstructions is).toModule words = .ok b) {st : StructType}
    (hst : st ∈ b.reflected.structs) (names : NameMap) :
    let l : Layout := { module := b.reflected, names }
    ∃ built, (Declarations.ofInstructions is).structs = .ok built ∧
      ((∀ mem ∈ st.members, ∃ n, Declarations.memberSize built mem = .ok n ∧
          mem.offset + n ≤ st.size) ∧
        (st.size = 0 ∨ ∃ mem ∈ st.members, ∃ n, Declarations.memberSize built mem = .ok n ∧
          st.size = mem.offset + n)) ∧
      (∀ size, l.structSize st.id = .ok size →
        ∃ align, l.structAlign st.id = .ok align ∧ size = roundUp st.size align) ∧
      (∀ align laid, l.structAlign st.id = .ok align →
        l.placeMembers st 0 st.members = .ok laid → laid.stop ≤ roundUp st.size align) ∧
      (∀ context size stop, l.declaration st ≠ .error (.layout context (.sizeTooSmall size stop))) ∧
      ∀ i mem field, st.members[i]? = some mem → l.member st i = .ok field →
        ∃ n, Declarations.memberSize built mem = .ok n ∧
          ((field.size = n ∧
              ∀ child, mem.ty.base = .struct child → mem.ty.isMatrix ∨ mem.ty.isArray) ∨
            ∃ child align, mem.ty.base = .struct child ∧ mem.ty.isMatrix = false ∧
              mem.ty.isArray = false ∧ l.structAlign child = .ok align ∧
              field.size = roundUp n align) := by
  intro l
  obtain ⟨built, hstructs, hbuilt, hfound, hmem⟩ := Declarations.exists_isBuilt_of_toModule h
  have hget : built.get? st.id = some st := (hmem st).1 hst
  obtain ⟨-, hsized, hreached⟩ := Declarations.membersEnd_spec (hbuilt.membersEnd hget)
  have hround (size : Nat) (hsize : l.structSize st.id = .ok size) :
      ∃ align, l.structAlign st.id = .ok align ∧ size = roundUp st.size align := by
    obtain ⟨st', align, hst', halign, -, hround⟩ := Layout.structSize_eq_ok_iff.1 hsize
    cases ((hfound st.id).trans hget).symm.trans hst'
    exact ⟨align, halign, hround⟩
  have hstop (align : Nat) (laid : Layout.Laid) (halign : l.structAlign st.id = .ok align)
      (hlaid : l.placeMembers st 0 st.members = .ok laid) : laid.stop ≤ roundUp st.size align :=
    hbuilt.stop_le_roundUp hfound hget halign hlaid
  refine ⟨built, hstructs, ⟨hsized, hreached⟩, hround, hstop, ?_, ?_⟩
  · intro context size stop heq
    have halign := Layout.keepsSize_structAlign (l := l) (Declarations.isComplete_of_toModule h)
      (Declarations.isAcyclic_of_toModule h)
    have hkeeps : KeepsSize (l.declaration st) := by
      refine Layout.keepsSize_declaration halign fun size laid hsize hlaid => ?_
      obtain ⟨align, halign', rfl⟩ := hround size hsize
      exact hstop align laid halign' hlaid
    cases hkeeps _ heq
  · intro i mem field hi hfield
    obtain ⟨n, hn, -⟩ := hsized mem (List.mem_of_getElem? hi)
    simp only [Layout.member, hi, Result.map_eq_ok_iff] at hfield
    obtain ⟨⟨_, a⟩, hfield, rfl⟩ := hfield
    refine ⟨n, hn, ?_⟩
    rcases Declarations.memberField_size hfound hn hfield with hplain | ⟨child, hnested⟩
    · exact .inl hplain
    · exact .inr ⟨child, a, hnested⟩

/-- The members of the block end with its host size, though the first of them takes 16 bytes on the
host where the reader gives it 12.

The general result applies, and there is no error about the size. -/
theorem nestedBlock_sizes :
    let l : Layout :=
      { module := nestedModule.reflected, names := .ofList [(2, "Inner"), (4, "Outer")] }
    (Declarations.ofInstructions nestedInstructions).toModule [] = .ok nestedModule ∧
      nestedBlock ∈ nestedModule.reflected.structs ∧
      l.member nestedBlock 0 = .ok
        { name := "_m0", type := .named "Inner", offset := 0, size := 16 } ∧
      ∀ context size stop, l.declaration nestedBlock ≠
        .error (.layout context (.sizeTooSmall size stop)) := by
  intro l
  have hst : nestedBlock ∈ nestedModule.reflected.structs := by decide
  have hmember : l.member nestedBlock 0 = .ok
      { name := "_m0", type := .named "Inner", offset := 0, size := 16 } := by cbv
  obtain ⟨built, -, -, -, -, hkeeps, -⟩ :=
    toModule_sizes toModule_nestedInstructions hst (.ofList [(2, "Inner"), (4, "Outer")])
  exact ⟨toModule_nestedInstructions, hst, hmember, hkeeps⟩

end Spirv

end ShaderBindings
