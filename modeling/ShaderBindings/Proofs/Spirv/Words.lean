import ShaderBindings.Proofs.Host.Failures
import ShaderBindings.Proofs.Spirv.Structs
/-!
# Declared sizes that are words

The reader computes the size of a struct from numbers that stand in the module as they are: widths,
vector sizes, columns, strides, extents and offsets. Each product and each sum is formed with 32
bits. Here the same quantities are formed without a limit. A member can be sized exactly if all of
them are words, and a module that was read is one where this holds of every member.

## Main definitions

* `Declarations.exactColumn?`, `Member.elementBytes`, `Member.declaredBytes` - sizes without a
  limit.
* `Member.FitsWords` - the quantities that are formed for a member are words.
* `Declarations.HasWordSizes` - so they are for every member that the reader comes to.

## Main results

* `Declarations.memberStop_eq_ok_iff` - the end of a member is exact, and needs no more than that.
* `Declarations.hasWordSizes_of_toModule` - a module that was read has word sizes.
-/

set_option autoImplicit false

namespace ShaderBindings

/-! ## Sizes without a limit -/

/-- The bytes of a member outside all arrays, from those of one column. -/
def Member.elementBytes (mem : Member) (column : Nat) : Nat :=
  if mem.ty.isMatrix then mem.matrixStride.getD column * mem.ty.columns else column

/-- The bytes of a member by its declared strides, from those of one column. Without a stride the
elements of an array follow one another. -/
def Member.declaredBytes (mem : Member) (column : Nat) : Nat :=
  match mem.ty.outerExtent?, mem.arrayStride with
  | none, _ => mem.elementBytes column
  | some outer, some stride => stride * extentCount outer
  | some _, none => mem.elementBytes column * elementCount mem.ty.extents

/-- The quantities that are formed for a member with the given bytes in a column are words: these
bytes themselves where they are of numbers, those of a matrix, the number of elements, where there
is no stride to go by, and the end of the member. -/
structure Member.FitsWords (mem : Member) (bytes : Nat) : Prop where
  column : mem.ty.base.structId? = none → bytes < Word.bound
  element : mem.ty.isMatrix → mem.elementBytes bytes < Word.bound
  count : mem.ty.isArray → mem.arrayStride = none → elementCount mem.ty.extents < Word.bound
  stop : mem.offset + mem.declaredBytes bytes < Word.bound

namespace Spirv.Declarations

variable {d : Declarations} {built : Table StructType} {mem : Member}

/-- The bytes of one column of a member, if the type of the member has a size. -/
def exactColumn? (built : Table StructType) (mem : Member) : Option Nat :=
  match mem.ty.base with
  | .struct id => (built.get? id).map (·.size)
  | .boolean => some (4 * mem.ty.components)
  | .integer width _ | .float width => some (width / 8 * mem.ty.components)
  | _ => none

/-- A column has the size it should have, provided that this is a word where it was formed as a
product. -/
theorem columnSize_eq_ok_iff {column : Nat} :
    columnSize built mem = .ok column ↔ exactColumn? built mem = some column ∧
      (mem.ty.base.structId? = none → column < Word.bound) := by
  unfold columnSize exactColumn?
  cases mem.ty.base with
  | struct id => cases hst : built.get? id <;> simp [BaseType.structId?, hst]
  | boolean | integer | float =>
    simp only [Word.mul_eq_ok_iff, BaseType.structId?, Option.some.injEq, true_imp_iff]
    constructor
    · rintro ⟨hlt, rfl⟩
      exact ⟨rfl, hlt⟩
    · rintro ⟨rfl, hlt⟩
      exact ⟨hlt, rfl⟩
  | _ => simp

/-- An element has the size it should have, provided that this is a word where it was formed as a
product. -/
theorem elementSize_eq_ok_iff {column element : Nat} :
    elementSize mem column = .ok element ↔
      (mem.ty.isMatrix → mem.elementBytes column < Word.bound) ∧
        element = mem.elementBytes column := by
  unfold elementSize Member.elementBytes
  split
  · next hmatrix => simp [hmatrix, Word.mul_eq_ok_iff]
  · next hmatrix => simp [hmatrix, eq_comm]

/-- The size of a member, together with its end.

**Proof sketch.** No size is larger than the end of the member, so of the sizes only those need to
be words that the end is not formed from, or where a factor can be zero. -/
theorem memberStop_eq_ok_iff {stop : Nat} :
    memberSize built mem >>= Word.add mem.offset = .ok stop ↔
      ∃ column, exactColumn? built mem = some column ∧ mem.FitsWords column ∧
        stop = mem.offset + mem.declaredBytes column := by
  have hwhole (column n : Nat) :
      wholeSize mem (mem.elementBytes column) = .ok n ∧ mem.offset + n < Word.bound ↔
        (mem.ty.isArray → mem.arrayStride = none → elementCount mem.ty.extents < Word.bound) ∧
          mem.offset + mem.declaredBytes column < Word.bound ∧ n = mem.declaredBytes column := by
    have harray : mem.ty.isArray = mem.ty.outerExtent?.isSome := by
      cases hextents : mem.ty.extents <;>
        simp [ShaderType.isArray, ShaderType.outerExtent?, hextents]
    unfold wholeSize Member.declaredBytes
    rw [harray]
    cases mem.ty.outerExtent? with
    | none =>
      simp only [Except.ok.injEq, Option.isSome_none, Bool.false_eq_true, false_imp_iff, true_and]
      grind
    | some outer =>
      cases mem.arrayStride with
      | some stride =>
        simp only [Word.mul_eq_ok_iff, reduceCtorEq, Option.isSome_some, false_imp_iff,
          true_imp_iff, true_and]
        grind
      | none =>
        simp only [Result.bind_eq_ok_iff, Word.product_eq_ok_iff, Word.mul_eq_ok_iff,
          Option.isSome_some, true_imp_iff]
        grind
  simp only [memberSize_eq, Result.bind_eq_ok_iff, columnSize_eq_ok_iff, elementSize_eq_ok_iff,
    Word.add_eq_ok_iff]
  constructor
  · rintro ⟨n, ⟨column, ⟨hexact, hcolumn⟩, _, ⟨helement, rfl⟩, hn⟩, hlt, rfl⟩
    obtain ⟨hcount, hstop, rfl⟩ := (hwhole column n).1 ⟨hn, hlt⟩
    exact ⟨column, hexact, ⟨hcolumn, helement, hcount, hstop⟩, rfl⟩
  · rintro ⟨column, hexact, hfits, rfl⟩
    obtain ⟨hn, hlt⟩ := (hwhole column _).2 ⟨hfits.count, hfits.stop, rfl⟩
    exact ⟨_, ⟨column, ⟨hexact, hfits.column⟩, _, ⟨hfits.element, rfl⟩, hn⟩, hlt, rfl⟩

/-! ## Modules -/

/-- The reader comes to the struct of the given id with the table of those in front of it. Structs
in front have been added without a failure, or it would not come so far. -/
def Meets (d : Declarations) (built : Table StructType) (id : Nat) : Prop :=
  ∃ before after, d.structIds = before ++ id :: after ∧ d.addStructs ∅ before = .ok built

/-- The quantities that are formed for the members of structs are words, whatever stands in front of
the struct. -/
def HasWordSizes (d : Declarations) : Prop :=
  ∀ built id types, d.Meets built id → d.typeDecl? id = some (.struct types) →
    ∀ i type mem column, types[i]? = some type → d.member id i type = .ok mem →
      exactColumn? built mem = some column → mem.FitsWords column

/-- Structs are added one after the other.

**Proof sketch.** Induction on the first part of the ids. -/
theorem addStructs_append (built : Table StructType) (ids ids' : List Nat) :
    d.addStructs built (ids ++ ids') =
      d.addStructs built ids >>= fun built => d.addStructs built ids' := by
  induction ids generalizing built with
  | nil => rfl
  | cons id ids ih =>
    simp only [List.cons_append, addStructs]
    split
    · simp only [ih, bind_assoc]
    · exact ih built

/-- The members of a struct that has a size end within a word.

**Proof sketch.** Induction on the members: the end of each is formed on the way. -/
theorem exists_memberStop_of_membersEnd {members : List Member} {least stop : Nat}
    (h : membersEnd built least members = .ok stop) :
    ∀ mem ∈ members, ∃ k, memberSize built mem >>= Word.add mem.offset = .ok k := by
  induction members generalizing least with
  | nil => simp
  | cons mem rest ih =>
    simp only [membersEnd, Result.bind_eq_ok_iff] at h
    obtain ⟨n, hn, k, hk, hrest⟩ := h
    exact List.forall_mem_cons.2 ⟨⟨k, Result.bind_eq_ok_iff.2 ⟨n, hn, hk⟩⟩, ih hrest⟩

/-- A module that was read has word sizes.

**Proof sketch.** The structs of the module were built, so at every struct that is declared its
members were sized by the table of those before it (`addStructs_append`). Their ends were formed
(`exists_memberStop_of_membersEnd`), which says that all quantities fit (`memberStop_eq_ok_iff`). -/
theorem hasWordSizes_of_toModule {words : List UInt32} {b : BinaryModule}
    (h : d.toModule words = .ok b) : d.HasWordSizes := by
  rintro built id types ⟨before, after, hids, hbefore⟩ hdecl i type mem column htype hmem hcolumn
  obtain ⟨all, hall, -⟩ := toModule_eq_ok h
  rw [structs, hids, addStructs_append] at hall
  obtain ⟨built', hbuilt', hall⟩ := Result.bind_eq_ok_iff.1 hall
  cases hbefore.symm.trans hbuilt'
  simp only [addStructs, hdecl] at hall
  obtain ⟨st, hst, -⟩ := Result.bind_eq_ok_iff.1 hall
  obtain ⟨-, -, hmembers, hend⟩ := struct_eq_ok_iff.1 hst
  have hzip : types.zipIdx[i]? = some (type, i) := by simp [List.getElem?_zipIdx, htype]
  obtain ⟨mem', hmem', hmember⟩ := Result.forall₂_getElem? hmembers hzip
  cases hmem.symm.trans hmember
  obtain ⟨k, hk⟩ := exists_memberStop_of_membersEnd hend mem (List.mem_of_getElem? hmem')
  obtain ⟨column', hcolumn', hfits, -⟩ := memberStop_eq_ok_iff.1 hk
  cases hcolumn.symm.trans hcolumn'
  exact hfits

end Spirv.Declarations

end ShaderBindings
