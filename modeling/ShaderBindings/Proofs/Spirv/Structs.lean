import Mathlib
import ShaderBindings.Proofs.Sorted
import ShaderBindings.Proofs.Spirv.Walks
import ShaderBindings.Proofs.Struct.Acyclic
/-!
# Structs of a binary module

The types of a binary module refer to one another by id, in any order, and an id can be declared
more than once. Still a module that can be read has all the structs that it refers to, and no struct
that contains itself: a struct is given a size only when those inside it have one.

## Main definitions

* `Declarations.Contains` - a member of the one struct is made of the other.
* `Declarations.IsBuilt` - the invariant of the reader: what may stand in its table of structs.

## Main results

* `Declarations.typeDecl?_of_resolve` - a type made of a struct is made of one that is declared.
* `Declarations.IsBuilt.insert`, `IsBuilt.addStructs` - the reader keeps its invariant.
* `Declarations.isComplete_of_toModule`, `isAcyclic_of_toModule` - a module that was read is
  complete and has no cycles.
* `toModule_wellFounded` - what the walks over its structs make of that.

## Implementation notes

Which struct contains which is a matter of the declarations alone, of which the last one of an id
holds, whatever the order of the ids. So a struct that is built again, since its id was declared
more than once, comes out as before, and the table only grows.
-/

set_option autoImplicit false

namespace ShaderBindings

/-- The resources of a class are those that were sorted into it, in order. -/
theorem Resources.ofClass_ofList (classified : List (ResourceClass × Resource))
    (c : ResourceClass) :
    (ofList classified).ofClass c = (classified.filter (·.1 == c)).map (·.2) := by
  cases c <;> rfl

/-- The resources of a class are those that were sorted into it.

The class that it was sorted with decides, and the order of the list does not matter. -/
theorem Resources.mem_ofClass_ofList {classified : List (ResourceClass × Resource)}
    {c : ResourceClass} {r : Resource} :
    r ∈ (ofList classified).ofClass c ↔ (c, r) ∈ classified := by
  simp only [ofClass_ofList, List.mem_map, List.mem_filter, beq_iff_eq]
  constructor
  · rintro ⟨⟨_, _⟩, ⟨hmem, rfl⟩, rfl⟩
    exact hmem
  · exact fun hmem => ⟨(c, r), ⟨hmem, rfl⟩, rfl⟩

namespace Spirv

namespace Declarations

variable {d : Declarations} {built built' : Table StructType} {id : Nat} {types : List Nat}
  {st : StructType}

/-! ## Types -/

/-- A type that is made of a struct is made of one that is declared.

**Proof sketch.** The walk along the type ends at the declaration of the struct, and what it puts
around that does not touch the base. -/
theorem typeDecl?_of_resolve {type child : Nat} {t : ShaderType}
    (h : d.resolve type = .ok t) (hbase : t.base = .struct child) :
    ∃ types, d.typeDecl? child = some (.struct types) := by
  refine resolve?_induction (motive := fun _ r => ∀ t, r = .ok t → t.base = .struct child →
    ∃ types, d.typeDecl? child = some (.struct types)) ?_ ?_ ?_ ?_ (resolve_eq_ok_iff.1 h) t rfl
    hbase
  · intro id r hleaf hr t ht hbase
    rw [ht] at hr
    cases hdecl : d.typeDecl? id with
    | none => simp [resolve?, hdecl] at hr
    | some decl =>
      rw [inner?_of_decl hdecl] at hleaf
      rw [resolve?, hdecl] at hr
      cases decl with
      | struct members =>
        cases hr
        cases hbase
        exact ⟨members, hdecl⟩
      | sampledImage image =>
        simp only [wrappedImage, Option.some.injEq] at hr
        split at hr <;> cases hr
        cases hbase
      | vector | matrix | array | runtimeArray | pointer => cases hleaf
      | _ =>
        cases hr
        cases hbase
  · intro id inner r f _ hf ih t ht hbase
    obtain ⟨t', rfl, rfl⟩ := Result.map_eq_ok_iff.1 ht
    exact ih t' rfl (hf t' ▸ hbase)
  · intro id inner length r _ ih t ht hbase
    obtain ⟨t', rfl, n, -, ht⟩ := by simpa only [Result.bind_eq_ok_iff] using ht
    cases ht
    exact ih t' rfl hbase
  · exact fun id inner r _ ih => ih

/-- An id whose type is declared as a struct is among the ids of the structs. -/
theorem mem_structIds (h : d.typeDecl? id = some (.struct types)) : id ∈ d.structIds :=
  List.mem_filterMap.2 ⟨_, type_mem_statements h, rfl⟩

/-- A member of the struct `id` is made of the struct `child`. -/
def Contains (d : Declarations) (id child : Nat) : Prop :=
  ∃ types, d.typeDecl? id = some (.struct types) ∧ ∃ type ∈ types, ∃ t,
    d.resolve type = .ok t ∧ t.base = .struct child

/-! ## Sizes of structs -/

/-- The bytes of one column of a member. A truth value takes a word, and a struct what its own
members take, so it has to be among those that are built. -/
def columnSize (built : Table StructType) (mem : Member) : Parse Nat :=
  match mem.ty.base with
  | .struct id =>
    match built.get? id with
    | some st => .ok st.size
    | none => .error (.undefinedStruct id)
  | .boolean => Word.mul 4 mem.ty.components
  | .integer width _ => Word.mul (width / 8) mem.ty.components
  | .float width => Word.mul (width / 8) mem.ty.components
  | _ => .error (.unsizedMember mem.name)

/-- The bytes of a member outside all arrays, from those of one column. -/
def elementSize (mem : Member) (column : Nat) : Parse Nat :=
  if mem.ty.isMatrix then Word.mul (mem.matrixStride.getD column) mem.ty.columns else .ok column

/-- The bytes of a member, from those it takes outside all arrays. With a stride the elements do not
matter; without one they are counted, and stand next to each other. -/
def wholeSize (mem : Member) (element : Nat) : Parse Nat :=
  match mem.ty.outerExtent?, mem.arrayStride with
  | none, _ => .ok element
  | some outer, some stride => Word.mul stride (extentCount outer)
  | some _, none => do
    let count ← Word.product (mem.ty.extents.map extentCount)
    Word.mul element count

/-- A member is sized from the inside out; only its column has to do with the table.

**Proof sketch.** The cases of the base type only differ in the size of a column. What follows is
the same for all of them, as a condition in front of a step can be drawn out of it. -/
theorem memberSize_eq (built : Table StructType) (mem : Member) :
    memberSize built mem =
      columnSize built mem >>= fun column => elementSize mem column >>= wholeSize mem := by
  have hmatrix (x : Parse Nat) (column : Nat) (k : Nat → Parse Nat) :
      (if mem.ty.isMatrix then x >>= k else Except.ok column >>= k) =
        (if mem.ty.isMatrix then x else .ok column) >>= k := by
    split <;> rfl
  unfold memberSize columnSize elementSize
  cases mem.ty.base with
  | struct id =>
    dsimp only
    cases built.get? id with
    | none => rfl
    | some st => exact hmatrix _ _ _
  | boolean => exact congrArg _ (funext fun _ => hmatrix _ _ _)
  | integer width signed => exact congrArg _ (funext fun _ => hmatrix _ _ _)
  | float width => exact congrArg _ (funext fun _ => hmatrix _ _ _)
  | _ => rfl

/-- What is sized with some of the structs is sized alike with more of them.

**Proof sketch.** Only a struct is looked up in the table, and what was found there is still
found. -/
theorem columnSize_of_extends (h : built'.Extends built) {mem : Member} {n : Nat}
    (hn : columnSize built mem = .ok n) : columnSize built' mem = .ok n := by
  unfold columnSize at hn ⊢
  cases hbase : mem.ty.base with
  | struct id =>
    simp only [hbase] at hn ⊢
    cases hst : built.get? id with
    | none => simp [hst] at hn
    | some st =>
      rw [h id st hst]
      rwa [hst] at hn
  | _ => rwa [hbase] at hn

/-- A member that is sized with some of the structs is sized alike with more of them. -/
theorem memberSize_of_extends (h : built'.Extends built) {mem : Member} {n : Nat}
    (hn : memberSize built mem = .ok n) : memberSize built' mem = .ok n := by
  rw [memberSize_eq, Result.bind_eq_ok_iff] at hn ⊢
  obtain ⟨column, hcolumn, hwhole⟩ := hn
  exact ⟨column, columnSize_of_extends h hcolumn, hwhole⟩

/-- A member is sized only if the struct that it is made of is in the table.

**Proof sketch.** The column of such a member is the struct, and the look-up of it went through. -/
theorem isSome_of_memberSize {mem : Member} {n child : Nat} (h : memberSize built mem = .ok n)
    (hbase : mem.ty.base = .struct child) : (built.get? child).isSome := by
  rw [memberSize_eq, Result.bind_eq_ok_iff] at h
  obtain ⟨column, hcolumn, -⟩ := h
  simp only [columnSize, hbase] at hcolumn
  cases hst : built.get? child with
  | none => simp [hst] at hcolumn
  | some st => rfl

/-- Members that are sized with some of the structs are sized alike with more of them. -/
theorem membersEnd_of_extends (h : built'.Extends built) {members : List Member} {least stop : Nat}
    (hstop : membersEnd built least members = .ok stop) :
    membersEnd built' least members = .ok stop := by
  induction members generalizing least with
  | nil => exact hstop
  | cons mem rest ih =>
    simp only [membersEnd, Result.bind_eq_ok_iff] at hstop ⊢
    obtain ⟨n, hn, k, hk, hrest⟩ := hstop
    exact ⟨n, memberSize_of_extends h hn, k, hk, ih hrest⟩

/-- The byte behind the furthest member is that of one of them.

**Proof sketch.** Induction on the members. The least end of the others is the greater one of the
least end so far and the end of the first member. -/
theorem membersEnd_spec {members : List Member} {least stop : Nat}
    (h : membersEnd built least members = .ok stop) :
    least ≤ stop ∧
      (∀ mem ∈ members, ∃ n, memberSize built mem = .ok n ∧ mem.offset + n ≤ stop) ∧
      (stop = least ∨
        ∃ mem ∈ members, ∃ n, memberSize built mem = .ok n ∧ stop = mem.offset + n) := by
  induction members generalizing least with
  | nil =>
    cases h
    simp
  | cons mem rest ih =>
    simp only [membersEnd, Result.bind_eq_ok_iff, Word.add_eq_ok_iff] at h
    obtain ⟨n, hn, _, ⟨-, rfl⟩, h⟩ := h
    obtain ⟨hle, hall, hreached⟩ := ih h
    refine ⟨by omega, List.forall_mem_cons.2 ⟨⟨n, hn, by omega⟩, hall⟩, ?_⟩
    rcases hreached with hstop | ⟨mem', hmem', n', hn', hstop⟩
    · rcases Nat.le_total least (mem.offset + n) with hmax | hmax
      · exact .inr ⟨mem, List.mem_cons_self, n, hn, by omega⟩
      · exact .inl (by omega)
    · exact .inr ⟨mem', List.mem_cons_of_mem _ hmem', n', hn', hstop⟩

/-! ## Structs -/

/-- What a struct is read as: its id, its name or a name made from the id, its members and the byte
behind the furthest of them. -/
theorem struct_eq_ok_iff :
    d.struct built id types = .ok st ↔
      st.id = id ∧ st.name = (d.name? id).getD s!"_{id}" ∧
        List.Forall₂ (fun t mem => d.member id t.2 t.1 = .ok mem) types.zipIdx st.members ∧
        membersEnd built 0 st.members = .ok st.size := by
  simp only [struct, Result.bind_eq_ok_iff, Result.mapM_eq_ok_iff]
  constructor
  · rintro ⟨members, hmembers, size, hsize, h⟩
    cases h
    exact ⟨rfl, rfl, hmembers, hsize⟩
  · rintro ⟨rfl, hname, hmembers, hsize⟩
    refine ⟨_, hmembers, _, hsize, ?_⟩
    rw [← hname]
    rfl

/-- A struct that is built with some of the structs is built alike with more of them. -/
theorem struct_of_extends (h : built'.Extends built) (hst : d.struct built id types = .ok st) :
    d.struct built' id types = .ok st := by
  obtain ⟨hid, hname, hmembers, hsize⟩ := struct_eq_ok_iff.1 hst
  exact struct_eq_ok_iff.2 ⟨hid, hname, hmembers, membersEnd_of_extends h hsize⟩

/-- The type of a member is what its type id resolves to. -/
theorem resolve_of_member {owner index type : Nat} {mem : Member}
    (h : d.member owner index type = .ok mem) : d.resolve type = .ok mem.ty := by
  simp only [member, Result.bind_eq_ok_iff] at h
  obtain ⟨ty, hty, h⟩ := h
  cases h
  exact hty

/-- The members of a struct have the types that are declared. -/
theorem exists_type_of_mem (h : d.struct built id types = .ok st) {mem : Member}
    (hmem : mem ∈ st.members) : ∃ type ∈ types, d.resolve type = .ok mem.ty := by
  obtain ⟨-, -, hmembers, -⟩ := struct_eq_ok_iff.1 h
  obtain ⟨⟨type, index⟩, htype, hmember⟩ := Result.forall₂_mem_right hmembers hmem
  exact ⟨type, List.fst_mem_of_mem_zipIdx htype, resolve_of_member hmember⟩

/-- Every declared type is that of a member. -/
theorem exists_mem_of_type (h : d.struct built id types = .ok st) {type : Nat}
    (htype : type ∈ types) : ∃ mem ∈ st.members, d.resolve type = .ok mem.ty := by
  obtain ⟨-, -, hmembers, -⟩ := struct_eq_ok_iff.1 h
  obtain ⟨i, hi⟩ := List.mem_iff_getElem?.1 htype
  have hzip : types.zipIdx[i]? = some (type, i) := by simp [List.getElem?_zipIdx, hi]
  obtain ⟨mem, hmem, hmember⟩ := Result.forall₂_getElem? hmembers hzip
  exact ⟨mem, List.mem_of_getElem? hmem, resolve_of_member hmember⟩

/-! ## The table of structs -/

/-- What may stand in the table of structs: structs as they are declared, sized by the table itself,
none of which contains others without end. -/
structure IsBuilt (d : Declarations) (built : Table StructType) : Prop where
  declared : ∀ id st, built.get? id = some st →
    ∃ types, d.typeDecl? id = some (.struct types) ∧ d.struct built id types = .ok st
  grounded : ∀ id st, built.get? id = some st → Acc (fun child id => d.Contains id child) id

/-- Before any struct is read the invariant holds. -/
theorem isBuilt_empty : d.IsBuilt ∅ := ⟨by simp, by simp⟩

/-- Every struct of the table is known by its id. -/
theorem IsBuilt.id_eq (h : d.IsBuilt built) (hst : built.get? id = some st) : st.id = id := by
  obtain ⟨types, -, hstruct⟩ := h.declared id st hst
  exact (struct_eq_ok_iff.1 hstruct).1

/-- The members of a struct of the table are sized by the table. -/
theorem IsBuilt.membersEnd (h : d.IsBuilt built) (hst : built.get? id = some st) :
    membersEnd built 0 st.members = .ok st.size := by
  obtain ⟨types, -, hstruct⟩ := h.declared id st hst
  exact (struct_eq_ok_iff.1 hstruct).2.2.2

/-- The structs inside a struct of the table are in the table. -/
theorem IsBuilt.isSome_child (h : d.IsBuilt built) (hst : built.get? id = some st) {mem : Member}
    (hmem : mem ∈ st.members) {child : Nat} (hbase : mem.ty.base = .struct child) :
    (built.get? child).isSome := by
  obtain ⟨-, hsized, -⟩ := membersEnd_spec (h.membersEnd hst)
  obtain ⟨n, hn, -⟩ := hsized mem hmem
  exact isSome_of_memberSize hn hbase

/-- A struct that is built again, its id being in the table, comes out as before.

**Proof sketch.** At other ids nothing changes. At this one there was a struct of the same
declaration, and it was sized by the same table. -/
theorem IsBuilt.extends_insert (h : d.IsBuilt built)
    (hdecl : d.typeDecl? id = some (.struct types)) (hst : d.struct built id types = .ok st) :
    (built.insert id st).Extends built := by
  intro key value hvalue
  rw [Table.get?_insert]
  split
  · next heq =>
    subst heq
    obtain ⟨types', hdecl', hst'⟩ := h.declared key value hvalue
    cases hdecl.symm.trans hdecl'
    cases hst.symm.trans hst'
    rfl
  · exact hvalue

/-- A struct that can be built contains no others without end: it has a size, so all structs inside
it are in the table.

**Proof sketch.** Every member has a size (`membersEnd_spec`), so the struct it is made of is in the
table (`isSome_of_memberSize`), and for structs in the table there is nothing to show. -/
theorem IsBuilt.acc_of_struct (h : d.IsBuilt built)
    (hdecl : d.typeDecl? id = some (.struct types)) (hst : d.struct built id types = .ok st) :
    Acc (fun child id => d.Contains id child) id := by
  obtain ⟨-, -, -, hsize⟩ := struct_eq_ok_iff.1 hst
  obtain ⟨-, hsized, -⟩ := membersEnd_spec hsize
  refine Acc.intro id ?_
  rintro child ⟨types', hdecl', type, htype, t, ht, hbase⟩
  cases hdecl.symm.trans hdecl'
  obtain ⟨mem, hmem, hty⟩ := exists_mem_of_type hst htype
  cases ht.symm.trans hty
  obtain ⟨n, hn, -⟩ := hsized mem hmem
  obtain ⟨inner, hinner⟩ := Option.isSome_iff_exists.1 (isSome_of_memberSize hn hbase)
  exact h.grounded child inner hinner

/-- Building one more struct keeps the invariant.

**Proof sketch.** The table is extended (`IsBuilt.extends_insert`), so all structs in it are still
what their declarations give. The new one contains no others without end
(`IsBuilt.acc_of_struct`). -/
theorem IsBuilt.insert (h : d.IsBuilt built) (hdecl : d.typeDecl? id = some (.struct types))
    (hst : d.struct built id types = .ok st) : d.IsBuilt (built.insert id st) := by
  have hextends := h.extends_insert hdecl hst
  refine ⟨fun key value hvalue => ?_, fun key value hvalue => ?_⟩
  · rw [Table.get?_insert] at hvalue
    split at hvalue
    · next heq =>
      subst heq
      cases hvalue
      exact ⟨types, hdecl, struct_of_extends hextends hst⟩
    · obtain ⟨types', hdecl', hst'⟩ := h.declared key value hvalue
      exact ⟨types', hdecl', struct_of_extends hextends hst'⟩
  · rw [Table.get?_insert] at hvalue
    split at hvalue
    · next heq => exact heq ▸ h.acc_of_struct hdecl hst
    · exact h.grounded key value hvalue

/-- Building structs one after the other keeps the invariant and what stands in the table, and puts
every one of them into it.

**Proof sketch.** Induction on the ids, with one step by `IsBuilt.insert`. An id whose type is no
struct, since it was declared again, is passed over. -/
theorem IsBuilt.addStructs (h : d.IsBuilt built) {ids : List Nat}
    (hadd : d.addStructs built ids = .ok built') :
    d.IsBuilt built' ∧ built'.Extends built ∧
      ∀ id ∈ ids, ∀ types, d.typeDecl? id = some (.struct types) → (built'.get? id).isSome := by
  induction ids generalizing built with
  | nil =>
    cases hadd
    exact ⟨h, .refl _, by simp⟩
  | cons id rest ih =>
    simp only [Declarations.addStructs] at hadd
    split at hadd
    · next types hdecl =>
      obtain ⟨st, hst, hadd⟩ := Result.bind_eq_ok_iff.1 hadd
      obtain ⟨hbuilt, hrest, hall⟩ := ih (h.insert hdecl hst) hadd
      refine ⟨hbuilt, hrest.trans (h.extends_insert hdecl hst),
        List.forall_mem_cons.2 ⟨fun _ _ => ?_, hall⟩⟩
      rw [hrest id st (by simp)]
      rfl
    · next hnone =>
      obtain ⟨hbuilt, hrest, hall⟩ := ih h hadd
      exact ⟨hbuilt, hrest, List.forall_mem_cons.2 ⟨fun types ht => absurd ht (hnone types), hall⟩⟩

/-- The table of a module holds every struct that is declared. -/
theorem isBuilt_of_structs (h : d.structs = .ok built) :
    d.IsBuilt built ∧
      ∀ id types, d.typeDecl? id = some (.struct types) → (built.get? id).isSome := by
  obtain ⟨hbuilt, -, hall⟩ := isBuilt_empty.addStructs h
  exact ⟨hbuilt, fun id types hdecl => hall id (mem_structIds hdecl) types hdecl⟩

/-! ## Modules -/

variable {words : List UInt32} {b : BinaryModule}

/-- A module that was read holds the structs of the table and the resources. -/
theorem toModule_eq_ok (h : d.toModule words = .ok b) :
    ∃ built, d.structs = .ok built ∧ b.reflected.structs = built.values ∧
      d.resources = .ok b.reflected.resources := by
  simp only [toModule, Result.bind_eq_ok_iff] at h
  obtain ⟨built, hbuilt, resources, hresources, specs, -, h⟩ := h
  cases h
  exact ⟨built, hbuilt, rfl, hresources⟩

/-- The structs of a module that was read are those of a table that was built.

**Proof sketch.** The table of the module satisfies the invariant (`isBuilt_of_structs`). Every
struct in it is known by its id, so that the module finds it under this id as the table does. -/
theorem exists_isBuilt_of_toModule (h : d.toModule words = .ok b) :
    ∃ built, d.structs = .ok built ∧ d.IsBuilt built ∧
      (∀ id, b.reflected.struct? id = built.get? id) ∧
      ∀ st, st ∈ b.reflected.structs ↔ built.get? st.id = some st := by
  obtain ⟨built, hstructs, hvalues, -⟩ := toModule_eq_ok h
  obtain ⟨hbuilt, -⟩ := isBuilt_of_structs hstructs
  refine ⟨built, hstructs, hbuilt, fun id => ?_, fun st => ?_⟩
  · unfold ShaderModule.struct?
    rw [hvalues]
    exact Table.find?_values (fun key value hvalue => hbuilt.id_eq hvalue) id
  · rw [hvalues, Table.mem_values_iff]
    constructor
    · rintro ⟨key, hkey⟩
      rwa [hbuilt.id_eq hkey]
    · exact fun hst => ⟨st.id, hst⟩

/-- A module that was read has the structs that are declared, and no others.

**Proof sketch.** What is in the table was declared, and what was declared has been put into it
(`isBuilt_of_structs`). -/
theorem isSome_struct?_iff (h : d.toModule words = .ok b) :
    (b.reflected.struct? id).isSome ↔ ∃ types, d.typeDecl? id = some (.struct types) := by
  obtain ⟨built, hstructs, hbuilt, hfound, -⟩ := exists_isBuilt_of_toModule h
  rw [hfound]
  constructor
  · intro hsome
    obtain ⟨st, hst⟩ := Option.isSome_iff_exists.1 hsome
    obtain ⟨types, hdecl, -⟩ := hbuilt.declared id st hst
    exact ⟨types, hdecl⟩
  · rintro ⟨types, hdecl⟩
    exact (isBuilt_of_structs hstructs).2 id types hdecl

/-- The type of a resource is one that is declared.

**Proof sketch.** A resource is made from a variable that points to a type, and this is the type
that was resolved. -/
theorem exists_resolve_of_resources {resources : Resources} (h : d.resources = .ok resources)
    {c : ResourceClass} {r : Resource} (hr : r ∈ resources.ofClass c) :
    ∃ type, d.resolve type = .ok r.ty := by
  simp only [Declarations.resources, Result.bind_eq_ok_iff] at h
  obtain ⟨found, hfound, h⟩ := h
  cases h
  rw [Resources.mem_ofClass_ofList, List.mem_filterMap] at hr
  obtain ⟨entry, hentry, rfl⟩ := hr
  obtain ⟨v, -, hv⟩ := Result.forall₂_mem_right (Result.mapM_eq_ok_iff.1 hfound) hentry
  unfold resource? at hv
  split at hv
  · cases hv
  · next pointee hpointer =>
    simp only [Result.bind_eq_ok_iff] at hv
    obtain ⟨base, -, class?, -, hv⟩ := hv
    split at hv
    · cases hv
    · obtain ⟨ty, hty, hv⟩ := Result.bind_eq_ok_iff.1 hv
      cases hv
      exact ⟨pointee, hty⟩
  · cases hv

/-- A module that was read is complete.

**Proof sketch.** Structs are found under their ids, structs inside them have been built
(`IsBuilt.isSome_child`), and the struct of a resource has been declared (`isSome_struct?_iff`). -/
theorem isComplete_of_toModule (h : d.toModule words = .ok b) : b.reflected.IsComplete := by
  obtain ⟨built, -, hbuilt, hfound, hmem⟩ := exists_isBuilt_of_toModule h
  obtain ⟨-, -, -, hresources⟩ := toModule_eq_ok h
  refine ⟨fun st hst => ?_, fun st hst mem hmember child hbase => ?_, fun c r hr id hbase => ?_⟩
  · rw [hfound]
    exact (hmem st).1 hst
  · rw [hfound]
    exact hbuilt.isSome_child ((hmem st).1 hst) hmember hbase
  · obtain ⟨type, htype⟩ := exists_resolve_of_resources hresources hr
    exact (isSome_struct?_iff h).2 (typeDecl?_of_resolve htype hbase)

/-- A struct of a module contains what its declaration does.

**Proof sketch.** A child comes from a member, and the member from a declared type. -/
theorem contains_of_toModule (h : d.toModule words = .ok b) {child : Nat}
    (hcontains : b.reflected.Contains id child) : d.Contains id child := by
  obtain ⟨built, -, hbuilt, hfound, -⟩ := exists_isBuilt_of_toModule h
  obtain ⟨st, hst, hchild⟩ := hcontains
  obtain ⟨mem, hmem, hbase⟩ := StructType.mem_children_iff.1 hchild
  obtain ⟨types, hdecl, hstruct⟩ := hbuilt.declared id st (hfound id ▸ hst)
  obtain ⟨type, htype, hresolve⟩ := exists_type_of_mem hstruct hmem
  exact ⟨types, hdecl, type, htype, mem.ty, hresolve, hbase⟩

/-- No struct of a module that was read contains itself.

**Proof sketch.** Induction on how deep the structs inside a struct of the table go: the next struct
on a cycle is inside, so it goes less deep, and the cycle comes back to it. -/
theorem isAcyclic_of_toModule (h : d.toModule words = .ok b) : b.reflected.IsAcyclic := by
  intro id hcycle
  obtain ⟨built, -, hbuilt, hfound, -⟩ := exists_isBuilt_of_toModule h
  obtain ⟨child, ⟨st, hst, -⟩, -⟩ := Relation.TransGen.head'_iff.1 hcycle
  induction hbuilt.grounded id st (hfound id ▸ hst) generalizing st with
  | intro id _ ih =>
    obtain ⟨next, hnext, hback⟩ := Relation.TransGen.head'_iff.1 hcycle
    have hcycle' := Relation.TransGen.tail' hback hnext
    obtain ⟨_, ⟨st', hst', -⟩, -⟩ := Relation.TransGen.head'_iff.1 hcycle'
    exact ih next (contains_of_toModule h hnext) hcycle' st' hst'

end Declarations

/-- **A module that was read has no gaps and no cycles.** Whatever the order of the instructions and
however often an id is declared: the structs are those that are declared, those that members and
resources refer to are among them, and none contains itself, at any depth. So no struct is refused a
host alignment for containing itself, the reachable structs can be listed unless a buffer block is
no struct, and every struct has a signature in which no struct comes round again.

**Proof sketch.** The first three parts are `Declarations.isSome_struct?_iff`,
`Declarations.isComplete_of_toModule` and `Declarations.isAcyclic_of_toModule`. In a complete module
without cycles, failures are known for alignment (`ShaderModule.failsOnly_alignWithin`) and for the
walk (`IsComplete.failsOnly_reachable`), and signatures are trees
(`ShaderModule.exists_signature`). -/
theorem toModule_wellFounded {is : List Instruction} {words : List UInt32} {b : BinaryModule}
    (h : (Declarations.ofInstructions is).toModule words = .ok b) :
    (∀ id, (b.reflected.struct? id).isSome ↔
      ∃ types, (Declarations.ofInstructions is).typeDecl? id = some (.struct types)) ∧
    b.reflected.IsComplete ∧ b.reflected.IsAcyclic ∧
    (∀ names id name, ({ module := b.reflected, names } : Layout).structAlign id ≠
      .error (.layout name .containsItself)) ∧
    (∀ id, b.reflected.reachable ≠ .error (b.reflected.missingStruct id)) ∧
    ((∀ block ∈ b.reflected.resources.bufferBlocks, block.ty.base.structId?.isSome) →
      ∃ order, b.reflected.reachable = .ok order) ∧
    ∀ st ∈ b.reflected.structs, ∃ o text, b.reflected.HasOutline [st.id] st.members o ∧
      o.IsTree ∧ b.reflected.signature st = .ok text ∧
      text.toList = Outline.heading st.name st.size ++ o.text := by
  have hcomplete := Declarations.isComplete_of_toModule h
  have hacyclic := Declarations.isAcyclic_of_toModule h
  refine ⟨fun id => Declarations.isSome_struct?_iff h, hcomplete, hacyclic, ?_, ?_, ?_, ?_⟩
  · intro names id name heq
    rcases ShaderModule.failsOnly_alignWithin hcomplete hacyclic id _ heq with hmissing | hkind
    · unfold ShaderModule.missingStruct at hmissing
      split at hmissing <;> cases hmissing
    · cases hkind
  · intro id heq
    obtain ⟨block, -, -, hblock⟩ := hcomplete.failsOnly_reachable _ heq
    unfold ShaderModule.missingStruct at hblock
    split at hblock <;> cases hblock
  · intro hblocks
    cases horder : b.reflected.reachable with
    | ok order => exact ⟨order, rfl⟩
    | error e =>
      obtain ⟨block, hblock, hnone, -⟩ := hcomplete.failsOnly_reachable e horder
      simpa [hnone] using hblocks block hblock
  · exact fun st hst => ShaderModule.exists_signature hcomplete hacyclic hst

/-- A module in which a block holds a struct and an array of it. The id of the struct is declared as
a number first, and the block is referred to before it is declared. -/
def nestedInstructions : List Instruction :=
  [⟨.memberDecorate, [.id 2, .integer 1, .value .decoration 35, .integer 8]⟩,
   ⟨.memberDecorate, [.id 4, .integer 1, .value .decoration 35, .integer 16]⟩,
   ⟨.decorate, [.id 4, .value .decoration 2]⟩,
   ⟨.decorate, [.id 5, .value .decoration 6, .integer 16]⟩,
   ⟨.typePointer, [.result 6, .value .storageClass 2, .id 4]⟩,
   ⟨.typeFloat, [.result 1, .integer 64]⟩,
   ⟨.typeFloat, [.result 2, .integer 32]⟩,
   ⟨.typeInt, [.result 3, .integer 32, .integer 0]⟩,
   ⟨.constant, [.resultType 3, .result 7, .integer 2]⟩,
   ⟨.typeArray, [.result 5, .id 2, .id 7]⟩,
   ⟨.typeStruct, [.result 2, .id 1, .id 3]⟩,
   ⟨.typeStruct, [.result 4, .id 2, .id 5]⟩,
   ⟨.variableOp, [.resultType 6, .result 8, .value .storageClass 2]⟩]

/-- The struct of that module, whose members end 12 bytes behind its start. -/
def nestedStruct : StructType where
  id := 2
  name := "_2"
  size := 12
  members :=
    [{ name := "_m0", ty := { base := .float 64 }, offset := 0 },
     { name := "_m1", ty := .uint32, offset := 8 }]

/-- The block. Its first member ends four bytes before the second one starts. -/
def nestedBlock : StructType where
  id := 4
  name := "_4"
  size := 48
  members :=
    [{ name := "_m0", ty := .struct 2, offset := 0 },
     { name := "_m1", ty := (ShaderType.struct 2).arrayOf 2, offset := 16, arrayStride := some 16 }]

/-- That module. -/
def nestedModule : BinaryModule where
  version := (0, 0)
  entryPoints := []
  reflected :=
    { origin := .binary
      structs := [nestedStruct, nestedBlock]
      resources := { uniformBuffers := [{ ty := .struct 4, id := 8, baseType := 4 }] } }

/-- The module is read, though it refers ahead and declares an id again. -/
theorem toModule_nestedInstructions :
    (Declarations.ofInstructions nestedInstructions).toModule [] = .ok nestedModule := by
  cbv

/-- What it refers to is there. -/
theorem nestedModule_wellFounded :
    (Declarations.ofInstructions nestedInstructions).toModule [] = .ok nestedModule ∧
      nestedModule.reflected.IsComplete ∧ nestedModule.reflected.IsAcyclic :=
  have h := toModule_nestedInstructions
  ⟨h, (toModule_wellFounded h).2.1, (toModule_wellFounded h).2.2.1⟩

end Spirv

end ShaderBindings
