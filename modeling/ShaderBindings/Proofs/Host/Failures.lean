import ShaderBindings.Interface.PushConstants
import ShaderBindings.Proofs.Host.WholeWords
/-!
# How a layout can fail

What keeps a struct from being laid out is a type without a counterpart, a layout that the host
cannot reproduce, or a struct that is missing or has no name. Sizes and ends are checked before they
are formed, and no difference is formed below zero. Only two products are not checked: the bytes of
a column and the number of inner elements of an array. The bytes between elements and between
members are whole words, so the two checks of that never report anything. This module follows the
failures through all steps of a layout, for any kind of failure that takes in those that can be met.

## Main definitions

* `Member.IsWordSized` - the products of a member that are not checked are words.
* `Member.IsHosted` - the host has a counterpart of the type of a member.
* `Member.CoveredBy`, `Layout.StructCoveredBy`, `Layout.CoveredBy` - a kind takes in the failures at
  a member, at a struct, and at all structs inside buffer blocks.

## Main results

* `Word.product_eq_ok_iff` - the elements of an array are counted exactly if they are a word.
* `ShaderModule.failsOnly_alignWithin_of_covered` - the failures of a host alignment.
* `Layout.failsOnly_declaration`, `failsOnly_joinMembers` - the failures of a declaration and of the
  ranges of a push-constant block.
* `Layout.CoveredBy.failsOnly_declaration`, `failsOnly_pushBlockRanges?` - the same for the structs
  inside the buffer blocks of a module.
-/

set_option autoImplicit false

namespace ShaderBindings

/-- The declared size of a struct is too small for its members. -/
def Error.isSizeTooSmall : Error → Bool
  | layout _ (.sizeTooSmall ..) => true
  | _ => false

/-- The bytes between two elements or two members cannot be filled with words. -/
def Error.isOdd : Error → Bool
  | layout _ (.oddPadding _) => true
  | layout _ (.oddGap ..) => true
  | _ => false

/-! ## Products -/

/-- Every extent counts for one element at least. -/
theorem extentCount_pos (extent : Nat) : 0 < extentCount extent :=
  Nat.lt_of_lt_of_le Nat.one_pos (Nat.le_max_right _ _)

/-- The elements of an array of any number of dimensions; one if there is none. It is the exact
number, which need not be a word. -/
def elementCount (extents : List Nat) : Nat := (extents.map extentCount).foldr (· * ·) 1

/-- An array has an element, however its extents are given. -/
theorem elementCount_pos (extents : List Nat) : 0 < elementCount extents := by
  induction extents with
  | nil => exact Nat.one_pos
  | cons n extents ih => exact Nat.mul_pos (extentCount_pos n) ih

/-- A product of words is the product of the numbers. -/
theorem Word.eq_of_product {ε : Type} [OfWordOp ε] {factors : List Nat} {n : Nat}
    (h : (Word.product factors : Except ε Nat) = .ok n) : n = factors.foldr (· * ·) 1 := by
  rw [Result.eq_mul_of_foldlM (fun _ _ _ hm => (mul_eq_ok_iff.1 hm).2) h, Nat.one_mul]

/-- Multiplying the extents dimension by dimension succeeds if the number of elements is a word.

**Proof sketch.** No dimension counts for less than one element, so no product on the way is larger
than the last one. -/
theorem Word.product_eq_ok {ε : Type} [OfWordOp ε] {extents : List Nat}
    (h : elementCount extents < bound) :
    (Word.product (extents.map extentCount) : Except ε Nat) = .ok (elementCount extents) := by
  have hfold (start : Nat) (hlt : start * elementCount extents < bound) :
      ((extents.map extentCount).foldlM Word.mul start : Except ε Nat) =
        .ok (start * elementCount extents) := by
    clear h
    induction extents generalizing start with
    | nil => simp [elementCount, pure, Except.pure]
    | cons n extents ih =>
      have heq : start * elementCount (n :: extents) =
          start * extentCount n * elementCount extents := (Nat.mul_assoc _ _ _).symm
      have hle := Nat.le_mul_of_pos_right (start * extentCount n) (elementCount_pos extents)
      rw [heq] at hlt ⊢
      rw [List.map_cons, List.foldlM_cons, Word.mul_eq_ok_iff.2 ⟨by omega, rfl⟩]
      exact ih _ hlt
  have := hfold 1 (by rwa [Nat.one_mul])
  rwa [Nat.one_mul] at this

/-- Multiplying the extents dimension by dimension succeeds exactly if the number of elements is a
word.

**Proof sketch.** The factors are positive, so no product on the way is larger than the last one. If
the last multiplication succeeds its result is a word, and if the number of elements is a word all
multiplications succeed. -/
theorem Word.product_eq_ok_iff {ε : Type} [OfWordOp ε] {extents : List Nat} {n : Nat} :
    (Word.product (extents.map extentCount) : Except ε Nat) = .ok n ↔
      elementCount extents < bound ∧ n = elementCount extents := by
  constructor
  · intro h
    have heq : n = elementCount extents := eq_of_product h
    refine ⟨?_, heq⟩
    obtain rfl | ⟨front, last, rfl⟩ := extents.eq_nil_or_concat
    · decide
    · rw [List.concat_eq_append, List.map_append, Word.product, List.foldlM_append] at h
      obtain ⟨m, -, h⟩ := Result.bind_eq_ok_iff.1 h
      simp only [List.map_cons, List.map_nil, List.foldlM_cons, List.foldlM_nil, bind_pure,
        mul_eq_ok_iff] at h
      omega
  · rintro ⟨hlt, rfl⟩
    exact product_eq_ok hlt

/-! ## Kinds of failures -/

/-- The products that are formed for a member without a check are words: the bytes of its column and
the elements of the inner dimensions of an array. -/
structure Member.IsWordSized (mem : Member) : Prop where
  column : ∀ s, mem.ty.base.hostScalar = .ok s → s.size * mem.ty.components < Word.bound
  inner : elementCount mem.ty.extents.tail < Word.bound

/-- The host has a counterpart of the type of the member, up to that of a struct. Of a struct it is
asked elsewhere, for each of its own members. -/
structure Member.IsHosted (mem : Member) : Prop where
  scalar : mem.ty.base.structId? = none → ∃ s, mem.ty.base.hostScalar = .ok s
  columnMajor : mem.ty.isMatrix → mem.rowMajor = false

/-- The kind takes in the failures that can be met at the member itself. -/
structure Member.CoveredBy (mem : Member) (kind : Error → Prop) : Prop where
  types : mem.IsHosted ∨ ∀ context cause, kind (.unsupportedType context cause)
  words : mem.IsWordSized ∨ kind (.overflow .multiply)

/-- The kind takes in the failures that can be met at a struct of the layout. These are the failures
of a member that has the struct as its type. -/
structure Layout.StructCoveredBy (l : Layout) (kind : Error → Prop) (id : Nat) : Prop where
  found : l.module.struct? id = none → kind (l.module.missingStruct id)
  named : l.names.get? id = none → kind (.invalidModule (.unnamedStruct id))
  aligned : Result.FailsOnly kind (l.structAlign id)

open Result

/-- A product fails for its size at most, and not where it is known to be a word. -/
theorem failsOnly_mul {ε : Type} [OfWordOp ε] {kind : ε → Prop} {a b : Nat}
    (h : a * b < Word.bound ∨ kind (OfWordOp.overflow .multiply)) :
    FailsOnly kind (Word.mul a b) :=
  .ite (fun _ => failsOnly_ok) fun hlt => failsOnly_error.2 (h.resolve_left hlt)

/-- The product of extents fails for its size at most, and not where the number of elements is known
to be a word. -/
theorem failsOnly_product {ε : Type} [OfWordOp ε] {kind : ε → Prop} {extents : List Nat}
    (h : elementCount extents < Word.bound ∨ kind (OfWordOp.overflow .multiply)) :
    FailsOnly kind (Word.product (extents.map extentCount)) := by
  rcases h with hlt | hkind
  · rw [Word.product_eq_ok hlt]
    exact failsOnly_ok
  · exact .foldlM (fun _ _ => failsOnly_mul (.inr hkind)) _ _

/-- Whatever holds of all invalid modules holds of the report of a missing struct, be the module
given or read. -/
theorem ShaderModule.kind_missingStruct {kind : Error → Prop}
    (hinvalid : ∀ cause, kind (.invalidModule cause)) (m : ShaderModule) (id : Nat) :
    kind (m.missingStruct id) := by
  unfold missingStruct
  cases m.origin with
  | given => exact hinvalid _
  | binary => exact hinvalid _

/-- Looking for a struct fails only if there is none. -/
theorem ShaderModule.failsOnly_struct {m : ShaderModule} {kind : Error → Prop} {id : Nat}
    (h : m.struct? id = none → kind (m.missingStruct id)) : FailsOnly kind (m.struct id) := by
  unfold ShaderModule.struct
  cases hst : m.struct? id with
  | none => exact failsOnly_error.2 (h hst)
  | some st => exact failsOnly_ok

/-- Where the host has a scalar for every number, looking for it does not fail.

**Proof sketch.** Either the host has a scalar for the type, and the search cannot fail, or all
failures about types are covered. -/
theorem Member.CoveredBy.failsOnly_scalarIn {mem : Member} {kind : Error → Prop}
    (h : mem.CoveredBy kind) (hbase : mem.ty.base.structId? = none) (context : String) :
    FailsOnly kind (mem.ty.base.scalarIn context) := by
  refine BaseType.failsOnly_scalarIn fun cause hs => ?_
  rcases h.types with hhosted | hkind
  · obtain ⟨s, hs'⟩ := hhosted.scalar hbase
    simp [hs] at hs'
  · exact hkind _ _

/-! ## Alignments -/

namespace ShaderModule

variable {m : ShaderModule} {kind : Error → Prop}

mutual

/-- The host alignment of a struct fails where it comes round again, or at a struct or a member
inside it.

**Proof sketch.** One proof for structs and for members, along the walk. A struct that is missing or
comes round again is reported as such; in any other one the members are looked at, and each entered
struct leaves fewer to enter (`remaining_cons_lt`). -/
theorem failsOnly_alignWithin_of_covered {path : List Nat} {id : Nat}
    (hself : ∀ context, kind (.layout context .containsItself))
    (hfound : ∀ inner, m.Within id inner → m.struct? inner = none → kind (m.missingStruct inner))
    (hmembers : ∀ inner st, m.Within id inner → m.struct? inner = some st →
      ∀ mem ∈ st.members, mem.CoveredBy kind) : FailsOnly kind (m.alignWithin path id) := by
  cases hst : m.struct? id with
  | none =>
    rw [alignWithin]
    split
    · exact failsOnly_error.2 (hfound id Within.refl hst)
    · next st hst' => simp [hst] at hst'
  | some st =>
    by_cases hid : id ∈ path
    · rw [alignWithin_of_mem hst hid]
      exact failsOnly_error.2 (hself _)
    · have hlt : m.remaining (id :: path) < m.remaining path := remaining_cons_lt hst hid
      rw [alignWithin_of_notMem hst hid]
      refine failsOnly_alignMembers_of_covered hself (hmembers id st Within.refl hst) ?_ ?_
      all_goals intro mem hmem child hbase inner
      · exact fun hinner => hfound inner ((Within.of_member hst hmem hbase).trans hinner)
      · exact fun st' hinner => hmembers inner st' ((Within.of_member hst hmem hbase).trans hinner)
termination_by (m.remaining path, 0)
decreasing_by
  exact Prod.Lex.left _ _ (by assumption)

/-- The largest host alignment of members fails at one of them or inside its struct. The proof is
one with that of `failsOnly_alignWithin_of_covered`, and goes through the members one by one. -/
theorem failsOnly_alignMembers_of_covered {path : List Nat} {owner : String} {least : Nat}
    {members : List Member} (hself : ∀ context, kind (.layout context .containsItself))
    (hown : ∀ mem ∈ members, mem.CoveredBy kind)
    (hfound : ∀ mem ∈ members, ∀ child, mem.ty.base = .struct child → ∀ inner,
      m.Within child inner → m.struct? inner = none → kind (m.missingStruct inner))
    (hmembers : ∀ mem ∈ members, ∀ child, mem.ty.base = .struct child → ∀ inner st,
      m.Within child inner → m.struct? inner = some st → ∀ mem' ∈ st.members,
        mem'.CoveredBy kind) :
    FailsOnly kind (m.alignMembers path owner least members) := by
  match members with
  | [] =>
    rw [alignMembers]
    exact failsOnly_ok
  | mem :: rest =>
    obtain ⟨hmem, hrest⟩ := List.forall_mem_cons.1 hown
    obtain ⟨hfound, hfound'⟩ := List.forall_mem_cons.1 hfound
    obtain ⟨hmembers, hmembers'⟩ := List.forall_mem_cons.1 hmembers
    cases hbase : mem.ty.base.structId? with
    | none =>
      rw [alignMembers_cons_plain hbase]
      exact (hmem.failsOnly_scalarIn hbase _).bind fun _ _ =>
        failsOnly_alignMembers_of_covered hself hrest hfound' hmembers'
    | some id =>
      rw [BaseType.structId?_eq_some_iff] at hbase
      rw [alignMembers_cons_struct hbase]
      exact (failsOnly_alignWithin_of_covered hself (hfound id hbase) (hmembers id hbase)).bind
        fun _ _ => failsOnly_alignMembers_of_covered hself hrest hfound' hmembers'
termination_by (m.remaining path, members.length + 1)
decreasing_by
  all_goals
    apply Prod.Lex.right
    simp only [List.length_cons]
    omega

end

end ShaderModule

variable {kind : Error → Prop}
  (hlayout : ∀ context cause, (Error.layout context cause).isSizeTooSmall = false →
    (Error.layout context cause).isOdd = false → kind (.layout context cause))

include hlayout

/-! ## Parts -/

/-- A checked product fails with a failure of the layout. -/
theorem failsOnly_sizeTimes (context : String) (size n : Nat) :
    FailsOnly kind (sizeTimes context size n) := by
  unfold sizeTimes
  cases Word.mul? size n with
  | none => exact failsOnly_error.2 (hlayout _ _ rfl rfl)
  | some k => exact failsOnly_ok

/-- A checked end fails with a failure of the layout. -/
theorem failsOnly_endOf (context : String) (offset size : Nat) :
    FailsOnly kind (endOf context offset size) := by
  unfold endOf
  cases Word.add? offset size with
  | none => exact failsOnly_error.2 (hlayout _ _ rfl rfl)
  | some k => exact failsOnly_ok

namespace Part

variable {p : Part} {context : String} {mem : Member}

/-- Padding a whole part fails for the stride only. -/
theorem failsOnly_padTo (hp : p.IsWhole) (stride : Nat) :
    FailsOnly kind (p.padTo context stride) := by
  rw [hp.padTo_eq]
  exact .ite (fun _ => failsOnly_error.2 (hlayout _ _ rfl rfl)) fun _ =>
    .ite (fun _ => failsOnly_error.2 (hlayout _ _ rfl rfl)) fun _ =>
      .ite (fun _ => failsOnly_ok) fun _ => failsOnly_ok

/-- A matrix fails for its order, its stride or its size.

**Proof sketch.** A matrix by rows is covered as a type, and one without a stride as a layout. With
a stride, padding its column fails for the stride only (`failsOnly_padTo`). -/
theorem failsOnly_columns (hp : p.IsWhole) (hmem : mem.CoveredBy kind) :
    FailsOnly kind (p.columns context mem) := by
  unfold columns
  refine .ite (fun hmatrix => .ite (fun hrow => ?_) fun _ => ?_) fun _ => failsOnly_ok
  · rcases hmem.types with hhosted | hkind
    · simp [hhosted.columnMajor hmatrix] at hrow
    · exact failsOnly_error.2 (hkind _ _)
  · cases mem.matrixStride with
    | none => exact failsOnly_error.2 (hlayout _ _ rfl rfl)
    | some stride =>
      exact (failsOnly_padTo hlayout hp stride).bind fun _ _ =>
        (failsOnly_sizeTimes hlayout _ _ _).bind fun _ _ => failsOnly_ok

/-- An array fails for its stride or its size.

**Proof sketch.** The product of the inner extents is a word or its failure is covered
(`failsOnly_product`). What is left are the stride, to which the element is padded
(`failsOnly_padTo`), and the checked products. -/
theorem failsOnly_elements (hp : p.IsWhole) (hmem : mem.CoveredBy kind) :
    FailsOnly kind (p.elements context mem) := by
  unfold elements
  refine .ite (fun _ => ?_) fun _ => failsOnly_ok
  cases mem.arrayStride with
  | none => exact failsOnly_error.2 (hlayout _ _ rfl rfl)
  | some stride =>
    have hinner : FailsOnly kind (Word.product (mem.ty.extents.map extentCount).tail) := by
      rw [← List.map_tail]
      exact failsOnly_product (hmem.words.imp_left (·.inner))
    refine hinner.bind fun _ _ => ?_
    refine .ite (fun _ => failsOnly_error.2 (hlayout _ _ rfl rfl)) fun _ => ?_
    refine (failsOnly_padTo hlayout hp _).bind fun _ _ => ?_
    exact (FailsOnly.foldlM (failsOnly_sizeTimes hlayout context) _ _).bind fun _ _ => failsOnly_ok

end Part

/-! ## Structs and members -/

namespace Layout

variable {l : Layout} {id : Nat}

omit hlayout in
/-- Looking for the name of a struct fails where the table has none. -/
theorem failsOnly_structName (h : l.StructCoveredBy kind id) :
    FailsOnly kind (l.structName id) := by
  unfold structName
  cases hname : l.names.get? id with
  | none => exact failsOnly_error.2 (h.named hname)
  | some name => exact failsOnly_ok

/-- The host size of a struct fails where the struct is missing, where its alignment does, or where
the size is no word. -/
theorem failsOnly_structSize (h : l.StructCoveredBy kind id) : FailsOnly kind (l.structSize id) :=
  (ShaderModule.failsOnly_struct h.found).bind fun _ _ =>
    (ShaderModule.failsOnly_struct h.found).map.bind fun _ _ => h.aligned.bind fun _ _ =>
      (failsOnly_endOf hlayout _ _ _).bind fun _ _ => failsOnly_ok

/-- The column of a member fails for its scalar, or at its struct. The bytes of a column are not
checked: they have to be a word on their own.

**Proof sketch.** A plain column takes a scalar, which is covered, and a product that is a word or
covered (`failsOnly_mul`). A struct takes its name, its size and its alignment. -/
theorem failsOnly_column {mem : Member} (hmem : mem.CoveredBy kind)
    (hstruct : ∀ child, mem.ty.base = .struct child → l.StructCoveredBy kind child)
    (context : String) : FailsOnly kind (l.column context mem.ty) := by
  cases hbase : mem.ty.base.structId? with
  | none =>
    have hscalar := hmem.failsOnly_scalarIn hbase context
    rw [column_of_plain hbase]
    refine hscalar.bind fun s hs => ?_
    have hwords := hmem.words.imp_left fun h => h.column s (BaseType.scalarIn_eq_ok_iff _ |>.1 hs)
    exact (failsOnly_mul hwords).bind fun _ _ => failsOnly_ok
  | some id =>
    rw [BaseType.structId?_eq_some_iff] at hbase
    have hid := hstruct id hbase
    unfold column
    simp only [hbase]
    exact (failsOnly_structName hid).bind fun _ _ => (failsOnly_structSize hlayout hid).bind
      fun _ _ => hid.aligned.bind fun _ _ => failsOnly_ok

/-- All of the failures at a member. -/
theorem failsOnly_memberField {mem : Member} (hmem : mem.CoveredBy kind)
    (hstruct : ∀ child, mem.ty.base = .struct child → l.StructCoveredBy kind child)
    (owner : StructType) : FailsOnly kind (l.memberField owner mem) :=
  (failsOnly_column hlayout hmem hstruct _).bind fun _ hcolumn =>
    have hwhole := isWhole_of_column hcolumn
    (Part.failsOnly_columns hlayout hwhole hmem).bind fun _ hmatrix =>
      (Part.failsOnly_elements hlayout (hwhole.columns hmatrix) hmem).bind fun _ _ => failsOnly_ok

variable {st : StructType}

/-- The gaps in front of the members are whole words, as every member starts and ends with a word.

**Proof sketch.** Induction on the members. An overlap, an offset that is not aligned and an end
that is no word are failures of the layout. The gap itself does not fail (`gap_eq_ok`), as both its
ends are multiples of words. -/
theorem failsOnly_placeMembers {members : List Member} (hmembers : ∀ mem ∈ members,
      mem.CoveredBy kind ∧ ∀ child, mem.ty.base = .struct child → l.StructCoveredBy kind child)
    {start : Nat} (hstart : wordSize ∣ start) :
    FailsOnly kind (l.placeMembers st start members) := by
  induction members generalizing start with
  | nil => exact failsOnly_ok
  | cons mem rest ih =>
    obtain ⟨⟨hmem, hstruct⟩, hrest⟩ := List.forall_mem_cons.1 hmembers
    refine .ite (fun _ => failsOnly_error.2 (hlayout _ _ rfl rfl)) fun hle => ?_
    refine (failsOnly_memberField hlayout hmem hstruct st).bind fun field hfield => ?_
    refine .ite (fun _ => failsOnly_error.2 (hlayout _ _ rfl rfl)) fun halign => ?_
    refine (failsOnly_endOf hlayout _ _ _).bind fun stop hstop => ?_
    have hwhole := isWhole_of_memberField hfield
    have hoffset : wordSize ∣ mem.offset :=
      Nat.dvd_trans hwhole.word_dvd (Nat.dvd_of_mod_eq_zero (not_not.1 halign))
    rw [endOf_eq_ok_iff] at hstop
    rw [gap_eq_ok (Nat.le_of_not_lt hle) hstart hoffset]
    exact (ih hrest (hstop.2 ▸ Nat.dvd_add hoffset hwhole.size_dvd)).bind fun _ _ => failsOnly_ok

/-- **The failures of a declaration** are those at its struct, at its members and at their structs,
and the report that the members end behind the declared size.

**Proof sketch.** The name, the size and the members fail as covered, and a size that is too small
is reported by hypothesis. The last gap does not fail: members end at a word and sizes are whole
words. -/
theorem failsOnly_declaration (hst : l.StructCoveredBy kind st.id) (hmembers : ∀ mem ∈ st.members,
      mem.CoveredBy kind ∧ ∀ child, mem.ty.base = .struct child → l.StructCoveredBy kind child)
    (hsmall : ∀ size laid, l.structSize st.id = .ok size →
      l.placeMembers st 0 st.members = .ok laid → size < laid.stop →
        kind (.layout st.name (.sizeTooSmall st.size laid.stop))) :
    FailsOnly kind (l.declaration st) := by
  refine (failsOnly_structName hst).bind fun name _ => ?_
  refine (failsOnly_structSize hlayout hst).bind fun size hsize => ?_
  refine (failsOnly_placeMembers hlayout hmembers (Nat.dvd_zero _)).bind fun laid hlaid => ?_
  refine .ite (fun hlt => failsOnly_error.2 (hsmall size laid hsize hlaid hlt)) fun hle => ?_
  rw [gap_eq_ok (Nat.le_of_not_lt hle) (word_dvd_stop hlaid (Nat.dvd_zero _))
    (word_dvd_of_structSize hsize)]
  exact failsOnly_ok

/-- The failures of the ranges of a push-constant block are those at its members.

**Proof sketch.** Induction on the members. Each step looks at the field of a member and at two
sums, and everything else is a choice between going on in one range or in a new one. -/
theorem failsOnly_joinMembers {members : List Member} (hmembers : ∀ mem ∈ members,
      mem.CoveredBy kind ∧ ∀ child, mem.ty.base = .struct child → l.StructCoveredBy kind child)
    (current : Option ByteRange) : FailsOnly kind (l.joinMembers st current members) := by
  induction members generalizing current with
  | nil => exact failsOnly_ok
  | cons mem rest ih =>
    obtain ⟨⟨hmem, hstruct⟩, hrest⟩ := List.forall_mem_cons.1 hmembers
    refine (failsOnly_memberField hlayout hmem hstruct st).bind fun field _ => ?_
    refine FailsOnly.bind ?_ fun stop _ => ?_
    · cases Word.add? mem.offset field.1.size with
      | none => exact failsOnly_error.2 (hlayout _ _ rfl rfl)
      | some k => exact failsOnly_ok
    · cases current with
      | none => exact ih hrest _
      | some range =>
        refine .ite (fun _ => failsOnly_error.2 (hlayout _ _ rfl rfl)) fun _ => ?_
        exact .ite (fun _ => ih hrest _) fun _ => (ih hrest _).bind fun _ _ => failsOnly_ok

end Layout

omit hlayout

/-! ## Reachable structs -/

/-- The kind takes in the failures that can be met at the structs inside the buffer blocks. A
theorem about failures is proved once for any such kind and then used for the kind in question. -/
structure Layout.CoveredBy (l : Layout) (kind : Error → Prop) : Prop where
  layout : ∀ context cause, kind (.layout context cause)
  found : ∀ id, l.module.IsReachable id → l.module.struct? id = none →
    kind (l.module.missingStruct id)
  named : ∀ id, l.module.IsReachable id → l.names.get? id = none →
    kind (.invalidModule (.unnamedStruct id))
  members : ∀ id st, l.module.IsReachable id → l.module.struct? id = some st →
    ∀ mem ∈ st.members, mem.CoveredBy kind

namespace Layout.CoveredBy

variable {l : Layout} {st : StructType}

/-- A struct that is reachable is covered: it is found and named, and so is what is inside it. -/
theorem struct (h : l.CoveredBy kind) {id : Nat} (hid : l.module.IsReachable id) :
    l.StructCoveredBy kind id where
  found := h.found id hid
  named := h.named id hid
  aligned := ShaderModule.failsOnly_alignWithin_of_covered (fun _ => h.layout _ _)
    (fun inner hinner => h.found inner (hid.within hinner))
    (fun inner st hinner => h.members inner st (hid.within hinner))

/-- The members of a reachable struct are covered, and so are their structs, as they are reachable,
too. -/
theorem member (h : l.CoveredBy kind) (hid : l.module.IsReachable st.id)
    (hst : l.module.struct? st.id = some st) {mem : Member} (hmem : mem ∈ st.members) :
    mem.CoveredBy kind ∧
      ∀ child, mem.ty.base = .struct child → l.StructCoveredBy kind child := by
  refine ⟨h.members st.id st hid hst mem hmem, fun child hbase => h.struct ?_⟩
  exact hid.within (ShaderModule.Within.of_member hst hmem hbase)

/-- How the declaration of a reachable struct can fail. -/
theorem failsOnly_declaration (h : l.CoveredBy kind) (hid : l.module.IsReachable st.id)
    (hst : l.module.struct? st.id = some st) : FailsOnly kind (l.declaration st) :=
  Layout.failsOnly_declaration (fun context cause _ _ => h.layout context cause) (h.struct hid)
    (fun _ hmem => h.member hid hst hmem) fun _ _ _ _ _ => h.layout _ _

/-- How the ranges of a push-constant block can fail.

**Proof sketch.** A block that is no struct is reported as such. The struct of a block is reachable,
so its members are covered, and the ranges fail at them only (`failsOnly_joinMembers`). -/
theorem failsOnly_pushBlockRanges? (h : l.CoveredBy kind)
    (hblock : ∀ name, kind (.invalidModule (.pushBlockNotStruct name))) :
    FailsOnly kind l.pushBlockRanges? := by
  unfold pushBlockRanges?
  cases hblocks : l.module.resources.pushConstantBlocks with
  | nil => exact failsOnly_ok
  | cons block rest =>
    have hmem : block ∈ l.module.resources.bufferBlocks := by
      simp [Resources.bufferBlocks, hblocks]
    cases hroot : block.ty.base.structId? with
    | none => simpa only [hroot] using failsOnly_error.2 (hblock block.name)
    | some id =>
      have hid : l.module.IsReachable id := ⟨block, hmem, id, hroot, ShaderModule.Within.refl⟩
      simp only [hroot]
      refine (ShaderModule.failsOnly_struct (h.found id hid)).bind fun st hst => ?_
      rw [ShaderModule.struct_eq_ok_iff] at hst
      obtain rfl := ShaderModule.id_of_struct?_eq_some hst
      exact (failsOnly_joinMembers (fun context cause _ _ => h.layout context cause)
        (fun _ hmem => h.member hid hst hmem) none).map

end Layout.CoveredBy

end ShaderBindings
