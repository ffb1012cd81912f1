import Mathlib.Order.Bounds.Defs
import ShaderBindings.Proofs.Host.Parts
import ShaderBindings.Proofs.Struct.Acyclic
/-!
# Structs with a host alignment

The host alignment of a struct is looked for down to its innermost members, so it depends on all the
structs inside: none may be missing, none may contain itself, and the members that are no structs
have to be numbers of 32 or 64 bits. If so, the struct is aligned like the widest of these numbers,
and its host size is the next multiple of that alignment.

## Main definitions

* `BaseType.bits?` - the width of a number.
* `ShaderModule.HasLeaf` - the members that are no structs, at any depth.
* `ShaderModule.IsAlignable` - what a struct needs in order to have a host alignment.

## Main results

* `Layout.exists_structAlign_of_within` - the alignments inside a struct divide its own.
* `Layout.exists_structAlign_of_isAlignable` - a struct that has all it needs has an alignment.
* `Layout.isLeast_roundUp` - rounding up to an alignment gives the least multiple.
* `Layout.structAlign_eq_width` - when there is an alignment, which it is, and the size it gives.
-/

set_option autoImplicit false

namespace ShaderBindings

/-! ## Numbers -/

namespace BaseType

variable {base : BaseType}

/-- The bits of a number. Only kinds of numbers have them: a truth value, though it takes a word
where it is a constant, has none. -/
def bits? : BaseType → Option Nat
  | .integer width _ => some width
  | .float width => some width
  | _ => none

/-- The host has a scalar of the same width. -/
theorem bits?_of_hostScalar {s : HostScalar} (h : base.hostScalar = .ok s) :
    base.bits? = some (8 * s.size) := by
  unfold hostScalar at h
  split at h <;> cases h <;> rfl

/-- The host has scalars for the numbers of 32 and of 64 bits.

**Proof sketch.** A scalar has the width of its number (`bits?_of_hostScalar`) and takes 4 or 8
bytes. The other way round each kind of number is looked at. -/
theorem exists_hostScalar_iff :
    (∃ s, base.hostScalar = .ok s) ↔ base.bits? = some 32 ∨ base.bits? = some 64 := by
  constructor
  · rintro ⟨s, hs⟩
    rw [bits?_of_hostScalar hs]
    rcases size_of_hostScalar hs with hsize | hsize <;> simp [hsize]
  · intro h
    cases base with
    | integer width signed => rcases h with h | h <;> cases h <;> cases signed <;> exact ⟨_, rfl⟩
    | float width => rcases h with h | h <;> cases h <;> exact ⟨_, rfl⟩
    | _ => simp [bits?] at h

end BaseType

/-! ## Innermost members -/

namespace ShaderModule

/-- The member is no struct, and it is one of the struct with the given id or of one inside it.
These are the members that alignments come from. -/
def HasLeaf (m : ShaderModule) (id : Nat) (leaf : Member) : Prop :=
  ∃ inner st, m.Within id inner ∧ m.struct? inner = some st ∧ leaf ∈ st.members ∧
    leaf.ty.base.structId? = none

/-- The leaf is the member itself, or one of its struct. -/
def IsLeafOf (m : ShaderModule) (mem leaf : Member) : Prop :=
  (mem.ty.base.structId? = none ∧ leaf = mem) ∨
    ∃ child, mem.ty.base = .struct child ∧ m.HasLeaf child leaf

/-- What a struct needs in order to have a host alignment. All of it is asked of the struct itself
and of every struct inside, at any depth. -/
structure IsAlignable (m : ShaderModule) (id : Nat) : Prop where
  /-- No struct inside is missing. -/
  found : ∀ inner, m.Within id inner → (m.struct? inner).isSome
  /-- No struct inside contains itself. -/
  acyclic : ∀ inner, m.Within id inner → ¬Relation.TransGen m.Contains inner inner
  /-- The innermost members are numbers that the host has. -/
  numbers : ∀ leaf, m.HasLeaf id leaf →
    leaf.ty.base.bits? = some 32 ∨ leaf.ty.base.bits? = some 64

variable {m : ShaderModule} {id : Nat}

/-- The leaves of a struct are those of its members.

**Proof sketch.** The way from a struct to a leaf has no steps, and the leaf is one of its own
members, or it has a first step, which leads into the struct of a member. -/
theorem hasLeaf_iff {st : StructType} {leaf : Member} (hst : m.struct? id = some st) :
    m.HasLeaf id leaf ↔ ∃ mem ∈ st.members, m.IsLeafOf mem leaf := by
  constructor
  · rintro ⟨inner, st', hwithin, hst', hleaf, hbase⟩
    rcases Relation.ReflTransGen.cases_head hwithin with rfl | ⟨child, hcontains, hchild⟩
    · cases hst.symm.trans hst'
      exact ⟨leaf, hleaf, .inl ⟨hbase, rfl⟩⟩
    · obtain ⟨st'', hst'', hmem⟩ := hcontains
      cases hst.symm.trans hst''
      obtain ⟨mem, hmem, hstruct⟩ := StructType.mem_children_iff.1 hmem
      exact ⟨mem, hmem, .inr ⟨child, hstruct, inner, st', hchild, hst', hleaf, hbase⟩⟩
  · rintro ⟨mem, hmem, ⟨hbase, rfl⟩ | ⟨child, hstruct, inner, st', hchild, hst', hleaf, hbase⟩⟩
    · exact ⟨id, st, Within.refl, hst, hmem, hbase⟩
    · exact ⟨inner, st', (Within.of_member hst hmem hstruct).trans hchild, hst', hleaf, hbase⟩

/-- Members whose leaves are numbers that the host has are aligned, unless a struct comes round
again.

**Proof sketch.** Induction on the outline. Numbers have host scalars by the hypothesis on leaves,
the leaves of a struct inside are leaves of the member that holds it (`hasLeaf_iff`), and a tree has
no struct that comes round again. -/
theorem HasOutline.exists_align? {path : List Nat} {members : List Member} {o : Outline}
    (h : m.HasOutline path members o) (ho : o.IsTree)
    (hleaf : ∀ mem ∈ members, ∀ leaf, m.IsLeafOf mem leaf →
      leaf.ty.base.bits? = some 32 ∨ leaf.ty.base.bits? = some 64) (least : Nat) :
    ∃ a, o.align? least = some a := by
  induction h generalizing least with
  | done => exact ⟨least, rfl⟩
  | @plain path mem rest o hbase _ ih =>
    obtain ⟨hmem, hrest⟩ := List.forall_mem_cons.1 hleaf
    obtain ⟨s, hs⟩ := BaseType.exists_hostScalar_iff.2 (hmem mem (.inl ⟨hbase, rfl⟩))
    obtain ⟨a, ha⟩ := ih ho hrest (max least s.size)
    exact ⟨a, Outline.align?_plain_eq_some_iff.2 ⟨s, hs, ha⟩⟩
  | nested hbase hst hid _ _ ihi ihr =>
    obtain ⟨hmem, hrest⟩ := List.forall_mem_cons.1 hleaf
    obtain ⟨b, hb⟩ := ihi ho.1
      (fun mem' hmem' leaf hleaf' =>
        hmem leaf (.inr ⟨_, hbase, (hasLeaf_iff hst).2 ⟨mem', hmem', hleaf'⟩⟩)) wordSize
    obtain ⟨a, ha⟩ := ihr ho.2 hrest (max least b)
    exact ⟨a, Outline.align?_nested_eq_some_iff.2 ⟨b, hb, ha⟩⟩
  | again => exact ho.elim

/-- Members that are aligned to eight bytes have a leaf of 64 bits.

**Proof sketch.** Induction on the outline. Only a number of eight bytes, or a struct that is
aligned to eight bytes itself, raises the alignment above a word; in a struct inside the induction
hypothesis finds the leaf. -/
theorem HasOutline.exists_wide {path : List Nat} {members : List Member} {o : Outline}
    (h : m.HasOutline path members o) (ha : o.align? wordSize = some 8) :
    ∃ mem ∈ members, ∃ leaf, m.IsLeafOf mem leaf ∧ leaf.ty.base.bits? = some 64 := by
  induction h with
  | done => cases ha
  | @plain path mem rest o hbase _ ih =>
    obtain ⟨s, hs, ha⟩ := Outline.align?_plain_eq_some_iff.1 ha
    rcases BaseType.size_of_hostScalar hs with hsize | hsize
    · -- four bytes leave the alignment at a word, so the rest raises it
      rw [hsize] at ha
      obtain ⟨mem', hmem', hleaf⟩ := ih ha
      exact ⟨mem', List.mem_cons_of_mem _ hmem', hleaf⟩
    · refine ⟨mem, List.mem_cons_self, mem, .inl ⟨hbase, rfl⟩, ?_⟩
      rw [BaseType.bits?_of_hostScalar hs, hsize]
  | @nested path mem rest id st inner o hbase hst hid _ _ ihi ihr =>
    obtain ⟨b, hb, ha⟩ := Outline.align?_nested_eq_some_iff.1 ha
    rcases (Outline.align?_eq hb (.inl rfl)).1 with rfl | rfl
    · obtain ⟨mem', hmem', hleaf⟩ := ihr ha
      exact ⟨mem', List.mem_cons_of_mem _ hmem', hleaf⟩
    · obtain ⟨mem', hmem', leaf, hleaf, hwide⟩ := ihi hb
      have hchild := (hasLeaf_iff hst).2 ⟨mem', hmem', hleaf⟩
      exact ⟨mem, List.mem_cons_self, leaf, .inr ⟨id, hbase, hchild⟩, hwide⟩
  | again => cases ha

end ShaderModule

/-! ## Alignment of a struct -/

namespace Layout

variable {l : Layout} {id a : Nat}

/-- Each member of an aligned struct is aligned, to a divisor of the same number. -/
theorem exists_align_of_member (h : l.structAlign id = .ok a) {st : StructType}
    (hst : l.module.struct? id = some st) {mem : Member} (hmem : mem ∈ st.members) :
    ∃ b, b ∣ a ∧
      ((mem.ty.base.structId? = none ∧ ∃ s, mem.ty.base.hostScalar = .ok s ∧ s.size = b) ∨
        ∃ child, mem.ty.base = .struct child ∧ l.structAlign child = .ok b) := by
  obtain ⟨st', o, hst', ho, ha⟩ := ShaderModule.alignWithin_nil_eq_ok_iff.1 h
  cases hst.symm.trans hst'
  exact ho.exists_align_dvd ha (.inl rfl) hmem

/-- Each struct inside an aligned one is aligned, to a divisor of the same number.

**Proof sketch.** Induction on the way inside. Each step leads to the struct of a member, and its
alignment divides that of the struct it is in (`exists_align_of_member`). -/
theorem exists_structAlign_of_within (h : l.structAlign id = .ok a) {inner : Nat}
    (hinner : l.module.Within id inner) : ∃ b, l.structAlign inner = .ok b ∧ b ∣ a := by
  induction hinner with
  | refl => exact ⟨a, h, Nat.dvd_refl a⟩
  | tail _ hcontains ih =>
    obtain ⟨b, hb, hdvd⟩ := ih
    obtain ⟨st, hst, hchild⟩ := hcontains
    obtain ⟨mem, hmem, hbase⟩ := StructType.mem_children_iff.1 hchild
    obtain ⟨c, hdvd', ⟨hplain, -⟩ | ⟨child, hbase', hc⟩⟩ := exists_align_of_member hb hst hmem
    · simp [hbase, BaseType.structId?] at hplain
    · cases hbase.symm.trans hbase'
      exact ⟨c, hc, Nat.dvd_trans hdvd' hdvd⟩

/-- The leaves of an aligned struct are numbers that the host has, and their sizes divide the
alignment.

**Proof sketch.** The struct that has the leaf as a member is aligned to a divisor
(`exists_structAlign_of_within`), and its members are aligned to divisors of that
(`exists_align_of_member`). -/
theorem exists_size_dvd_of_hasLeaf (h : l.structAlign id = .ok a) {leaf : Member}
    (hleaf : l.module.HasLeaf id leaf) :
    ∃ s, leaf.ty.base.hostScalar = .ok s ∧ s.size ∣ a := by
  obtain ⟨inner, st, hwithin, hst, hmem, hbase⟩ := hleaf
  obtain ⟨b, hb, hdvd⟩ := exists_structAlign_of_within h hwithin
  obtain ⟨c, hdvd', ⟨-, s, hs, rfl⟩ | ⟨child, hstruct, -⟩⟩ := exists_align_of_member hb hst hmem
  · exact ⟨s, hs, Nat.dvd_trans hdvd' hdvd⟩
  · simp [hstruct, BaseType.structId?] at hbase

/-- An aligned struct does not contain itself.

**Proof sketch.** A cycle starts with a member whose struct leads back. The outline from which the
alignment is computed would come to the struct again, and would not be numeric. -/
theorem not_transGen_of_structAlign (h : l.structAlign id = .ok a) :
    ¬Relation.TransGen l.module.Contains id id := by
  intro hcycle
  obtain ⟨child, ⟨st, hst, hchild⟩, hwithin⟩ := Relation.TransGen.head'_iff.1 hcycle
  obtain ⟨mem, hmem, hbase⟩ := StructType.mem_children_iff.1 hchild
  obtain ⟨st', o, hst', ho, ha⟩ := ShaderModule.alignWithin_nil_eq_ok_iff.1 h
  cases hst.symm.trans hst'
  exact ho.notMem_of_within (Outline.isNumeric_of_align? ha) hmem hbase hwithin
    List.mem_cons_self

/-- An aligned struct has all it needs: what is inside it is found, does not contain itself, and
ends in numbers that the host has. -/
theorem isAlignable_of_structAlign (h : l.structAlign id = .ok a) : l.module.IsAlignable id where
  found inner hinner := by
    obtain ⟨b, hb, -⟩ := exists_structAlign_of_within h hinner
    obtain ⟨st, o, hst, -⟩ := ShaderModule.alignWithin_nil_eq_ok_iff.1 hb
    rw [hst]
    rfl
  acyclic inner hinner := by
    obtain ⟨b, hb, -⟩ := exists_structAlign_of_within h hinner
    exact not_transGen_of_structAlign hb
  numbers leaf hleaf := by
    obtain ⟨s, hs, -⟩ := exists_size_dvd_of_hasLeaf h hleaf
    exact BaseType.exists_hostScalar_iff.1 ⟨s, hs⟩

/-- A struct that has all it needs is aligned.

**Proof sketch.** Where all structs inside are found there is an outline. It is a tree, as none of
them contains itself, and where its leaves are numbers it has an alignment
(`ShaderModule.HasOutline.exists_align?`). -/
theorem exists_structAlign_of_isAlignable (h : l.module.IsAlignable id) :
    ∃ a, l.structAlign id = .ok a := by
  obtain ⟨st, hst⟩ := Option.isSome_iff_exists.1 (h.found id ShaderModule.Within.refl)
  obtain ⟨o, ho⟩ : ∃ o, l.module.HasOutline [id] st.members o := by
    apply ShaderModule.exists_hasOutline
    intro mem hmem child hbase x hx
    exact h.found x ((ShaderModule.Within.of_member hst hmem hbase).trans hx)
  have htree := ho.isTree_of_struct hst h.acyclic
  obtain ⟨a, ha⟩ := ho.exists_align? htree (fun mem hmem leaf hleaf =>
    h.numbers leaf ((ShaderModule.hasLeaf_iff hst).2 ⟨mem, hmem, hleaf⟩)) wordSize
  exact ⟨a, ShaderModule.alignWithin_nil_eq_ok_iff.2 ⟨st, o, hst, ho, ha⟩⟩

/-- A struct is aligned to eight bytes exactly if a leaf has 64 bits.

**Proof sketch.** In one direction a wide leaf is found in the outline
(`ShaderModule.HasOutline.exists_wide`). In the other one its eight bytes divide the alignment
(`exists_size_dvd_of_hasLeaf`). -/
theorem eq_eight_iff_of_structAlign (h : l.structAlign id = .ok a) :
    a = 8 ↔ ∃ leaf, l.module.HasLeaf id leaf ∧ leaf.ty.base.bits? = some 64 := by
  constructor
  · rintro rfl
    obtain ⟨st, o, hst, ho, ha⟩ := ShaderModule.alignWithin_nil_eq_ok_iff.1 h
    obtain ⟨mem, hmem, leaf, hleaf, hwide⟩ := ho.exists_wide ha
    exact ⟨leaf, (ShaderModule.hasLeaf_iff hst).2 ⟨mem, hmem, hleaf⟩, hwide⟩
  · rintro ⟨leaf, hleaf, hwide⟩
    obtain ⟨s, hs, hdvd⟩ := exists_size_dvd_of_hasLeaf h hleaf
    rw [BaseType.bits?_of_hostScalar hs, Option.some.injEq] at hwide
    rcases align_eq h with rfl | rfl
    · have := Nat.le_of_dvd (by decide) hdvd
      omega
    · rfl

/-! ## Size of a struct -/

/-- Rounding up gives the least multiple. -/
theorem isLeast_roundUp {size align : Nat} (hpos : 0 < align) :
    IsLeast {n | align ∣ n ∧ size ≤ n} (roundUp size align) :=
  ⟨⟨dvd_roundUp size align, le_roundUp hpos⟩, fun _ hn => roundUp_le_of_dvd hpos hn.1 hn.2⟩

/-- Rounding a size up fails exactly if the sum that is formed for it is no word. -/
theorem roundedSize_eq (context : String) (size align : Nat) :
    roundedSize context size align =
      if size + (align - 1) < Word.bound then .ok (roundUp size align)
      else .error (.layout context .offsetOverflow) := by
  unfold roundedSize endOf Word.add?
  split <;> rfl

/-- The host size of an aligned struct is its declared size, rounded up, if that is a word.

**Proof sketch.** Rounding up is checked by its sum, but the bound is a multiple of 4 and of 8. So
the sum is a word exactly if the rounded size is one. -/
theorem structSize_of_structAlign {st : StructType} (hst : l.module.struct? id = some st)
    (h : l.structAlign id = .ok a) :
    l.structSize id = if roundUp st.size a < Word.bound then .ok (roundUp st.size a)
      else .error (.layout st.name .offsetOverflow) := by
  -- the bound is a multiple of the alignment, so nothing is lost by checking before rounding
  have hword : st.size + (a - 1) < Word.bound ↔ roundUp st.size a < Word.bound := by
    unfold roundUp Word.bound
    rcases align_eq h with rfl | rfl <;> omega
  have hstruct : l.module.struct id = .ok st := ShaderModule.struct_eq_ok_iff.2 hst
  have hdeclared : l.module.declaredSize id = .ok st.size := by
    rw [ShaderModule.declaredSize, hstruct]
    rfl
  unfold structSize
  rw [hstruct, hdeclared, h]
  change roundedSize st.name st.size a = _
  rw [roundedSize_eq, if_congr hword rfl rfl]

/-- **Host alignment of a struct.** It exists exactly if no struct inside is missing, none contains
itself, and all innermost members are numbers of 32 or 64 bits. It is 8 if one of these has 64 bits
and 4 otherwise, and the alignments of the structs inside divide it. The host size is the least
multiple of it that is not below the declared size, unless that is no word.

**Proof sketch.** The two directions of the first part are `isAlignable_of_structAlign` and
`exists_structAlign_of_isAlignable`. The width is `eq_eight_iff_of_structAlign`, the structs inside
are `exists_structAlign_of_within`, and the size is `structSize_of_structAlign` with
`isLeast_roundUp`. -/
theorem structAlign_eq_width (l : Layout) (id : Nat) :
    ((∃ a, l.structAlign id = .ok a) ↔ l.module.IsAlignable id) ∧
    ∀ a, l.structAlign id = .ok a →
      (a = 8 ∧ (∃ leaf, l.module.HasLeaf id leaf ∧ leaf.ty.base.bits? = some 64) ∨
        a = 4 ∧ ¬∃ leaf, l.module.HasLeaf id leaf ∧ leaf.ty.base.bits? = some 64) ∧
      (∀ inner, l.module.Within id inner → ∃ b, l.structAlign inner = .ok b ∧ b ∣ a) ∧
      ∃ st size, l.module.struct? id = some st ∧ IsLeast {n | a ∣ n ∧ st.size ≤ n} size ∧
        l.structSize id =
          if size < Word.bound then .ok size else .error (.layout st.name .offsetOverflow) := by
  refine ⟨⟨fun ⟨a, h⟩ => isAlignable_of_structAlign h, exists_structAlign_of_isAlignable⟩,
    fun a h => ⟨?_, fun inner => exists_structAlign_of_within h, ?_⟩⟩
  · have height := eq_eight_iff_of_structAlign h
    rcases align_eq h with rfl | rfl
    · exact .inr ⟨rfl, fun hwide => absurd (height.2 hwide) (by decide)⟩
    · exact .inl ⟨rfl, height.1 rfl⟩
  · obtain ⟨st, o, hst, -⟩ := ShaderModule.alignWithin_nil_eq_ok_iff.1 h
    have hpos : 0 < a := by
      rcases align_eq h with rfl | rfl <;> decide
    exact ⟨st, roundUp st.size a, hst, isLeast_roundUp hpos, structSize_of_structAlign hst h⟩

end Layout

end ShaderBindings
