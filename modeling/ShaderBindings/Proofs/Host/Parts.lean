import ShaderBindings.Host.Layout
import ShaderBindings.Proofs.Host.Placement
import ShaderBindings.Proofs.Struct.Outline
/-!
# The size and the alignment of a member

Every part from which the host field of a member is built, up to the field itself, takes by the
rules of C the bytes that its layout says, and needs no larger alignment.

## Main definitions

* `Part.Fits` - the size of a part is exact and its alignment is enough.
* `Member.IsSized` - a member made of numbers has components.
* `Layout.Knows` - the name of the struct of a member has a footprint that agrees with the layout.

## Main results

* `Layout.align_eq` - a struct is aligned to 4 or to 8 bytes.
* `Layout.memberField_fits` - the field of a member takes the bytes that its layout says.
* `ShaderModule.HasOutline.exists_align_dvd` - what the members are aligned to.
* `Layout.align_dvd_of_hasOutline` - no member needs more than its struct is aligned to.
-/

set_option autoImplicit false

namespace ShaderBindings

/-! ## Parts -/

/-- By the rules of C the part takes the bytes that it says, and needs an alignment that divides its
own. Its size is a number of whole words and keeps the alignment. -/
structure Part.Fits (named : String → Option Footprint) (p : Part) (f : Footprint) : Prop where
  footprint : p.type.footprint? named = some f
  size : f.size = p.size
  pos : 0 < f.align
  dvd_align : f.align ∣ p.align
  word_dvd : wordSize ∣ p.align
  align_dvd : p.align ∣ p.size

/-- Wrapping a type in array dimensions multiplies its size.

**Proof sketch.** Induction on the dimensions, the innermost one first: an array of arrays has the
elements of all of them. -/
theorem HostType.footprint?_wrapArrays {named : String → Option Footprint} {t : HostType}
    {f : Footprint} (h : t.footprint? named = some f) (counts : List Nat) :
    (t.wrapArrays counts).footprint? named = some (f.times (counts.foldr (· * ·) 1)) := by
  induction counts with
  | nil => simpa [wrapArrays, Footprint.times] using h
  | cons n counts ih =>
    change (HostType.array (t.wrapArrays counts) n).footprint? named = _
    simp only [footprint?, ih, Option.map_some, Footprint.times, List.foldr_cons]
    rw [Nat.mul_assoc, Nat.mul_comm n]

/-- A checked product is formed exactly if it is a word. -/
theorem sizeTimes_eq_ok_iff {context : String} {size n k : Nat} :
    sizeTimes context size n = .ok k ↔ size * n < Word.bound ∧ k = size * n := by
  unfold sizeTimes Word.mul?
  split
  · simp [inWord, *, eq_comm]
  · simp [inWord, *]

/-- An end is reported for any cause unless it is a word, and then it is the true one. -/
theorem inWord_add?_eq_ok_iff {context : String} {cause : LayoutCause} {offset size k : Nat} :
    inWord context cause (Word.add? offset size) = .ok k ↔
      offset + size < Word.bound ∧ k = offset + size := by
  unfold Word.add?
  split
  · simp [inWord, *, eq_comm]
  · simp [inWord, *]

/-- A checked end is formed exactly if it is a word. -/
theorem endOf_eq_ok_iff {context : String} {offset size k : Nat} :
    endOf context offset size = .ok k ↔ offset + size < Word.bound ∧ k = offset + size :=
  inWord_add?_eq_ok_iff

/-- Multiplying factor by factor gives the product, if every step succeeds.

**Proof sketch.** Induction on the factors. The first one goes into the start, and the product is
associative. -/
theorem Result.eq_mul_of_foldlM {ε : Type} {f : Nat → Nat → Except ε Nat}
    (hf : ∀ a b n, f a b = .ok n → n = a * b) {factors : List Nat} {start n : Nat}
    (h : factors.foldlM f start = .ok n) : n = start * factors.foldr (· * ·) 1 := by
  induction factors generalizing start with
  | nil =>
    cases h
    simp
  | cons k factors ih =>
    rw [List.foldlM_cons, bind_eq_ok_iff] at h
    obtain ⟨m, hm, h⟩ := h
    rw [ih h, hf _ _ _ hm, List.foldr_cons, Nat.mul_assoc]

/-- Counting the elements dimension by dimension gives the same size, if it is a word. -/
theorem eq_of_foldlM_sizeTimes {context : String} {counts : List Nat} {size n : Nat}
    (h : counts.foldlM (sizeTimes context) size = .ok n) : n = size * counts.foldr (· * ·) 1 :=
  Result.eq_mul_of_foldlM (fun _ _ _ hm => (sizeTimes_eq_ok_iff.1 hm).2) h

namespace Part

variable {named : String → Option Footprint} {p q : Part} {f : Footprint} {context : String}

/-- What a padded part is, if it can be padded: the part itself, or the part with as many filler
words behind it as there are up to the stride.

**Proof sketch.** The checks in front of the padding are read off one by one, and each of them says
one of the facts about the stride. -/
theorem padTo_eq_ok {stride : Nat} (h : p.padTo context stride = .ok q) :
    p.align ∣ stride ∧ p.size ≤ stride ∧
      (stride = p.size ∧ q = p ∨
        wordSize ∣ stride - p.size ∧
          q = { p with
            type := .padded p.type ((stride - p.size) / wordSize)
            size := stride }) := by
  unfold padTo at h
  simp only [Result.ite_error_eq_ok_iff, Result.bind_eq_ok_iff, Word.sub_eq_ok_iff] at h
  obtain ⟨hle, hdvd, gap, ⟨hsub, rfl⟩, h⟩ := h
  refine ⟨Nat.dvd_of_mod_eq_zero (Decidable.not_not.1 hdvd), hsub, ?_⟩
  split at h
  · next hgap =>
    cases h
    exact .inl ⟨by omega, rfl⟩
  · obtain ⟨hword, h⟩ := Result.ite_error_eq_ok_iff.1 h
    cases h
    exact .inr ⟨Nat.dvd_of_mod_eq_zero (Decidable.not_not.1 hword), rfl⟩

/-- The footprint of filler words. -/
def fillerWords (words : Nat) : Footprint :=
  ({ size := wordSize, align := wordSize : Footprint }).times words

/-- A value with filler words behind it, up to a multiple of its alignment, takes no further bytes.

**Proof sketch.** The value ends at a word, so the filler words stand directly behind it; the end is
a multiple of both alignments, so it is not rounded up. -/
theorem size_pair_fillerWords {words : Nat} (hpos : 0 < f.align) (hword : wordSize ∣ f.size)
    (hend : f.align ∣ f.size + wordSize * words) :
    (f.pair (fillerWords words)).size = f.size + wordSize * words := by
  have hends : max f.align wordSize ∣ f.size + wordSize * words :=
    max_dvd hend (Nat.dvd_add hword (Nat.dvd_mul_right _ _))
  change roundUp (roundUp f.size wordSize + wordSize * words) (max f.align wordSize) = _
  rw [roundUp_of_dvd (by decide) hword, roundUp_of_dvd (by omega) hends]

/-- A part padded to a stride takes the bytes of the stride.

**Proof sketch.** Without a gap nothing changes. Otherwise the filler words end at the stride, which
is a multiple of the alignment, so a struct of the part and the fillers takes no bytes behind
them. -/
theorem Fits.padTo (hp : p.Fits named f) {stride : Nat} (h : p.padTo context stride = .ok q) :
    q.align = p.align ∧ ∃ g, q.Fits named g := by
  obtain ⟨hdvd, hle, ⟨-, rfl⟩ | ⟨hword, rfl⟩⟩ := padTo_eq_ok h
  · exact ⟨rfl, f, hp⟩
  · set words := (stride - p.size) / wordSize with hwords
    have hend : f.size + wordSize * words = stride := by
      rw [hwords, Nat.mul_div_cancel' hword, hp.size]
      omega
    have hfword : wordSize ∣ f.size := hp.size ▸ Nat.dvd_trans hp.word_dvd hp.align_dvd
    have hfdvd : f.align ∣ f.size + wordSize * words := hend ▸ Nat.dvd_trans hp.dvd_align hdvd
    refine ⟨rfl, f.pair (fillerWords words), ⟨?_, ?_, ?_, ?_, hp.word_dvd, hdvd⟩⟩
    · simp only [HostType.footprint?, hp.footprint, Option.map_some]
      rfl
    · rw [size_pair_fillerWords hp.pos hfword hfdvd, hend]
    · exact Nat.lt_of_lt_of_le hp.pos (Nat.le_max_left _ _)
    · exact max_dvd hp.dvd_align hp.word_dvd

/-- An array of parts takes the bytes of all of them, and its alignment is that of one part. -/
theorem Fits.wrapArrays (hp : p.Fits named f) (counts : List Nat) :
    Fits named { type := p.type.wrapArrays counts, size := p.size * counts.foldr (· * ·) 1,
                 align := p.align } (f.times (counts.foldr (· * ·) 1)) where
  footprint := HostType.footprint?_wrapArrays hp.footprint counts
  size := by rw [Footprint.times, hp.size]
  pos := hp.pos
  dvd_align := hp.dvd_align
  word_dvd := hp.word_dvd
  align_dvd := Nat.dvd_trans hp.align_dvd (Nat.dvd_mul_right _ _)

/-- The matrix made of a column takes the bytes that its layout says.

**Proof sketch.** A matrix is an array of its columns, each padded to the stride (`Fits.padTo`,
`Fits.wrapArrays`). What is no matrix stays as it is. -/
theorem Fits.columns (hp : p.Fits named f) {mem : Member} (h : p.columns context mem = .ok q) :
    q.align = p.align ∧ ∃ g, q.Fits named g := by
  unfold Part.columns at h
  split at h
  · rw [Result.ite_error_eq_ok_iff] at h
    obtain ⟨-, h⟩ := h
    split at h
    · cases h
    · simp only [Result.bind_eq_ok_iff, sizeTimes_eq_ok_iff] at h
      obtain ⟨column, hcolumn, size, ⟨-, rfl⟩, h⟩ := h
      cases h
      obtain ⟨halign, g, hg⟩ := hp.padTo hcolumn
      have hfits := hg.wrapArrays [mem.ty.columns]
      simp only [List.foldr, Nat.mul_one, halign] at hfits
      exact ⟨rfl, _, hfits⟩
  · cases h
    exact ⟨rfl, f, hp⟩

/-- The array made of an element takes the bytes that its layout says.

**Proof sketch.** An array has its element padded to the share of the stride (`Fits.padTo`), in as
many dimensions as there are extents (`Fits.wrapArrays`). What is no array stays as it is. -/
theorem Fits.elements (hp : p.Fits named f) {mem : Member} (h : p.elements context mem = .ok q) :
    q.align = p.align ∧ ∃ g, q.Fits named g := by
  unfold Part.elements at h
  split at h
  · split at h
    · cases h
    · simp only [Result.bind_eq_ok_iff, Result.ite_error_eq_ok_iff] at h
      obtain ⟨inner, -, -, elem, helem, size, hsize, h⟩ := h
      cases h
      obtain ⟨halign, g, hg⟩ := hp.padTo helem
      have hfits := hg.wrapArrays (mem.ty.extents.map extentCount)
      rw [← eq_of_foldlM_sizeTimes hsize, halign] at hfits
      exact ⟨rfl, _, hfits⟩
  · cases h
    exact ⟨rfl, f, hp⟩

end Part

/-! ## Alignments -/

/-- Numbers take 4 or 8 bytes. -/
theorem BaseType.size_of_hostScalar {base : BaseType} {s : HostScalar}
    (h : base.hostScalar = .ok s) : s.size = 4 ∨ s.size = 8 := by
  unfold hostScalar at h
  split at h <;> cases h <;> decide

/-- Of two host alignments the smaller one divides the larger one. -/
theorem dvd_of_host_align {a b : Nat} (ha : a = 4 ∨ a = 8) (hb : b = 4 ∨ b = 8) (h : a ≤ b) :
    a ∣ b := by
  rcases ha with rfl | rfl <;> rcases hb with rfl | rfl <;> first | decide | omega

/-- Host alignments are whole words. -/
theorem word_dvd_of_host_align {a : Nat} (h : a = 4 ∨ a = 8) : wordSize ∣ a := by
  rcases h with rfl | rfl <;> decide

/-- The alignment of an outline is one of those met in it.

**Proof sketch.** Induction on the outline. Every number in it takes 4 or 8 bytes, every struct in
it is aligned to one of the two by the induction hypothesis, and the largest of such numbers is one
of them. -/
theorem Outline.align?_eq {o : Outline} {least a : Nat} (h : o.align? least = some a)
    (hleast : least = 4 ∨ least = 8) : (a = 4 ∨ a = 8) ∧ least ≤ a := by
  induction o generalizing least a with
  | done =>
    cases h
    exact ⟨hleast, Nat.le_refl _⟩
  | plain mem rest ih =>
    obtain ⟨s, hs, h⟩ := align?_plain_eq_some_iff.1 h
    have hsize := BaseType.size_of_hostScalar hs
    have := ih h (by omega)
    omega
  | nested mem name size inner rest ihi ihr =>
    obtain ⟨b, hb, h⟩ := align?_nested_eq_some_iff.1 h
    have hb' := ihi hb (.inl rfl)
    have := ihr h (by omega)
    omega
  | again mem name rest => cases h

/-- A member is aligned like its number, or like its struct on its own, and that divides the
alignment of all members.

**Proof sketch.** The alignment of all members is the largest among them, and all of them are 4 or
8. The struct of a member is aligned on its own as it is inside, since none comes round again. -/
theorem ShaderModule.HasOutline.exists_align_dvd {m : ShaderModule} {path : List Nat}
    {members : List Member} {o : Outline} (ho : m.HasOutline path members o) {least a : Nat}
    (ha : o.align? least = some a) (hleast : least = 4 ∨ least = 8) {mem : Member}
    (hmem : mem ∈ members) :
    ∃ b, b ∣ a ∧
      ((mem.ty.base.structId? = none ∧ ∃ s, mem.ty.base.hostScalar = .ok s ∧ s.size = b) ∨
        ∃ id, mem.ty.base = .struct id ∧ m.alignWithin [] id = .ok b) := by
  induction ho generalizing least a with
  | done => cases hmem
  | plain hbase _ ih =>
    obtain ⟨s, hs, ha⟩ := Outline.align?_plain_eq_some_iff.1 ha
    have hsize := BaseType.size_of_hostScalar hs
    have hle := Outline.align?_eq ha (by omega)
    rcases List.mem_cons.1 hmem with rfl | hmem
    · exact ⟨s.size, dvd_of_host_align hsize hle.1 (by omega), .inl ⟨hbase, s, hs, rfl⟩⟩
    · exact ih ha (by omega) hmem
  | nested hbase hst hid hinner _ _ ihr =>
    obtain ⟨b, hb, ha⟩ := Outline.align?_nested_eq_some_iff.1 ha
    have hb' := Outline.align?_eq hb (.inl rfl)
    have hle := Outline.align?_eq ha (by omega)
    rcases List.mem_cons.1 hmem with rfl | hmem
    · have hown := hinner.of_subset (Outline.isNumeric_of_align? hb)
        (List.cons_subset_cons _ (List.nil_subset _))
      refine ⟨b, dvd_of_host_align hb'.1 hle.1 (by omega), .inr ⟨_, hbase, ?_⟩⟩
      exact ShaderModule.alignWithin_nil_eq_ok_iff.2 ⟨_, _, hst, hown, hb⟩
    · exact ihr ha (by omega) hmem
  | again => cases ha

namespace Layout

variable {l : Layout} {id a n : Nat}

/-- A struct is aligned to 4 or to 8 bytes. -/
theorem align_eq (h : l.structAlign id = .ok a) : a = 4 ∨ a = 8 := by
  obtain ⟨st, o, -, -, ha⟩ := ShaderModule.alignWithin_nil_eq_ok_iff.1 h
  exact (o.align?_eq ha (.inl rfl)).1

/-- The host size of a struct is its declared size, rounded up to its alignment.

**Proof sketch.** The steps are read off one by one. Rounding up is the only one that computes
something, and it is checked before it is done. -/
theorem structSize_eq_ok_iff :
    l.structSize id = .ok n ↔
      ∃ st a, l.module.struct? id = some st ∧ l.structAlign id = .ok a ∧
        st.size + (a - 1) < Word.bound ∧ n = roundUp st.size a := by
  unfold structSize ShaderModule.declaredSize ShaderModule.struct
  cases l.module.struct? id with
  | none => simp [Result.bind_eq_ok_iff]
  | some st =>
    simp only [Result.bind_eq_ok_iff, Except.map, Except.ok.injEq, roundedSize, endOf_eq_ok_iff]
    constructor
    · rintro ⟨_, rfl, _, rfl, a, ha, _, ⟨hlt, rfl⟩, h⟩
      cases h
      exact ⟨_, a, rfl, ha, hlt, rfl⟩
    · rintro ⟨_, a, h, ha, hlt, rfl⟩
      cases h
      exact ⟨_, rfl, _, rfl, a, ha, _, ⟨hlt, rfl⟩, rfl⟩

/-- The name of a struct is found where the table of names has it. -/
theorem structName_eq_ok_iff {name : String} :
    l.structName id = .ok name ↔ l.names.get? id = some name := by
  unfold structName
  cases l.names.get? id <;> simp

/-- The column of a struct member is its struct: it has the host size and the alignment of the
struct and is called by its name. -/
theorem column_struct {context : String} {t : ShaderType} {p : Part} (hbase : t.base = .struct id) :
    l.column context t = .ok p ↔
      ∃ name, l.names.get? id = some name ∧ l.structSize id = .ok p.size ∧
        l.structAlign id = .ok p.align ∧ p.type = .named name := by
  simp only [column, hbase, Result.bind_eq_ok_iff, structName_eq_ok_iff]
  constructor
  · rintro ⟨name, hname, size, hsize, align, halign, h⟩
    cases h
    exact ⟨name, hname, hsize, halign, rfl⟩
  · rintro ⟨name, hname, hsize, halign, htype⟩
    refine ⟨name, hname, _, hsize, _, halign, ?_⟩
    rw [← htype]
    rfl

/-- How the column of any other member is made, one step after the other. -/
theorem column_of_plain {context : String} {t : ShaderType} (hbase : t.base.structId? = none) :
    l.column context t = (do
      let s ← t.base.scalarIn context
      let type := if 1 < t.components then .array (.scalar s) t.components else .scalar s
      let size ← Word.mul s.size t.components
      return { type, size, align := s.size }) := by
  unfold column
  cases hb : t.base with
  | struct id => simp [hb, BaseType.structId?] at hbase
  | _ => rfl

/-- The column of any other member is a scalar or a vector. It takes the bytes of its components and
is aligned like one of them. -/
theorem column_plain {context : String} {t : ShaderType} {p : Part}
    (hbase : t.base.structId? = none) :
    l.column context t = .ok p ↔
      ∃ s, t.base.hostScalar = .ok s ∧ s.size * t.components < Word.bound ∧
        p.size = s.size * t.components ∧ p.align = s.size ∧
        p.type = if 1 < t.components then .array (.scalar s) t.components else .scalar s := by
  rw [column_of_plain hbase]
  simp only [Result.bind_eq_ok_iff, BaseType.scalarIn_eq_ok_iff, Word.mul_eq_ok_iff]
  constructor
  · rintro ⟨s, hs, size, ⟨hlt, rfl⟩, h⟩
    cases h
    exact ⟨s, hs, hlt, rfl, rfl, rfl⟩
  · rintro ⟨s, hs, hlt, hsize, halign, htype⟩
    refine ⟨s, hs, _, ⟨hlt, rfl⟩, ?_⟩
    rw [← htype, ← hsize, ← halign]
    rfl

/-- No member needs more than the struct it is in is aligned to.

**Proof sketch.** The alignment of each member of an outline divides that of the outline, and a
member's column is aligned like its scalar (`column_plain`) or like its struct (`column_struct`). -/
theorem align_dvd_of_hasOutline {path : List Nat} {members : List Member} {o : Outline}
    (ho : l.module.HasOutline path members o) {least : Nat} (ha : o.align? least = some a)
    (hleast : least = 4 ∨ least = 8) {mem : Member} (hmem : mem ∈ members) {context : String}
    {column : Part} (hcolumn : l.column context mem.ty = .ok column) : column.align ∣ a := by
  obtain ⟨b, hdvd, ⟨hbase, s, hs, rfl⟩ | ⟨id, hbase, hb⟩⟩ := ho.exists_align_dvd ha hleast hmem
  · obtain ⟨s', hs', -, -, halign, -⟩ := (column_plain hbase).1 hcolumn
    cases hs.symm.trans hs'
    rwa [halign]
  · obtain ⟨-, -, -, halign, -⟩ := (column_struct hbase).1 hcolumn
    cases hb.symm.trans halign
    exact hdvd

/-! ## Members -/

end Layout

/-- A member made of numbers has at least one component. -/
def Member.IsSized (mem : Member) : Prop :=
  ∀ s, mem.ty.base.hostScalar = .ok s → 0 < mem.ty.components

namespace Layout

/-- In the field of the member, the name of its struct stands for a footprint of the size of the
struct that needs no larger alignment. -/
def Knows (l : Layout) (named : String → Option Footprint) (mem : Member) : Prop :=
  ∀ id name size align, mem.ty.base = .struct id → l.names.get? id = some name →
    l.structSize id = .ok size → l.structAlign id = .ok align →
      ∃ f, named name = some f ∧ f.size = size ∧ 0 < f.align ∧ f.align ∣ align

variable {l : Layout} {named : String → Option Footprint} {mem : Member}

/-- The column of a member takes the bytes that its layout says.

**Proof sketch.** A scalar or a vector takes the bytes of its components by the rules of C. For a
struct these bytes are given by what its name stands for, and its host size is a multiple of its
alignment, as it is rounded up to it (`structSize_eq_ok_iff`). -/
theorem column_fits {context : String} {column : Part} (h : l.column context mem.ty = .ok column)
    (hknows : l.Knows named mem) (hsized : mem.IsSized) : ∃ f, column.Fits named f := by
  cases hbase : mem.ty.base.structId? with
  | none =>
    obtain ⟨s, hs, -, hsize, halign, htype⟩ := (column_plain hbase).1 h
    have hcomponents := hsized s hs
    have hs' := BaseType.size_of_hostScalar hs
    refine ⟨{ size := s.size * mem.ty.components, align := s.size }, ?_⟩
    refine ⟨?_, hsize.symm, by simp only; omega, ?_, ?_, ?_⟩
    · rw [htype]
      split
      · rfl
      · next hone =>
        rw [show mem.ty.components = 1 by omega, Nat.mul_one]
        rfl
    · exact halign ▸ Nat.dvd_refl s.size
    · rw [halign]
      exact word_dvd_of_host_align hs'
    · rw [halign, hsize]
      exact Nat.dvd_mul_right _ _
  | some id =>
    rw [BaseType.structId?_eq_some_iff] at hbase
    obtain ⟨name, hname, hsize, halign, htype⟩ := (column_struct hbase).1 h
    obtain ⟨f, hf, hfsize, hfpos, hfdvd⟩ := hknows id name _ _ hbase hname hsize halign
    obtain ⟨st, a, -, ha, -, hround⟩ := structSize_eq_ok_iff.1 hsize
    cases halign.symm.trans ha
    refine ⟨f, ⟨?_, hfsize, hfpos, hfdvd, ?_, ?_⟩⟩
    · rw [htype]
      exact hf
    · exact word_dvd_of_host_align (align_eq halign)
    · rw [hround]
      exact dvd_roundUp _ _

/-- The field of a member is called like it, stands where it is declared, and is no filler. -/
theorem memberField_place {owner : StructType} {field : Field} {a : Nat}
    (h : l.memberField owner mem = .ok (field, a)) :
    field.name = mem.name ∧ field.offset = mem.offset ∧ field.padding = false := by
  simp only [memberField, Result.bind_eq_ok_iff] at h
  obtain ⟨column, -, matrix, -, whole, -, h⟩ := h
  cases h
  exact ⟨rfl, rfl, rfl⟩

/-- The field of a member takes the bytes that its layout says, aligned like its column.

**Proof sketch.** From the column over the matrix to the array, each step keeps the fit and the
alignment (`column_fits`, `Part.Fits.columns`, `Part.Fits.elements`). -/
theorem memberField_fits {owner : StructType} {field : Field} {a : Nat}
    (h : l.memberField owner mem = .ok (field, a)) (hknows : l.Knows named mem)
    (hsized : mem.IsSized) :
    (∃ column, l.column (contextOf owner mem) mem.ty = .ok column ∧ column.align = a) ∧
      ∃ f, Part.Fits named { type := field.type, size := field.size, align := a } f := by
  simp only [memberField, Result.bind_eq_ok_iff] at h
  obtain ⟨column, hcolumn, matrix, hmatrix, whole, hwhole, h⟩ := h
  cases h
  obtain ⟨f, hf⟩ := column_fits hcolumn hknows hsized
  obtain ⟨halign, g, hg⟩ := hf.columns hmatrix
  obtain ⟨halign', k, hk⟩ := hg.elements hwhole
  exact ⟨⟨column, hcolumn, by rw [halign', halign]⟩, k, hk⟩

end Layout

end ShaderBindings
