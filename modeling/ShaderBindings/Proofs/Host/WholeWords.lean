import ShaderBindings.Proofs.Host.Parts
/-!
# Whole words

All sizes and alignments that a layout works with are numbers of whole words: a column is aligned to
one word or two and takes a multiple of that, and a stride is only accepted if it is a multiple of
the same. So the bytes left between two elements are whole words wherever the stride is accepted,
and the check of them never fails.

## Main definitions

* `Part.IsWhole` - the size of a part is a multiple of its alignment, and that one of words.

## Main results

* `Part.IsWhole.padTo_eq` - such a part is padded without a check of the bytes behind it.
* `Layout.align_of_column` - the alignments by which strides and offsets are divided are 4 or 8.
* `Layout.isWhole_of_column`, `isWhole_of_memberField` - what a member is built from is whole.
* `Layout.gap_eq_ok` - the bytes between multiples of words are filled with words.
* `Layout.word_dvd_stop` - laid out members end with a word.
-/

set_option autoImplicit false

namespace ShaderBindings

/-! ## Parts -/

/-- The size of the part is a multiple of its alignment, which is a number of whole words. This is
what every step that forms a part keeps, and why no padding is left that words cannot fill. -/
structure Part.IsWhole (p : Part) : Prop where
  word_dvd : wordSize ∣ p.align
  align_dvd : p.align ∣ p.size

namespace Part.IsWhole

variable {p q : Part} {context : String} {mem : Member} {stride : Nat}

/-- The size of a whole part is a number of words. -/
theorem size_dvd (hp : p.IsWhole) : wordSize ∣ p.size := Nat.dvd_trans hp.word_dvd hp.align_dvd

/-- Up to a multiple of the alignment there are whole words behind the part. -/
theorem sub_dvd (hp : p.IsWhole) (halign : p.align ∣ stride) : wordSize ∣ stride - p.size :=
  Nat.dvd_sub (Nat.dvd_trans hp.word_dvd halign) hp.size_dvd

/-- Once the stride is accepted the part is padded: what is left behind it are whole words.

**Proof sketch.** The check that is left out is the one for whole words. Behind the first two checks
it cannot fail: up to a multiple of the alignment there are whole words behind a whole part
(`sub_dvd`). -/
theorem padTo_eq (hp : p.IsWhole) (context : String) (stride : Nat) :
    p.padTo context stride =
      if stride < p.size then .error (.layout context (.strideTooSmall stride p.size))
      else if ¬p.align ∣ stride then .error (.layout context (.strideMisaligned stride p.align))
      else if stride = p.size then .ok p
      else
        .ok { p with type := .padded p.type ((stride - p.size) / wordSize), size := stride } := by
  unfold Part.padTo
  by_cases hsmall : stride < p.size
  · rw [if_pos hsmall, if_pos hsmall]
  · rw [if_neg hsmall, if_neg hsmall]
    by_cases halign : p.align ∣ stride
    · have hgap : (stride - p.size) % wordSize = 0 := Nat.mod_eq_zero_of_dvd (hp.sub_dvd halign)
      have hzero : stride - p.size = 0 ↔ stride = p.size := by omega
      rw [if_neg (not_not.2 halign), if_neg (not_not.2 (Nat.mod_eq_zero_of_dvd halign)),
        Word.sub_eq_ok_iff.2 ⟨Nat.le_of_not_lt hsmall, rfl⟩]
      change (if stride - p.size = 0 then _ else _) = _
      rw [if_neg (not_not.2 hgap), if_congr hzero rfl rfl]
    · have hmod : stride % p.align ≠ 0 := fun h => halign (Nat.dvd_of_mod_eq_zero h)
      rw [if_pos hmod, if_pos halign]

/-- A padded part is whole: it takes a stride that is a multiple of its alignment. -/
theorem padTo (hp : p.IsWhole) (h : p.padTo context stride = .ok q) :
    q.align = p.align ∧ q.IsWhole := by
  obtain ⟨hdvd, -, ⟨-, rfl⟩ | ⟨-, rfl⟩⟩ := padTo_eq_ok h
  · exact ⟨rfl, hp⟩
  · exact ⟨rfl, hp.word_dvd, hdvd⟩

/-- Any number of parts in a row is whole. -/
theorem mul (hp : p.IsWhole) (t : HostType) (n : Nat) :
    IsWhole { type := t, size := p.size * n, align := p.align } :=
  ⟨hp.word_dvd, Nat.dvd_trans hp.align_dvd (Nat.dvd_mul_right _ _)⟩

/-- A matrix of a whole column is whole. -/
theorem columns (hp : p.IsWhole) (h : p.columns context mem = .ok q) : q.IsWhole := by
  unfold Part.columns at h
  split at h
  · rw [Result.ite_error_eq_ok_iff] at h
    obtain ⟨-, h⟩ := h
    split at h
    · cases h
    · simp only [Result.bind_eq_ok_iff, sizeTimes_eq_ok_iff] at h
      obtain ⟨column, hcolumn, size, ⟨-, rfl⟩, h⟩ := h
      cases h
      obtain ⟨halign, hwhole⟩ := hp.padTo hcolumn
      exact halign ▸ hwhole.mul _ _
  · cases h
    exact hp

/-- An array of a whole element is whole. -/
theorem elements (hp : p.IsWhole) (h : p.elements context mem = .ok q) : q.IsWhole := by
  unfold Part.elements at h
  split at h
  · split at h
    · cases h
    · simp only [Result.bind_eq_ok_iff, Result.ite_error_eq_ok_iff] at h
      obtain ⟨inner, -, -, elem, helem, size, hsize, h⟩ := h
      cases h
      obtain ⟨halign, hwhole⟩ := hp.padTo helem
      rw [eq_of_foldlM_sizeTimes hsize]
      exact halign ▸ hwhole.mul _ _
  · cases h
    exact hp

end Part.IsWhole

/-! ## Structs and members -/

namespace Layout

variable {l : Layout} {context : String} {column : Part}

/-- A column is aligned to 4 or to 8 bytes.

**Proof sketch.** A number is aligned to its own size, and a struct to 4 or 8 bytes (`align_eq`). -/
theorem align_of_column {t : ShaderType} (h : l.column context t = .ok column) :
    column.align = 4 ∨ column.align = 8 := by
  cases hbase : t.base.structId? with
  | none =>
    obtain ⟨s, hs, -, -, halign, -⟩ := (column_plain hbase).1 h
    exact halign ▸ BaseType.size_of_hostScalar hs
  | some id =>
    obtain ⟨-, -, -, halign, -⟩ := (column_struct (BaseType.structId?_eq_some_iff.1 hbase)).1 h
    exact align_eq halign

/-- The host size of a struct is a multiple of its alignment. -/
theorem align_dvd_of_structSize {id a n : Nat} (halign : l.structAlign id = .ok a)
    (hsize : l.structSize id = .ok n) : a ∣ n := by
  obtain ⟨st, a', -, halign', -, rfl⟩ := structSize_eq_ok_iff.1 hsize
  cases halign.symm.trans halign'
  exact dvd_roundUp _ _

/-- A column is whole: a number of any components takes that many times its size, and a struct is
rounded up to its alignment. -/
theorem isWhole_of_column {t : ShaderType} (h : l.column context t = .ok column) :
    column.IsWhole where
  word_dvd := word_dvd_of_host_align (align_of_column h)
  align_dvd := by
    cases hbase : t.base.structId? with
    | none =>
      obtain ⟨s, -, -, hsize, halign, -⟩ := (column_plain hbase).1 h
      rw [hsize, halign]
      exact Nat.dvd_mul_right _ _
    | some id =>
      obtain ⟨-, -, hsize, halign, -⟩ :=
        (column_struct (BaseType.structId?_eq_some_iff.1 hbase)).1 h
      exact align_dvd_of_structSize halign hsize

/-- The field of a member is whole. -/
theorem isWhole_of_memberField {owner : StructType} {mem : Member} {field : Field} {a : Nat}
    (h : l.memberField owner mem = .ok (field, a)) :
    Part.IsWhole { type := field.type, size := field.size, align := a } := by
  simp only [memberField, Result.bind_eq_ok_iff] at h
  obtain ⟨column, hcolumn, matrix, hmatrix, whole, hwhole, h⟩ := h
  cases h
  exact ((isWhole_of_column hcolumn).columns hmatrix).elements hwhole

/-- The host size of a struct is a number of whole words. -/
theorem word_dvd_of_structSize {id n : Nat} (h : l.structSize id = .ok n) : wordSize ∣ n := by
  obtain ⟨-, a, -, halign, -⟩ := structSize_eq_ok_iff.1 h
  exact Nat.dvd_trans (word_dvd_of_host_align (align_eq halign)) (align_dvd_of_structSize halign h)

/-! ## Members in a row -/

variable {owner : StructType} {start stop : Nat} {members : List Member} {laid : Laid}

/-- A gap is made exactly if it does not run backwards and is a number of whole words. -/
theorem gap_eq_ok_iff {g : Stretch} :
    gap owner start stop = .ok g ↔
      start ≤ stop ∧ wordSize ∣ stop - start ∧ g = .gap start ((stop - start) / wordSize) := by
  simp only [gap, Result.bind_eq_ok_iff, Word.sub_eq_ok_iff, Result.ite_error_eq_ok_iff,
    Decidable.not_not, Nat.dvd_iff_mod_eq_zero, Except.ok.injEq, eq_comm (a := g)]
  constructor
  · rintro ⟨_, ⟨hle, rfl⟩, hmod, rfl⟩
    exact ⟨hle, hmod, rfl⟩
  · rintro ⟨hle, hmod, rfl⟩
    exact ⟨_, ⟨hle, rfl⟩, hmod, rfl⟩

/-- The bytes from a multiple of words to another one behind it are filled. -/
theorem gap_eq_ok (hle : start ≤ stop) (hstart : wordSize ∣ start) (hstop : wordSize ∣ stop) :
    gap owner start stop = .ok (.gap start ((stop - start) / wordSize)) :=
  gap_eq_ok_iff.2 ⟨hle, Nat.dvd_sub hstop hstart, rfl⟩

/-- What placing a member comes to: its field, its checks, the gap in front of it, and what is
placed behind it.

**Proof sketch.** The steps and their checks are read off one by one. -/
theorem placeMembers_cons_eq_ok_iff {mem : Member} {laid : Laid} :
    l.placeMembers owner start (mem :: members) = .ok laid ↔
      ∃ field align rest, l.memberField owner mem = .ok (field, align) ∧
        start ≤ mem.offset ∧ align ∣ mem.offset ∧ wordSize ∣ mem.offset - start ∧
        mem.offset + field.size < Word.bound ∧
        l.placeMembers owner (mem.offset + field.size) members = .ok rest ∧
        laid = { stretches := .gap start ((mem.offset - start) / wordSize) ::
                   .member field :: rest.stretches, stop := rest.stop } := by
  simp only [placeMembers, Result.ite_error_eq_ok_iff, Result.bind_eq_ok_iff, Nat.not_lt,
    Decidable.not_not, endOf_eq_ok_iff, gap_eq_ok_iff]
  constructor
  · rintro ⟨hle, ⟨field, align⟩, hfield, hmod, _, ⟨hlt, rfl⟩, _, ⟨-, hdvd, rfl⟩, rest, hrest, h⟩
    cases h
    exact ⟨field, align, rest, hfield, hle, Nat.dvd_of_mod_eq_zero hmod, hdvd, hlt, hrest, rfl⟩
  · rintro ⟨field, align, rest, hfield, hle, halign, hdvd, hlt, hrest, rfl⟩
    exact ⟨hle, (field, align), hfield, Nat.mod_eq_zero_of_dvd halign, _, ⟨hlt, rfl⟩, _,
      ⟨hle, hdvd, rfl⟩, rest, hrest, rfl⟩

/-- From a multiple of words on, members are laid out up to another one.

**Proof sketch.** Every member stands at a multiple of its alignment and takes one more, and both
are whole words. -/
theorem word_dvd_stop (h : l.placeMembers owner start members = .ok laid)
    (hstart : wordSize ∣ start) : wordSize ∣ laid.stop := by
  induction members generalizing start laid with
  | nil =>
    cases h
    exact hstart
  | cons mem members ih =>
    obtain ⟨field, align, rest, hfield, -, halign, -, -, hrest, rfl⟩ :=
      placeMembers_cons_eq_ok_iff.1 h
    have hwhole := isWhole_of_memberField hfield
    have hend : wordSize ∣ mem.offset + field.size :=
      Nat.dvd_add (Nat.dvd_trans hwhole.word_dvd halign) hwhole.size_dvd
    have hstop : wordSize ∣ rest.stop := ih hrest hend
    exact hstop

end Layout

end ShaderBindings
