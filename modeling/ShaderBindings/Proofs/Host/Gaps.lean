import ShaderBindings.Proofs.Host.Declaration
import ShaderBindings.Proofs.Host.Failures
/-!
# Gaps are whole words

A layout fills what is left between elements and between members with words, and checks before it
does so that whole words are left. The checks never fail: a stride or an offset that leaves anything
else is not a multiple of an alignment and is refused for that. Neither does a gap ever end before
it starts. This module goes through all the places where a gap is formed, for structs that have a
declaration and for those that do not get so far.

## Main definitions

* `Layout.Pads` - the strides up to which the parts of a member are padded.
* `Layout.Fills` - the gaps that are filled between the members of a struct.
* `Error.KeepsWords` - a failure is neither the report of such a gap nor a negative difference.
* `Layout.HasWordGaps` - what holds at every step of the layout of a struct.

## Main results

* `Layout.placeMembers_append` - members are laid out one after the other.
* `Layout.placeMembers_of_odd` - an offset that leaves no whole words is not aligned.
* `Layout.hasWordGaps` - no layout of any module ever comes to a gap that is not whole words.
-/

set_option autoImplicit false

namespace ShaderBindings

open Result

/-- The failure neither reports bytes that are no whole words nor is that of a negative difference.
-/
structure Error.KeepsWords (e : Error) : Prop where
  even : e.isOdd = false
  notNegative : e ≠ .overflow .subtract

namespace Layout

variable {l : Layout} {st : StructType} {mem : Member} {p : Part} {start stop stride : Nat}

/-! ## Where gaps are formed -/

/-- In the layout of the member, the part is padded up to the stride: the column of a matrix to the
stride of the columns, and the element of an array to its share of the outermost stride. -/
inductive Pads (l : Layout) (owner : StructType) (mem : Member) : Part → Nat → Prop
  | column {column : Part} {stride : Nat}
      (hcolumn : l.column (contextOf owner mem) mem.ty = .ok column) (hmatrix : mem.ty.isMatrix)
      (hmajor : mem.rowMajor = false) (hstride : mem.matrixStride = some stride) :
      Pads l owner mem column stride
  | element {column elem : Part} {stride inner : Nat}
      (hcolumn : l.column (contextOf owner mem) mem.ty = .ok column)
      (helem : column.columns (contextOf owner mem) mem = .ok elem) (harray : mem.ty.isArray)
      (hstride : mem.arrayStride = some stride)
      (hinner : (Word.product (mem.ty.extents.map extentCount).tail : Result Nat) = .ok inner)
      (hdvd : inner ∣ stride) : Pads l owner mem elem (stride / inner)

/-- In the layout of the struct, the gap from `start` to `stop` is filled: the one in front of a
member that follows on others, or the one behind the last. -/
inductive Fills (l : Layout) (st : StructType) : Nat → Nat → Prop
  | member {done rest : List Member} {mem : Member} {laid : Laid} {field : Field}
      {align stop : Nat} (hmembers : st.members = done ++ mem :: rest)
      (hlaid : l.placeMembers st 0 done = .ok laid) (hoverlap : ¬mem.offset < laid.stop)
      (hfield : l.memberField st mem = .ok (field, align)) (halign : align ∣ mem.offset)
      (hend : endOf (contextOf st mem) mem.offset field.size = .ok stop) :
      Fills l st laid.stop mem.offset
  | last {laid : Laid} {size : Nat} (hsize : l.structSize st.id = .ok size)
      (hlaid : l.placeMembers st 0 st.members = .ok laid) (hsmall : ¬size < laid.stop) :
      Fills l st laid.stop size

/-- What is padded for a member is whole. -/
theorem Pads.isWhole (h : l.Pads st mem p stride) : p.IsWhole := by
  cases h with
  | column hcolumn => exact isWhole_of_column hcolumn
  | element hcolumn helem => exact (isWhole_of_column hcolumn).columns helem

/-- What is filled in a struct reaches from one multiple of words to another one behind it.

**Proof sketch.** In front of a member the members before it end at a word (`word_dvd_stop`), and
the member starts at a multiple of its alignment. Behind the last one the host size is a number of
words (`word_dvd_of_structSize`). -/
theorem Fills.word_dvd (h : l.Fills st start stop) :
    start ≤ stop ∧ wordSize ∣ start ∧ wordSize ∣ stop := by
  cases h with
  | member _ hlaid hoverlap hfield halign =>
    refine ⟨Nat.le_of_not_lt hoverlap, word_dvd_stop hlaid (Nat.dvd_zero _), ?_⟩
    exact Nat.dvd_trans (isWhole_of_memberField hfield).word_dvd halign
  | last hsize hlaid hsmall =>
    exact ⟨Nat.le_of_not_lt hsmall, word_dvd_stop hlaid (Nat.dvd_zero _),
      word_dvd_of_structSize hsize⟩

/-! ## Members one after the other -/

/-- Members are laid out behind those in front of them.

**Proof sketch.** Induction on the members in front. Each check of the first one fails or succeeds
in both forms alike. -/
theorem placeMembers_append (owner : StructType) (start : Nat) (done rest : List Member) :
    l.placeMembers owner start (done ++ rest) = (do
      let front ← l.placeMembers owner start done
      let back ← l.placeMembers owner front.stop rest
      return { stretches := front.stretches ++ back.stretches, stop := back.stop }) := by
  induction done generalizing start with
  | nil =>
    rw [List.nil_append]
    change _ = l.placeMembers owner start rest >>= _
    cases l.placeMembers owner start rest <;> rfl
  | cons mem done ih =>
    simp only [List.cons_append, placeMembers]
    split
    · rfl
    · simp only [ih, bind_assoc]
      refine bind_congr fun field => ?_
      by_cases halign : mem.offset % field.2 ≠ 0
      · rw [if_pos halign, if_pos halign]
        rfl
      · rw [if_neg halign, if_neg halign]
        simp only [bind_assoc, pure_bind, List.cons_append]

/-- A member that leaves no whole words in front of it does not stand at a multiple of its
alignment, and is refused for that.

**Proof sketch.** A member at a multiple of its alignment would stand at a word, and the members in
front of it end at one, so the bytes between them would be whole words. -/
theorem placeMembers_of_odd {done rest : List Member} {laid : Laid} {field : Field} {align : Nat}
    (hmembers : st.members = done ++ mem :: rest) (hlaid : l.placeMembers st 0 done = .ok laid)
    (hle : laid.stop ≤ mem.offset) (hfield : l.memberField st mem = .ok (field, align))
    (hodd : ¬wordSize ∣ mem.offset - laid.stop) :
    l.placeMembers st 0 st.members =
      .error (.layout (contextOf st mem) (.offsetMisaligned mem.offset align)) := by
  have halign : mem.offset % align ≠ 0 := by
    intro hmod
    refine hodd (Nat.dvd_sub ?_ (word_dvd_stop hlaid (Nat.dvd_zero _)))
    exact Nat.dvd_trans (isWhole_of_memberField hfield).word_dvd (Nat.dvd_of_mod_eq_zero hmod)
  rw [hmembers, placeMembers_append, hlaid]
  change l.placeMembers st laid.stop (mem :: rest) >>= _ = _
  rw [placeMembers, if_neg (Nat.not_lt.2 hle), hfield]
  change (if mem.offset % align ≠ 0 then _ else _) >>= _ = _
  rw [if_pos halign]
  rfl

/-! ## Failures -/

/-- Whatever else is wrong at a member, words are kept. -/
theorem coveredBy_keepsWords (mem : Member) : mem.CoveredBy Error.KeepsWords where
  types := .inr fun _ _ => ⟨rfl, by simp⟩
  words := .inr ⟨rfl, by simp⟩

/-- Whatever else is wrong at a struct, words are kept. -/
theorem structCoveredBy_keepsWords (l : Layout) (id : Nat) :
    l.StructCoveredBy Error.KeepsWords id := by
  have hmissing (inner : Nat) : (l.module.missingStruct inner).KeepsWords :=
    ShaderModule.kind_missingStruct (fun _ => ⟨rfl, by simp⟩) _ _
  refine ⟨fun _ => hmissing id, fun _ => ⟨rfl, by simp⟩, ?_⟩
  exact ShaderModule.failsOnly_alignWithin_of_covered (fun _ => ⟨rfl, by simp⟩)
    (fun inner _ _ => hmissing inner) fun _ _ _ _ mem _ => coveredBy_keepsWords mem

/-- No layout of a member fails for a gap.

**Proof sketch.** The failures of a field are covered by any kind that has all failures but those
for gaps (`failsOnly_memberField`). -/
theorem keepsWords_member (l : Layout) (owner : StructType) (index : Nat) :
    FailsOnly Error.KeepsWords (l.member owner index) := by
  unfold member
  split
  · exact failsOnly_error.2 ⟨rfl, by simp⟩
  · next mem _ =>
    exact (failsOnly_memberField (fun _ _ _ hodd => ⟨hodd, by simp⟩) (coveredBy_keepsWords mem)
      (fun child _ => structCoveredBy_keepsWords l child) owner).map

/-- No declaration fails for a gap. -/
theorem keepsWords_declaration (l : Layout) (st : StructType) :
    FailsOnly Error.KeepsWords (l.declaration st) :=
  failsOnly_declaration (fun _ _ _ hodd => ⟨hodd, by simp⟩) (structCoveredBy_keepsWords l st.id)
    (fun mem _ => ⟨coveredBy_keepsWords mem, fun child _ => structCoveredBy_keepsWords l child⟩)
    fun _ _ _ _ _ => ⟨rfl, by simp⟩

/-! ## All gaps -/

/-- What holds at every step of the layout of a struct, whether there is a declaration in the end or
not. -/
structure HasWordGaps (l : Layout) (st : StructType) : Prop where
  /-- Behind any number of members the next one is looked at from a multiple of words on. -/
  running : ∀ done laid, done <+: st.members → l.placeMembers st 0 done = .ok laid →
    wordSize ∣ laid.stop
  /-- A member takes whole words, and where its offset is accepted it stands at a word. -/
  member : ∀ mem field align, l.memberField st mem = .ok (field, align) →
    wordSize ∣ field.size ∧ (align ∣ mem.offset → wordSize ∣ mem.offset)
  /-- An accepted stride leaves whole words behind a part. The part is padded with them as if there
  were no check, and any other stride is refused for its size or its alignment. -/
  stride : ∀ mem p stride, l.Pads st mem p stride →
    (p.align ∣ stride → wordSize ∣ stride - p.size) ∧
    p.padTo (contextOf st mem) stride =
      if stride < p.size then
        .error (.layout (contextOf st mem) (.strideTooSmall stride p.size))
      else if ¬p.align ∣ stride then
        .error (.layout (contextOf st mem) (.strideMisaligned stride p.align))
      else if stride = p.size then .ok p
      else .ok { p with type := .padded p.type ((stride - p.size) / wordSize), size := stride }
  /-- A gap does not end before it starts, and is filled with whole words. -/
  gap : ∀ start stop, l.Fills st start stop → start ≤ stop ∧ wordSize ∣ stop - start ∧
    gap st start stop = .ok (.gap start ((stop - start) / wordSize))
  /-- A member that would leave anything else in front of it is refused for its alignment. -/
  odd : ∀ done mem rest laid field align, st.members = done ++ mem :: rest →
    l.placeMembers st 0 done = .ok laid → laid.stop ≤ mem.offset →
    l.memberField st mem = .ok (field, align) → ¬wordSize ∣ mem.offset - laid.stop →
      l.placeMembers st 0 st.members =
        .error (.layout (contextOf st mem) (.offsetMisaligned mem.offset align))
  /-- Neither a member nor the struct is ever refused for a gap. -/
  failures : (∀ index e, l.member st index = .error e → e.KeepsWords) ∧
    ∀ e, l.declaration st = .error e → e.KeepsWords

/-- **Gaps are whole words.** In no layout of any struct of any module is there a gap that is not a
number of whole words, or one that ends before it starts: the checks of that are never the reason
for which a layout fails.

**Proof sketch.** All columns are whole (`isWhole_of_column`), and what is made of them stays so.
Hence the members start and end with words (`word_dvd_stop`), as the struct does, and every gap lies
between two multiples of words (`Pads.isWhole`, `Fills.word_dvd`). -/
theorem hasWordGaps (l : Layout) (st : StructType) : l.HasWordGaps st where
  running _ _ _ hlaid := word_dvd_stop hlaid (Nat.dvd_zero _)
  member _ _ _ hfield :=
    ⟨(isWhole_of_memberField hfield).size_dvd,
      Nat.dvd_trans (isWhole_of_memberField hfield).word_dvd⟩
  stride _ _ stride h := ⟨h.isWhole.sub_dvd, h.isWhole.padTo_eq _ stride⟩
  gap start stop h := by
    obtain ⟨hle, hstart, hstop⟩ := h.word_dvd
    exact ⟨hle, Nat.dvd_sub hstop hstart, gap_eq_ok hle hstart hstop⟩
  odd _ _ _ _ _ _ hmembers hlaid hle hfield := placeMembers_of_odd hmembers hlaid hle hfield
  failures := ⟨keepsWords_member l st, keepsWords_declaration l st⟩

/-- Two matrices, with a word left behind each column and two behind each matrix. So there are
fillers inside the type as well as between members. -/
def skewedAxes : Member where
  name := "axes"
  ty := { ShaderType.float32.matrix 2 3 with extents := [2] }
  offset := 0
  matrixStride := some 16
  arrayStride := some 40

/-- A double with two words in front of it. -/
def skewedFar : Member where
  name := "far"
  ty := { base := .float 64 }
  offset := 88

/-- A number that does not stand at a word. A layout refuses it for its alignment before it comes to
the gap in front of it. -/
def skewedTail : Member where
  name := "tail"
  ty := .float32
  offset := 98

/-- A struct of these members. -/
def skewedBlock : StructType where
  id := 1
  name := "Skewed"
  size := 104
  members := [skewedAxes, skewedFar, skewedTail]

/-- A layout of that struct. -/
def skewedLayout : Layout where
  module := { structs := [skewedBlock] }
  names := .ofList [(1, "Skewed")]

/-- As far as the struct can be laid out its gaps are words, and it is refused where one is not.

**Proof sketch.** The steps of the layout are computed up to the stride, the gap or the member in
question. What follows in each case is a clause of `hasWordGaps`. -/
theorem hasWordGaps_skewedBlock :
    (∃ column, skewedLayout.Pads skewedBlock skewedAxes column 16 ∧ column.size = 12 ∧
      column.padTo "Skewed.axes" 16 =
        .ok { column with type := .padded column.type 1, size := 16 }) ∧
    (∃ elem, skewedLayout.Pads skewedBlock skewedAxes elem 40 ∧ elem.size = 32 ∧
      elem.padTo "Skewed.axes" 40 = .ok { elem with type := .padded elem.type 2, size := 40 }) ∧
    (skewedLayout.Fills skewedBlock 80 88 ∧ gap skewedBlock 80 88 = .ok (.gap 80 2)) ∧
    skewedLayout.placeMembers skewedBlock 0 skewedBlock.members =
      .error (.layout "Skewed.tail" (.offsetMisaligned 98 4)) := by
  have h := hasWordGaps skewedLayout skewedBlock
  have hcolumn : skewedLayout.column "Skewed.axes" skewedAxes.ty =
      .ok { type := .array (.scalar .f32) 3, size := 12, align := 4 } := by cbv
  have helem : Part.columns { type := .array (.scalar .f32) 3, size := 12, align := 4 }
      "Skewed.axes" skewedAxes =
      .ok { type := .array (.padded (.array (.scalar .f32) 3) 1) 2, size := 32, align := 4 } := by
    cbv
  have hcolumns : skewedLayout.Pads skewedBlock skewedAxes _ 16 := .column hcolumn rfl rfl rfl
  have helems : skewedLayout.Pads skewedBlock skewedAxes _ 40 :=
    .element hcolumn helem rfl rfl rfl (Nat.one_dvd 40)
  have hgap : skewedLayout.Fills skewedBlock 80 88 := by
    have hmembers : skewedBlock.members = [skewedAxes] ++ skewedFar :: [skewedTail] := rfl
    have hlaid : (skewedLayout.placeMembers skewedBlock 0 [skewedAxes]).map (·.stop) = .ok 80 := by
      cbv
    have hfield : skewedLayout.memberField skewedBlock skewedFar =
        .ok ({ name := "far", type := .scalar .f64, offset := 88, size := 8 }, 8) := by cbv
    obtain ⟨laid, hlaid, hstop⟩ := map_eq_ok_iff.1 hlaid
    exact hstop ▸ .member hmembers hlaid (by rw [hstop]; decide) hfield (by decide) rfl
  have hodd : skewedLayout.placeMembers skewedBlock 0 skewedBlock.members =
      .error (.layout "Skewed.tail" (.offsetMisaligned 98 4)) := by
    have hmembers : skewedBlock.members = [skewedAxes, skewedFar] ++ skewedTail :: [] := rfl
    have hlaid : (skewedLayout.placeMembers skewedBlock 0 [skewedAxes, skewedFar]).map (·.stop) =
        .ok 96 := by cbv
    have hfield : skewedLayout.memberField skewedBlock skewedTail =
        .ok ({ name := "tail", type := .scalar .f32, offset := 98, size := 4 }, 4) := by cbv
    obtain ⟨laid, hlaid, hstop⟩ := map_eq_ok_iff.1 hlaid
    exact h.odd _ _ _ laid _ _ hmembers hlaid (by rw [hstop]; decide) hfield
      (by rw [hstop]; decide)
  exact ⟨⟨_, hcolumns, rfl, (h.stride _ _ _ hcolumns).2⟩,
    ⟨_, helems, rfl, (h.stride _ _ _ helems).2⟩, ⟨hgap, (h.gap _ _ hgap).2.2⟩, hodd⟩

end Layout

end ShaderBindings
