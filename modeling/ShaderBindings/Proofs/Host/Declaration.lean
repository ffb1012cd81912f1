import Mathlib
import ShaderBindings.Proofs.Host.WholeWords
/-!
# Declarations are exact

A host that places the fields of a declaration by the rules of C puts every member where the shader
declares it, and gives the struct the size that the declaration says.

## Main definitions

* `Layout.Placed` - fields that stand where the rules of C put them, fillers among members.
* `Layout.namedIn` - what the layout knows of the struct of a member.

## Main results

* `Layout.placeMembers_placed` - members with fillers in front of them are placed.
* `Layout.declaration_placed` - so are the fields of a declaration, up to its size.
* `Layout.declaration_isExact` - the offsets and sizes of a declaration are those of the rules.
-/

set_option autoImplicit false

namespace ShaderBindings

namespace Layout

variable {l : Layout} {owner : StructType} {named : Member → String → Option Footprint}
  {bound start stop : Nat} {members : List Member} {fields : List Field}

/-! ## Placed fields -/

/-- From `start` to `stop` the fields touch one another: fillers, and the fields of the members in
order. Each stands at a multiple of its alignment, which divides `bound`. -/
inductive Placed (l : Layout) (owner : StructType) (named : Member → String → Option Footprint)
    (bound : Nat) : Nat → List Member → List Field → Nat → Prop
  | done {start : Nat} : Placed l owner named bound start [] [] start
  | filler {start stop : Nat} {members : List Member} {fields : List Field} {name : String}
      (haligned : wordSize ∣ start)
      (hrest : Placed l owner named bound (start + wordSize) members fields stop) :
      Placed l owner named bound start members
        ({ name, type := .scalar .f32, offset := start, size := wordSize, padding := true }
          :: fields) stop
  | member {start stop align : Nat} {mem : Member} {members : List Member} {field : Field}
      {fields : List Field} {p : Footprint} (hfield : l.memberField owner mem = .ok (field, align))
      (hoffset : field.offset = start)
      (hfits : Part.Fits (named mem) { type := field.type, size := field.size, align } p)
      (haligned : align ∣ start) (hbound : align ∣ bound)
      (hrest : Placed l owner named bound (start + field.size) members fields stop) :
      Placed l owner named bound start (mem :: members) (field :: fields) stop

/-- Placed fields tile the bytes from the first to the last. -/
theorem Placed.tiles (h : Placed l owner named bound start members fields stop) :
    Tiles start fields stop := by
  induction h with
  | done => rfl
  | filler _ _ ih => exact ⟨rfl, ih⟩
  | member _ hoffset _ _ _ _ ih => exact ⟨hoffset, ih⟩

/-- The fields that are no fillers are those of the members, in order.

**Proof sketch.** Induction on the placing. Fillers are left out by the filter, and the field of a
member is no filler (`memberField_place`). -/
theorem Placed.mapM_memberField (h : Placed l owner named bound start members fields stop) :
    members.mapM (fun mem => (l.memberField owner mem).map (·.1)) =
      .ok (fields.filter (!·.padding)) := by
  induction h with
  | done => rfl
  | filler _ _ ih =>
    rw [List.filter_cons_of_neg (by simp)]
    exact ih
  | member hfield _ _ _ _ _ ih =>
    obtain ⟨-, -, hplain⟩ := memberField_place hfield
    rw [List.filter_cons_of_pos (by simp [hplain]), List.mapM_cons, hfield, ih]
    rfl

/-- The fields that are no fillers are called like the members and stand where the members are
declared. -/
theorem Placed.map_place (h : Placed l owner named bound start members fields stop) :
    (fields.filter (!·.padding)).map (fun f => (f.name, f.offset)) =
      members.map (fun mem => (mem.name, mem.offset)) := by
  induction h with
  | done => rfl
  | filler _ _ ih =>
    rw [List.filter_cons_of_neg (by simp)]
    exact ih
  | member hfield _ _ _ _ _ ih =>
    obtain ⟨hname, hoffset, hplain⟩ := memberField_place hfield
    rw [List.filter_cons_of_pos (by simp [hplain]), List.map_cons, List.map_cons, ih, hname,
      hoffset]

/-- By the rules of C, placed fields come to stand at their offsets and take the bytes between.

**Proof sketch.** Every field starts at a multiple of its alignment, so it is not moved away from
the end of the one before. -/
theorem Placed.footprints (h : Placed l owner named bound start members fields stop)
    (hword : wordSize ∣ bound) :
    ∃ prints, fieldFootprints? named members fields = some prints ∧
      Footprint.offsets start prints = fields.map (·.offset) ∧
      prints.map (·.size) = fields.map (·.size) ∧ Footprint.stop start prints = stop ∧
      ∀ p ∈ prints, p.align ∣ bound := by
  induction h with
  | done => exact ⟨[], rfl, rfl, rfl, rfl, by simp⟩
  | @filler start _ _ _ _ haligned _ ih =>
    obtain ⟨prints, hprints, hoffsets, hsizes, hstop, hbound⟩ := ih
    have hround : roundUp start wordSize = start := roundUp_of_dvd (by decide) haligned
    refine ⟨{ size := wordSize, align := wordSize } :: prints, ?_, ?_, ?_, ?_, ?_⟩
    · simp only [fieldFootprints?, if_true, HostType.footprint?, hprints]
      rfl
    · simp only [Footprint.offsets, hround, hoffsets, List.map_cons]
    · simp only [List.map_cons, hsizes]
    · simp only [Footprint.stop, hround, hstop]
    · simpa using ⟨hword, hbound⟩
  | @member start _ _ mem _ field _ p hfield hoffset hfits haligned hdvd _ ih =>
    obtain ⟨-, -, hplain⟩ := memberField_place hfield
    obtain ⟨prints, hprints, hoffsets, hsizes, hstop, hbound⟩ := ih
    have hround : roundUp start p.align = start :=
      roundUp_of_dvd hfits.pos (Nat.dvd_trans hfits.dvd_align haligned)
    have hsize : p.size = field.size := hfits.size
    refine ⟨p :: prints, ?_, ?_, ?_, ?_, ?_⟩
    · simp only [fieldFootprints?, hplain, Bool.false_eq_true, if_false, List.head?_cons,
        List.tail_cons, Option.bind_eq_bind, Option.bind_some, hfits.footprint, hprints]
      rfl
    · simp only [Footprint.offsets, hround, hsize, hoffsets, List.map_cons, hoffset]
    · simp only [List.map_cons, hsizes, hsize]
    · simp only [Footprint.stop, hround, hsize, hstop]
    · simpa using ⟨Nat.dvd_trans hfits.dvd_align hdvd, hbound⟩

/-! ## Fillers -/

/-- Filler words in front of placed fields are placed.

**Proof sketch.** Induction on the number of fillers. Each takes one word, so the next one starts at
a word again. -/
theorem Placed.fillers {taken : List String} {count : Nat} (haligned : wordSize ∣ start)
    {next : Nat} (h : Placed l owner named bound (start + wordSize * count) members fields stop) :
    Placed l owner named bound start members
      ((Layout.fillers taken next start count).1 ++ fields) stop := by
  induction count generalizing start next with
  | zero => exact h
  | succ count ih =>
    refine .filler haligned (ih (Nat.dvd_add haligned (Nat.dvd_refl _)) ?_)
    rwa [Nat.add_assoc, ← Nat.mul_succ wordSize count |>.trans (Nat.add_comm _ _)]

/-! ## Members and declarations -/

/-- Laid out members, with the gap behind the last one filled, are placed.

**Proof sketch.** Between two members the running offset is a multiple of the word, so the gap in
front of the next member is filled by whole words up to its declared offset. -/
theorem placeMembers_placed {laid : Laid} (h : l.placeMembers owner start members = .ok laid)
    (hstart : wordSize ∣ start) (hknows : ∀ mem ∈ members, l.Knows (named mem) mem)
    (hsized : ∀ mem ∈ members, mem.IsSized)
    (hbound : ∀ mem ∈ members, ∀ context column, l.column context mem.ty = .ok column →
      column.align ∣ bound) :
    wordSize ∣ laid.stop ∧ ∀ taken next words, Placed l owner named bound start members
      (stretchFields taken next (laid.stretches ++ [.gap laid.stop words]))
      (laid.stop + wordSize * words) := by
  induction members generalizing start laid with
  | nil =>
    cases h
    exact ⟨hstart, fun taken next words => .fillers hstart .done⟩
  | cons mem members ih =>
    obtain ⟨field, align, rest, hfield, hle, halign, hdvd, -, hrest, rfl⟩ :=
      placeMembers_cons_eq_ok_iff.1 h
    obtain ⟨-, hoffset, -⟩ := memberField_place hfield
    obtain ⟨⟨column, hcolumn, rfl⟩, p, hfits⟩ :=
      memberField_fits hfield (hknows mem List.mem_cons_self) (hsized mem List.mem_cons_self)
    have hword : wordSize ∣ mem.offset := by
      rw [← Nat.add_sub_cancel' hle]
      exact Nat.dvd_add hstart hdvd
    have hend : wordSize ∣ mem.offset + field.size :=
      Nat.dvd_add hword (Nat.dvd_trans hfits.word_dvd hfits.align_dvd)
    obtain ⟨hstop, hplaced⟩ := ih hrest hend
      (fun m hm => hknows m (List.mem_cons_of_mem mem hm))
      (fun m hm => hsized m (List.mem_cons_of_mem mem hm))
      (fun m hm => hbound m (List.mem_cons_of_mem mem hm))
    refine ⟨hstop, fun taken next words => .fillers hstart ?_⟩
    rw [Nat.mul_div_cancel' hdvd, Nat.add_sub_cancel' hle]
    exact .member hfield hoffset hfits halign
      (hbound mem List.mem_cons_self _ _ hcolumn) (hplaced taken _ words)

/-- What a struct is declared as, and when: it has a name and a host size, its members can be laid
out, they end within the size, and the rest is made of whole words. The fields are the members with
the fillers between them and behind the last one. -/
theorem declaration_eq_ok_iff {st : StructType} {decl : StructDecl} :
    l.declaration st = .ok decl ↔
      ∃ name size laid, l.names.get? st.id = some name ∧ l.structSize st.id = .ok size ∧
        l.placeMembers st 0 st.members = .ok laid ∧ laid.stop ≤ size ∧
        wordSize ∣ size - laid.stop ∧
        decl = { id := st.id, name, size,
                 fields := stretchFields (st.members.map (·.name)) 0
                   (laid.stretches ++ [.gap laid.stop ((size - laid.stop) / wordSize)]) } := by
  simp only [declaration, Result.bind_eq_ok_iff, structName_eq_ok_iff, Result.ite_error_eq_ok_iff,
    Nat.not_lt, gap_eq_ok_iff]
  constructor
  · rintro ⟨name, hname, size, hsize, laid, hlaid, hle, _, ⟨-, hdvd, rfl⟩, h⟩
    cases h
    exact ⟨name, size, laid, hname, hsize, hlaid, hle, hdvd, rfl⟩
  · rintro ⟨name, size, laid, hname, hsize, hlaid, hle, hdvd, rfl⟩
    exact ⟨name, hname, size, hsize, laid, hlaid, hle, _, ⟨hle, hdvd, rfl⟩, rfl⟩

/-- The fields of a declaration are placed from its first byte to its last.

**Proof sketch.** An accepted declaration has its size, its alignment and its laid out members. The
alignment of each column divides that of the struct (`align_dvd_of_hasOutline`), so the members are
placed by the rules of C (`placeMembers_placed`), and the words behind the last one reach to the
end. -/
theorem declaration_placed {st : StructType} {decl : StructDecl}
    (hst : l.module.struct? st.id = some st) (h : l.declaration st = .ok decl)
    (hknows : ∀ mem ∈ st.members, l.Knows (named mem) mem)
    (hsized : ∀ mem ∈ st.members, mem.IsSized) :
    ∃ align, l.structAlign st.id = .ok align ∧ l.structSize st.id = .ok decl.size ∧
      wordSize ∣ align ∧ align ∣ decl.size ∧
      Placed l st named align 0 st.members decl.fields decl.size := by
  obtain ⟨name, size, laid, -, hsize, hlaid, hle, hdvd, rfl⟩ := declaration_eq_ok_iff.1 h
  obtain ⟨st', align, -, halign, -, hround⟩ := structSize_eq_ok_iff.1 hsize
  obtain ⟨st'', o, hst'', ho, ha⟩ := ShaderModule.alignWithin_nil_eq_ok_iff.1 halign
  cases hst.symm.trans hst''
  have hbound : ∀ mem ∈ st.members, ∀ context column, l.column context mem.ty = .ok column →
      column.align ∣ align :=
    fun mem hmem _ _ hcolumn => align_dvd_of_hasOutline ho ha (.inl rfl) hmem hcolumn
  obtain ⟨-, hplaced⟩ := placeMembers_placed hlaid (Nat.dvd_zero _) hknows hsized hbound
  refine ⟨align, halign, hsize, word_dvd_of_host_align (align_eq halign),
    hround ▸ dvd_roundUp _ _, ?_⟩
  have := hplaced (st.members.map (·.name)) 0 ((size - laid.stop) / wordSize)
  rwa [Nat.mul_div_cancel' hdvd, Nat.add_sub_cancel' hle] at this

/-- Placed fields of a declaration are where the rules of C put them, and make up its size.

**Proof sketch.** The offsets and the sizes are those of the placing (`Placed.footprints`). The last
field ends at a multiple of every alignment, so the struct takes no further bytes. -/
theorem Placed.isExact {decl : StructDecl}
    (h : Placed l owner named bound 0 members decl.fields decl.size) (hword : wordSize ∣ bound)
    (hbound : bound ∣ decl.size) :
    ∃ prints, fieldFootprints? named members decl.fields = some prints ∧ decl.IsExact prints ∧
      ∀ p ∈ prints, p.align ∣ bound := by
  obtain ⟨prints, hprints, hoffsets, hsizes, hstop, hdvd⟩ := h.footprints hword
  refine ⟨prints, hprints, ⟨hoffsets, hsizes, ?_⟩, hdvd⟩
  have hends : ∀ f ∈ prints, f.align ∣ Footprint.stop 0 prints := by
    rw [hstop]
    exact fun f hf => Nat.dvd_trans (hdvd f hf) hbound
  rw [Footprint.size_struct hends, hstop]

/-- The footprint of the struct of a member under its name, as the layout has it. Other names have
no footprint here, so a type with such a name has none either. -/
def namedIn (l : Layout) (mem : Member) (name : String) : Option Footprint :=
  match mem.ty.base with
  | .struct id =>
    match l.structSize id, l.structAlign id with
    | .ok size, .ok align =>
      if l.names.get? id = some name then some { size, align } else none
    | _, _ => none
  | _ => none

/-- Inside a member, the name of its struct stands for the bytes that the layout gives this
struct. -/
theorem knows_namedIn (mem : Member) : l.Knows (l.namedIn mem) mem := by
  intro id name size align hbase hname hsize halign
  refine ⟨{ size, align }, ?_, rfl, ?_, Nat.dvd_refl _⟩
  · simp only [namedIn, hbase, hsize, halign, hname, if_true]
  · have := align_eq halign
    simp only
    omega

/-- **Declarations are exact.** Placed by the rules of C, the fields of an accepted declaration come
to stand at the offsets and take the sizes it says, a name standing for the struct that the member
refers to, and make a struct of the declared size. The fields that are no fillers are the members in
order, each at its own offset, and together with the fillers they tile the struct. -/
theorem declaration_isExact {st : StructType} {decl : StructDecl}
    (hst : l.module.struct? st.id = some st) (hsized : ∀ mem ∈ st.members, mem.IsSized)
    (h : l.declaration st = .ok decl) :
    (∃ prints, fieldFootprints? l.namedIn st.members decl.fields = some prints ∧
      decl.IsExact prints) ∧
    st.members.mapM (fun mem => (l.memberField st mem).map (·.1)) =
      .ok (decl.fields.filter (!·.padding)) ∧
    (decl.fields.filter (!·.padding)).map (fun f => (f.name, f.offset)) =
      st.members.map (fun mem => (mem.name, mem.offset)) ∧
    Tiles 0 decl.fields decl.size := by
  obtain ⟨align, halign, hsize, hword, hdvd, hplaced⟩ :=
    declaration_placed hst h (fun mem _ => knows_namedIn mem) hsized
  obtain ⟨prints, hprints, hexact, -⟩ := hplaced.isExact hword hdvd
  exact ⟨⟨prints, hprints, hexact⟩, hplaced.mapM_memberField, hplaced.map_place, hplaced.tiles⟩

/-- A struct that keeps a double, a struct of its own and matrices, all with gaps between them. It
has a case of each kind of part that a declaration can have. -/
def lightBlock : StructType where
  id := 1
  name := "Block"
  size := 112
  members :=
    [{ name := "power", ty := .float32, offset := 0 },
     { name := "far", ty := { base := .float 64 }, offset := 8 },
     { name := "sun", ty := .struct 2, offset := 16 },
     { name := "views", ty := { ShaderType.float32.matrix 2 3 with extents := [2] }, offset := 32,
       matrixStride := some 16, arrayStride := some 40 }]

/-- The names and structs of a module with that block. -/
def lightLayout : Layout where
  module :=
    { structs := [lightBlock, { id := 2, name := "Light", size := 12, members :=
        [{ name := "color", ty := ShaderType.float32.vector 3, offset := 0 }] }] }
  names := .ofList [(1, "Block"), (2, "Light_frag")]

/-- The declaration of the block, with its fillers. -/
def lightDecl : StructDecl where
  id := 1
  name := "Block"
  size := 112
  fields :=
    [{ name := "power", type := .scalar .f32, offset := 0, size := 4 },
     { name := "pad0_", type := .scalar .f32, offset := 4, size := 4, padding := true },
     { name := "far", type := .scalar .f64, offset := 8, size := 8 },
     { name := "sun", type := .named "Light_frag", offset := 16, size := 12 },
     { name := "pad1_", type := .scalar .f32, offset := 28, size := 4, padding := true },
     { name := "views", offset := 32, size := 80, type := .array (.padded (.array
         (.padded (.array (.scalar .f32) 3) 1) 2) 2) 2 }]

/-- The block of a light is laid out exactly: it is one of its module, its members have components,
and its declaration is the one above. -/
theorem lightDecl_isExact :
    lightLayout.module.struct? lightBlock.id = some lightBlock ∧
    (∀ mem ∈ lightBlock.members, mem.IsSized) ∧
    lightLayout.declaration lightBlock = .ok lightDecl ∧
    ∃ prints, fieldFootprints? lightLayout.namedIn lightBlock.members lightDecl.fields =
      some prints ∧ lightDecl.IsExact prints := by
  have hst : lightLayout.module.struct? lightBlock.id = some lightBlock := rfl
  have hsized : ∀ mem ∈ lightBlock.members, mem.IsSized := by
    intro mem hmem s _
    simp only [lightBlock, List.mem_cons, List.not_mem_nil, or_false] at hmem
    rcases hmem with rfl | rfl | rfl | rfl <;> decide
  have hdecl : lightLayout.declaration lightBlock = .ok lightDecl := by cbv
  exact ⟨hst, hsized, hdecl, (declaration_isExact hst hsized hdecl).1⟩

end Layout

end ShaderBindings
