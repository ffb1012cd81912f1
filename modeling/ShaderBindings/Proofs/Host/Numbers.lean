import ShaderBindings.Proofs.Host.Sizes
import ShaderBindings.Proofs.Text.Scan
/-!
# The numbers of a declaration

A struct that is laid out has no number outside a word: its fields lie within its size, one behind
the other, and its size is a word. The sizes are those of exact arithmetic, so a struct with a size
or an end beyond a word has no declaration. The counter behind the names of fillers never passes the
number of fields.

## Main definitions

* `Layout.exactSize`, `exactColumn` - bytes of a struct and of a column, words or not.
* `Layout.IsTooLarge` - a size or an end in the struct is no word.
* `ShaderBindings.NumberedFrom` - the fillers among fields take the next names that are free.

## Main results

* `Layout.tiles_of_declaration` - the fields of a declaration tile its bytes.
* `Layout.not_isTooLarge_of_declaration` - a struct that is too large has no declaration.
* `Layout.exists_number_of_declaration` - the numbers of fillers are below the number of fields.
-/

set_option autoImplicit false

namespace ShaderBindings

/-! ## Places -/

/-- Fields that tile a stretch end within it.

**Proof sketch.** Induction on the fields. Each starts where the one before it ends. -/
theorem Tiles.le {start stop : Nat} {fields : List Field} (h : Tiles start fields stop) :
    start ≤ stop ∧ ∀ f ∈ fields, f.offset + f.size ≤ stop := by
  induction fields generalizing start with
  | nil => exact ⟨Nat.le_of_eq h, by simp⟩
  | cons f fields ih =>
    obtain ⟨hoffset, hrest⟩ := h
    obtain ⟨hle, hfields⟩ := ih hrest
    exact ⟨by omega, List.forall_mem_cons.2 ⟨by omega, hfields⟩⟩

namespace Layout

variable {l : Layout} {owner : StructType} {taken : List String} {members : List Member}
  {fields : List Field} {start stop : Nat}

/-- Filler words in front of fields tile the bytes up to these. -/
theorem tiles_fillers {next count : Nat} (h : Tiles (start + wordSize * count) fields stop) :
    Tiles start ((fillers taken next start count).1 ++ fields) stop := by
  induction count generalizing start next with
  | zero => exact h
  | succ count ih =>
    refine ⟨rfl, ih ?_⟩
    rwa [Nat.add_assoc, ← Nat.mul_succ wordSize count |>.trans (Nat.add_comm _ _)]

/-- Laid out members, with the gap behind the last one filled, tile the bytes that they take up.

**Proof sketch.** Induction on the members. The fillers in front of a member tile the gap up to its
offset (`tiles_fillers`), its field starts there, and the others follow. -/
theorem tiles_of_placeMembers {laid : Laid} (h : l.placeMembers owner start members = .ok laid)
    (taken : List String) (next words : Nat) :
    Tiles start (stretchFields taken next (laid.stretches ++ [.gap laid.stop words]))
      (laid.stop + wordSize * words) := by
  induction members generalizing start laid next with
  | nil =>
    cases h
    exact tiles_fillers rfl
  | cons mem members ih =>
    obtain ⟨field, align, rest, hfield, hle, -, hdvd, -, hrest, rfl⟩ :=
      placeMembers_cons_eq_ok_iff.1 h
    obtain ⟨-, hoffset, -⟩ := memberField_place hfield
    refine tiles_fillers ?_
    rw [Nat.mul_div_cancel' hdvd, Nat.add_sub_cancel' hle]
    exact ⟨hoffset, ih hrest _⟩

/-- The fields of a declaration tile its bytes, whatever the members are made of. Nothing has to be
known of the bytes that the members take by the rules of C. -/
theorem tiles_of_declaration {st : StructType} {decl : StructDecl}
    (h : l.declaration st = .ok decl) : Tiles 0 decl.fields decl.size := by
  obtain ⟨name, size, laid, -, -, hlaid, hle, hdvd, rfl⟩ := declaration_eq_ok_iff.1 h
  have := tiles_of_placeMembers hlaid (st.members.map (·.name)) 0
    ((size - laid.stop) / wordSize)
  rwa [Nat.mul_div_cancel' hdvd, Nat.add_sub_cancel' hle] at this

/-! ## Sizes in exact arithmetic -/

/-- The bytes of a struct on the host, if it has an alignment. It is the number that `structSize`
gives if that is a word. -/
def exactSize (l : Layout) (id : Nat) : Option Nat := do
  let st ← l.module.struct? id
  let align ← (l.structAlign id).toOption
  return roundUp st.size align

/-- The bytes of a column of the type, if the host has a counterpart of it. As with `exactSize`, it
need not be a word. -/
def exactColumn (l : Layout) (t : ShaderType) : Option Nat :=
  match t.base.structId? with
  | some id => l.exactSize id
  | none => t.base.hostScalar.toOption.map fun s => s.size * t.components

/-- The size of the struct or the end of one of its members is no word. A struct of this kind has no
declaration, whatever else may be right or wrong about it. -/
def IsTooLarge (l : Layout) (st : StructType) : Prop :=
  (∃ n, l.exactSize st.id = some n ∧ Word.bound ≤ n) ∨
    ∃ mem ∈ st.members, ∃ n, l.exactColumn mem.ty = some n ∧
      Word.bound ≤ mem.offset + mem.stridedSize n

/-- The host size of a struct is the exact one, and a word.

**Proof sketch.** Rounding up adds less than the alignment, and with that much more the declared
size is still a word. -/
theorem exactSize_of_structSize {id n : Nat} (h : l.structSize id = .ok n) :
    l.exactSize id = some n ∧ n < Word.bound := by
  obtain ⟨st, align, hst, halign, hlt, rfl⟩ := structSize_eq_ok_iff.1 h
  refine ⟨by simp [exactSize, hst, halign, Except.toOption], Nat.lt_of_le_of_lt ?_ hlt⟩
  exact Nat.div_mul_le_self _ _

/-- The bytes of a column are the exact ones.

**Proof sketch.** For a struct both are its host size, and for anything else the bytes of its
components (`column_struct`, `column_plain`). -/
theorem exactColumn_of_column {context : String} {t : ShaderType} {p : Part}
    (h : l.column context t = .ok p) : l.exactColumn t = some p.size := by
  unfold exactColumn
  cases hbase : t.base.structId? with
  | some id =>
    obtain ⟨-, -, hsize, -, -⟩ := (column_struct (BaseType.structId?_eq_some_iff.1 hbase)).1 h
    exact (exactSize_of_structSize hsize).1
  | none =>
    obtain ⟨s, hs, -, hsize, -, -⟩ := (column_plain hbase).1 h
    rw [hs, hsize]
    rfl

/-- Of laid out members each has a column and ends at a word.

**Proof sketch.** Induction on the members. Each end is checked as it is formed, and the size of a
field is that of its strides (`memberField_size`). -/
theorem end_lt_of_placeMembers {laid : Laid} (h : l.placeMembers owner start members = .ok laid)
    {mem : Member} (hmem : mem ∈ members) :
    ∃ n, l.exactColumn mem.ty = some n ∧ mem.offset + mem.stridedSize n < Word.bound := by
  induction members generalizing start laid with
  | nil => cases hmem
  | cons first members ih =>
    obtain ⟨field, align, rest, hfield, -, -, -, hlt, hrest, -⟩ := placeMembers_cons_eq_ok_iff.1 h
    rcases List.mem_cons.1 hmem with rfl | hmem
    · obtain ⟨column, hcolumn, -, -, hsize⟩ := memberField_size hfield
      exact ⟨column.size, exactColumn_of_column hcolumn, hsize ▸ hlt⟩
    · exact ih hrest hmem

/-- **What is too large has no declaration.** If the host size of a struct or the end of one of its
members is no word, its declaration is refused.

**Proof sketch.** In an accepted declaration the host size is a word, and so are the ends of all
members (`end_lt_of_placeMembers`). Both are the exact ones. -/
theorem not_isTooLarge_of_declaration {st : StructType} {decl : StructDecl}
    (h : l.declaration st = .ok decl) : ¬l.IsTooLarge st := by
  obtain ⟨name, size, laid, -, hsize, hlaid, -⟩ := declaration_eq_ok_iff.1 h
  rintro (⟨n, hn, hge⟩ | ⟨mem, hmem, n, hn, hge⟩)
  · obtain ⟨hexact, hlt⟩ := exactSize_of_structSize hsize
    cases hexact.symm.trans hn
    omega
  · obtain ⟨k, hk, hlt⟩ := end_lt_of_placeMembers hlaid hmem
    cases hk.symm.trans hn
    omega

end Layout

/-! ## Numbers of fillers -/

/-- All numbers that are passed over stand for names that are taken.

**Proof sketch.** Induction along the search. A candidate that is passed over is taken, and the
search goes on among the names that are left. -/
theorem Text.mem_of_lt_firstFree {name : Nat → String} {taken : List String} {n k : Nat}
    (hle : n ≤ k) (hlt : k < firstFree name taken n) : name k ∈ taken := by
  fun_induction firstFree name taken n with
  | case1 taken n h ih =>
    rcases Nat.eq_or_lt_of_le hle with rfl | hgt
    · exact h
    · exact List.mem_of_mem_erase (ih hgt hlt)
  | case2 => omega

open Layout (fillerName)

/-- The names of different fillers differ. -/
theorem fillerName_injective {i j : Nat} (h : fillerName i = fillerName j) : i = j := by
  have htext (n : Nat) : (fillerName n).toList = "pad".toList ++ (Nat.toDigits 10 n ++ ['_']) := by
    change ("pad" ++ toString n ++ "_").toList = _
    simp [Nat.toString_eq_repr]
  have htexts := congrArg String.toList h
  rw [htext, htext] at htexts
  exact Text.toDigits_inj (List.append_cancel_right (List.append_cancel_left htexts))

/-- The fillers among the fields have numbers from `next` up to `last`, and every number in between
stands for a name that is taken or is that of a field. -/
structure NumberedFrom (taken : List String) (next last : Nat) (fields : List Field) : Prop where
  le : next ≤ last
  used : ∀ k, next ≤ k → k < last → fillerName k ∈ taken ∨ fillerName k ∈ fields.map (·.name)
  number : ∀ f ∈ fields, f.padding → ∃ n, n < last ∧ f.name = fillerName n

namespace NumberedFrom

variable {taken : List String} {next mid last : Nat} {fields fields' : List Field} {f : Field}

/-- No fields use up no numbers. -/
theorem nil : NumberedFrom taken next next [] :=
  ⟨Nat.le_refl next, fun _ _ _ => by omega, by simp⟩

/-- Fields behind others use up the numbers behind those of the others.

**Proof sketch.** A number below the middle was used up by the fields in front, and any other one by
those behind. -/
theorem append (h : NumberedFrom taken next mid fields) (h' : NumberedFrom taken mid last fields') :
    NumberedFrom taken next last (fields ++ fields') where
  le := Nat.le_trans h.le h'.le
  used := by
    intro k hle hlt
    rw [List.map_append, List.mem_append]
    rcases Nat.lt_or_ge k mid with hmid | hmid
    · exact (h.used k hle hmid).imp_right .inl
    · exact (h'.used k hmid hlt).imp_right .inr
  number := by
    intro f hf hpadding
    rcases List.mem_append.1 hf with hf | hf
    · obtain ⟨n, hn, hname⟩ := h.number f hf hpadding
      exact ⟨n, Nat.lt_of_lt_of_le hn h'.le, hname⟩
    · exact h'.number f hf hpadding

/-- A field of a member uses up no number. -/
theorem member (hplain : f.padding = false) : NumberedFrom taken next next [f] where
  le := Nat.le_refl next
  used := fun _ _ _ => by omega
  number := by simp [hplain]

/-- A filler under the first name that is free uses up the numbers that were passed over.

**Proof sketch.** The numbers in front of the first free one stand for names that are taken
(`Text.mem_of_lt_firstFree`), and the free one is that of the filler itself. -/
theorem filler (hname : f.name = fillerName (Text.firstFree fillerName taken next)) :
    NumberedFrom taken next (Text.firstFree fillerName taken next + 1) [f] where
  le := Nat.le_succ_of_le (Text.le_firstFree _ _ _)
  used := by
    intro k hle hlt
    rcases Nat.eq_or_lt_of_le (Nat.le_of_lt_succ hlt) with rfl | hlt
    · exact .inr (by simp [hname])
    · exact .inl (Text.mem_of_lt_firstFree hle hlt)
  number := by
    intro g hg _
    cases List.mem_singleton.1 hg
    exact ⟨_, Nat.lt_succ_self _, hname⟩

/-- Fillers in a row take one free name after the other. -/
theorem fillers (taken : List String) (next offset count : Nat) :
    NumberedFrom taken next (Layout.fillers taken next offset count).2
      (Layout.fillers taken next offset count).1 := by
  induction count generalizing next offset with
  | zero => exact .nil
  | succ count ih => exact (filler rfl).append (ih _ _)

/-- Fillers between members take one free name after the other.

**Proof sketch.** Induction on the stretches. A member uses up no number, a gap as many as it has
fillers (`fillers`), and the next stretch goes on where it ends. -/
theorem exists_stretchFields {stretches : List Layout.Stretch}
    (h : ∀ f, .member f ∈ stretches → f.padding = false) (taken : List String) (next : Nat) :
    ∃ last, NumberedFrom taken next last (Layout.stretchFields taken next stretches) := by
  induction stretches generalizing next with
  | nil => exact ⟨next, .nil⟩
  | cons stretch rest ih =>
    have hrest : ∀ f, .member f ∈ rest → f.padding = false :=
      fun f hf => h f (List.mem_cons_of_mem _ hf)
    cases stretch with
    | member f =>
      obtain ⟨last, hlast⟩ := ih hrest next
      exact ⟨last, (member (h f List.mem_cons_self)).append hlast⟩
    | gap offset words =>
      obtain ⟨last, hlast⟩ := ih hrest (Layout.fillers taken next offset words).2
      exact ⟨last, (fillers taken next offset words).append hlast⟩

/-- Where all names that are taken belong to fields, there are at least as many fields as numbers.

**Proof sketch.** The filler names of different numbers differ, and all of them belong to fields. -/
theorem le_length (h : NumberedFrom taken 0 last fields)
    (htaken : ∀ name ∈ taken, name ∈ fields.map (·.name)) : last ≤ fields.length := by
  have hnodup : ((List.range last).map fillerName).Nodup :=
    List.nodup_range.map fun i j => fillerName_injective
  have hsub : (List.range last).map fillerName ⊆ fields.map (·.name) := by
    intro name hname
    obtain ⟨k, hk, rfl⟩ := List.mem_map.1 hname
    rcases h.used k (Nat.zero_le k) (List.mem_range.1 hk) with hmem | hmem
    · exact htaken _ hmem
    · exact hmem
  simpa using (hnodup.subperm hsub).length_le

end NumberedFrom

namespace Layout

variable {l : Layout} {owner : StructType} {members : List Member} {start : Nat}

/-- The members among the stretches are no fillers, and they are called like the members given.

**Proof sketch.** Induction on the members. Each adds a gap and its field, which is called like it
and is no filler (`memberField_place`). -/
theorem mem_stretches_of_placeMembers {laid : Laid}
    (h : l.placeMembers owner start members = .ok laid) :
    (∀ f, .member f ∈ laid.stretches → f.padding = false) ∧
      ∀ mem ∈ members, ∃ f, .member f ∈ laid.stretches ∧ f.name = mem.name := by
  induction members generalizing start laid with
  | nil =>
    cases h
    simp
  | cons mem members ih =>
    obtain ⟨field, align, rest, hfield, -, -, -, -, hrest, rfl⟩ := placeMembers_cons_eq_ok_iff.1 h
    obtain ⟨hname, -, hplain⟩ := memberField_place hfield
    obtain ⟨hmembers, hnames⟩ := ih hrest
    refine ⟨?_, List.forall_mem_cons.2 ⟨⟨field, by simp, hname⟩, fun m hm => ?_⟩⟩
    · intro f hf
      simp only [List.mem_cons, reduceCtorEq, Stretch.member.injEq, false_or] at hf
      rcases hf with rfl | hf
      · exact hplain
      · exact hmembers f hf
    · obtain ⟨f, hf, hmem⟩ := hnames m hm
      exact ⟨f, List.mem_cons_of_mem _ (List.mem_cons_of_mem _ hf), hmem⟩

/-- The members among the stretches are among the fields. -/
theorem mem_stretchFields {stretches : List Stretch} {f : Field} (h : .member f ∈ stretches)
    (taken : List String) (next : Nat) : f ∈ stretchFields taken next stretches := by
  induction stretches generalizing next with
  | nil => cases h
  | cons stretch rest ih =>
    rcases List.mem_cons.1 h with rfl | hrest
    · exact List.mem_cons_self
    · cases stretch with
      | member g => exact List.mem_cons_of_mem _ (ih hrest next)
      | gap offset words => exact List.mem_append_right _ (ih hrest _)

/-- The numbers of the fillers of a declaration are below the number of its fields.

**Proof sketch.** Every number that is used up stands for a filler or for a name that is taken by a
member (`NumberedFrom.exists_stretchFields`). Members have fields of their own, so no more numbers
are used up than there are fields (`NumberedFrom.le_length`). -/
theorem exists_number_of_declaration {st : StructType} {decl : StructDecl}
    (h : l.declaration st = .ok decl) {f : Field} (hf : f ∈ decl.fields) (hpadding : f.padding) :
    ∃ n, n < decl.fields.length ∧ f.name = fillerName n := by
  obtain ⟨name, size, laid, -, -, hlaid, -, -, rfl⟩ := declaration_eq_ok_iff.1 h
  obtain ⟨hmembers, hnames⟩ := mem_stretches_of_placeMembers hlaid
  generalize hstretches : laid.stretches ++
    [Stretch.gap laid.stop ((size - laid.stop) / wordSize)] = stretches at hf ⊢
  have hplain : ∀ g, .member g ∈ stretches → g.padding = false := by
    intro g hg
    rw [← hstretches] at hg
    exact hmembers g (by simpa using hg)
  obtain ⟨last, hlast⟩ :=
    NumberedFrom.exists_stretchFields hplain (st.members.map (·.name)) 0
  obtain ⟨n, hn, hname⟩ := hlast.number f hf hpadding
  refine ⟨n, Nat.lt_of_lt_of_le hn (hlast.le_length fun name htaken => ?_), hname⟩
  obtain ⟨mem, hmem, rfl⟩ := List.mem_map.1 htaken
  obtain ⟨g, hg, hgname⟩ := hnames mem hmem
  have hin : .member g ∈ stretches := hstretches ▸ List.mem_append_left _ hg
  exact List.mem_map.2 ⟨g, mem_stretchFields hin _ _, hgname⟩

end Layout

end ShaderBindings
