import ShaderBindings.Proofs.Host.Declaration
import ShaderBindings.Proofs.Struct.Reading
import ShaderBindings.Struct.Naming
/-!
# Declarations of the same outline

The declaration of a struct depends on its outline and on the names given to it and to the structs
of its members, but not on the module the struct is in. So one declaration can stand for the structs
of several modules, as long as their signatures can be read back.

## Main definitions

* `ShaderModule.Alike` - members of two modules that are written alike.

## Main results

* `ShaderModule.HasOutline.alike` - members with one outline are alike, one by one.
* `Layout.declaration_of_alike` - where members are alike, so are the declarations.
* `Layout.declaration_eq_of_signature_eq` - without commas in names, structs of the same signature
  have the same declaration.
* `Layout.exists_signature_collision` - with commas they can have different ones.
-/

set_option autoImplicit false

namespace ShaderBindings

namespace ShaderModule

variable {m m' : ShaderModule}

/-- Members of two modules that differ in the id of their struct at most, the structs of both having
one name, size and outline. -/
inductive Alike (m m' : ShaderModule) : Member → Member → Prop
  | plain {mem : Member} (hbase : mem.ty.base.structId? = none) : Alike m m' mem mem
  | nested {mem mem' : Member} {id id' : Nat} {st st' : StructType} {inner : Outline}
      (hbase : mem.ty.base = .struct id) (hbase' : mem'.ty.base = .struct id')
      (hsame : mem.withoutId = mem'.withoutId) (hst : m.struct? id = some st)
      (hst' : m'.struct? id' = some st') (hname : st.name = st'.name) (hsize : st.size = st'.size)
      (hinner : m.HasOutline [id] st.members inner)
      (hinner' : m'.HasOutline [id'] st'.members inner) : Alike m m' mem mem'

/-- Alike members differ in the ids of their structs at most. -/
theorem Alike.withoutId_eq {mem mem' : Member} (h : m.Alike m' mem mem') :
    mem.withoutId = mem'.withoutId := by
  cases h with
  | plain => rfl
  | nested _ _ hsame => exact hsame

/-- Alike members have one name. -/
theorem Alike.name_eq {mem mem' : Member} (h : m.Alike m' mem mem') : mem.name = mem'.name := by
  rw [← mem.name_withoutId, h.withoutId_eq, mem'.name_withoutId]

/-- The structs of alike members have one name and one signature.

**Proof sketch.** What is alike has structs of one name, one size and one numeric outline, and the
signature is written from these. -/
theorem Alike.exists_signature {mem mem' : Member} {id id' : Nat} (h : m.Alike m' mem mem')
    (hbase : mem.ty.base = .struct id) (hbase' : mem'.ty.base = .struct id') :
    ∃ st st' text, m.struct? id = some st ∧ m'.struct? id' = some st' ∧ st.name = st'.name ∧
      m.signature st = .ok text ∧ m'.signature st' = .ok text := by
  cases h with
  | plain hplain => simp [hbase, BaseType.structId?] at hplain
  | nested hb hb' _ hst hst' hname hsize hinner hinner' =>
    cases hbase.symm.trans hb
    cases hbase'.symm.trans hb'
    have hid := id_of_struct?_eq_some hst
    have hid' := id_of_struct?_eq_some hst'
    rw [← hid] at hinner
    rw [← hid'] at hinner'
    obtain ⟨text, htext, htext'⟩ := exists_signature_of_hasOutline hname hsize hinner hinner'
    exact ⟨_, _, text, hst, hst', hname, htext, htext'⟩

/-- Members with the same numeric outline are alike, one by one.

**Proof sketch.** Induction on the outline, which the two lists of members share. Where it says that
a member is plain both are. Where it goes into a struct, both structs have the same outline inside,
and since it is numeric it does not depend on the structs around. -/
theorem HasOutline.alike {path path' : List Nat} {members members' : List Member} {o : Outline}
    (h : m.HasOutline path members o) (h' : m'.HasOutline path' members' o) (ho : o.IsNumeric) :
    List.Forall₂ (m.Alike m') members members' := by
  induction h generalizing path' members' with
  | done =>
    cases h'
    exact .nil
  | plain hbase _ ih =>
    cases h' with
    | plain _ hrest' => exact .cons (.plain hbase) (ih hrest' ho.2)
  | nested hbase hst _ hinner _ _ ihr =>
    generalize hmem : Member.withoutId _ = mem₀ at h'
    generalize hname : StructType.name _ = name at h'
    generalize hsize : StructType.size _ = size at h'
    cases h' with
    | nested hbase' hst' _ hinner' hrest' =>
      have hown := hinner.of_subset ho.1 (List.cons_subset_cons _ (List.nil_subset _))
      have hown' := hinner'.of_subset ho.1 (List.cons_subset_cons _ (List.nil_subset _))
      exact .cons (.nested hbase hbase' hmem hst hst' hname hsize hown hown') (ihr hrest' ho.2)
  | again => exact ho.elim

end ShaderModule

namespace Layout

variable {l l' : Layout}

/-- Structs of the same outline have the same host alignment, as it is computed from the outline. -/
theorem structAlign_of_hasOutline {st st' : StructType} {id id' a : Nat} {o : Outline}
    (hst : l.module.struct? id = some st) (hst' : l'.module.struct? id' = some st')
    (ho : l.module.HasOutline [id] st.members o) (ho' : l'.module.HasOutline [id'] st'.members o)
    (h : l.structAlign id = .ok a) : l'.structAlign id' = .ok a := by
  obtain ⟨st₁, o₁, hst₁, ho₁, ha⟩ := ShaderModule.alignWithin_nil_eq_ok_iff.1 h
  cases hst.symm.trans hst₁
  obtain rfl := ho.unique ho₁
  exact ShaderModule.alignWithin_nil_eq_ok_iff.2 ⟨st', o, hst', ho', ha⟩

/-- Structs of the same size and outline have the same host size: the alignments agree
(`structAlign_of_hasOutline`), and so does what is rounded up. -/
theorem structSize_of_hasOutline {st st' : StructType} {id id' n : Nat} {o : Outline}
    (hst : l.module.struct? id = some st) (hst' : l'.module.struct? id' = some st')
    (hsize : st.size = st'.size) (ho : l.module.HasOutline [id] st.members o)
    (ho' : l'.module.HasOutline [id'] st'.members o)
    (h : l.structSize id = .ok n) : l'.structSize id' = .ok n := by
  obtain ⟨st₁, a, hst₁, ha, hlt, hround⟩ := structSize_eq_ok_iff.1 h
  cases hst.symm.trans hst₁
  have ha' := structAlign_of_hasOutline hst hst' ho ho' ha
  exact structSize_eq_ok_iff.2 ⟨st', a, hst', ha', hsize ▸ hlt, hsize ▸ hround⟩

/-- The names of the structs of two members are the same. For members that are no structs there is
nothing to ask. -/
def NamesAgree (l l' : Layout) (mem mem' : Member) : Prop :=
  ∀ id id', mem.ty.base = .struct id → mem'.ty.base = .struct id' →
    l.names.get? id = l'.names.get? id'

/-- Members that are alike have the same columns.

**Proof sketch.** A plain column is made of the type alone. That of a struct is made of its name,
its host size and its alignment, and the names agree by hypothesis, the others as the outlines
do. -/
theorem column_of_alike {mem mem' : Member} {context : String} {column : Part}
    (h : l.module.Alike l'.module mem mem') (hnames : l.NamesAgree l' mem mem')
    (hcolumn : l.column context mem.ty = .ok column) : l'.column context mem'.ty = .ok column := by
  cases h with
  | plain hbase => exact (column_plain hbase).2 ((column_plain hbase).1 hcolumn)
  | nested hbase hbase' _ hst hst' _ hsize hinner hinner' =>
    obtain ⟨name, hname, hsize₁, halign, htype⟩ := (column_struct hbase).1 hcolumn
    refine (column_struct hbase').2 ⟨name, ?_, ?_, ?_, htype⟩
    · rw [← hnames _ _ hbase hbase', hname]
    · exact structSize_of_hasOutline hst hst' hsize hinner hinner' hsize₁
    · exact structAlign_of_hasOutline hst hst' hinner hinner' halign

/-- Members that are alike have the same fields.

**Proof sketch.** The columns are the same (`column_of_alike`). What is put around them does not
look at the id of the struct, and apart from this id the members are the same. -/
theorem memberField_of_alike {mem mem' : Member} {owner owner' : StructType} {x : Field × Nat}
    (h : l.module.Alike l'.module mem mem') (hnames : l.NamesAgree l' mem mem')
    (howner : owner.name = owner'.name) (hfield : l.memberField owner mem = .ok x) :
    l'.memberField owner' mem' = .ok x := by
  have hsame := h.withoutId_eq
  have hname := h.name_eq
  have hoffset : mem.offset = mem'.offset := by
    change mem.withoutId.offset = mem'.withoutId.offset
    rw [hsame]
  have hcontext : contextOf owner mem = contextOf owner' mem' := by
    rw [contextOf, contextOf, howner, hname]
  -- apart from the base type, a member is used as the same member without its id
  have hcolumns (p : Part) (context : String) : p.columns context mem = p.columns context mem' := by
    change p.columns context mem.withoutId = p.columns context mem'.withoutId
    rw [hsame]
  have helements (p : Part) (context : String) :
      p.elements context mem = p.elements context mem' := by
    change p.elements context mem.withoutId = p.elements context mem'.withoutId
    rw [hsame]
  simp only [memberField, Result.bind_eq_ok_iff] at hfield ⊢
  obtain ⟨column, hcolumn, matrix, hmatrix, whole, hwhole, hx⟩ := hfield
  rw [hcontext] at hcolumn
  rw [hcontext, hcolumns] at hmatrix
  rw [hcontext, helements] at hwhole
  rw [hname, hoffset] at hx
  exact ⟨column, column_of_alike h hnames hcolumn, matrix, hmatrix, whole, hwhole, hx⟩

/-- Members that are alike, one by one, are placed alike.

**Proof sketch.** Induction on the members. The fields are the same (`memberField_of_alike`), so
they stand in the same places and the next members start at the same bytes. -/
theorem placeMembers_of_alike {members members' : List Member} {owner owner' : StructType}
    {start : Nat} {laid : Laid}
    (h : List.Forall₂ (l.module.Alike l'.module) members members')
    (hnames : ∀ mem ∈ members, ∀ mem' ∈ members', l.module.Alike l'.module mem mem' →
      l.NamesAgree l' mem mem')
    (howner : owner.name = owner'.name)
    (hlaid : l.placeMembers owner start members = .ok laid) :
    l'.placeMembers owner' start members' = .ok laid := by
  induction h generalizing start laid with
  | nil =>
    cases hlaid
    rfl
  | @cons mem mem' _ _ hmem _ ih =>
    obtain ⟨field, align, rest, hfield, hle, halign, hdvd, hlt, hrest, rfl⟩ :=
      placeMembers_cons_eq_ok_iff.1 hlaid
    have hagree := hnames mem List.mem_cons_self mem' List.mem_cons_self hmem
    have hfield' := memberField_of_alike hmem hagree howner hfield
    obtain ⟨-, hoffset, -⟩ := memberField_place hfield
    obtain ⟨-, hoffset', -⟩ := memberField_place hfield'
    rw [← hoffset, hoffset'] at hle halign hdvd hlt hrest ⊢
    have hrest' := ih (fun a ha b hb => hnames a (List.mem_cons_of_mem _ ha) b
      (List.mem_cons_of_mem _ hb)) hrest
    exact placeMembers_cons_eq_ok_iff.2
      ⟨field, align, rest, hfield', hle, halign, hdvd, hlt, hrest', rfl⟩

/-- Accepted members have names for their structs.

**Proof sketch.** Induction on the members. A struct member that has a field has a column, and this
column is called by the name of the struct (`column_struct`). -/
theorem exists_name_of_placeMembers {members : List Member} {owner : StructType} {start : Nat}
    {laid : Laid} (h : l.placeMembers owner start members = .ok laid) :
    ∀ mem ∈ members, ∀ id, mem.ty.base = .struct id → ∃ name, l.names.get? id = some name := by
  induction members generalizing start laid with
  | nil => exact fun mem hmem => absurd hmem (by simp)
  | cons mem members ih =>
    obtain ⟨field, align, rest, hfield, -, -, -, -, hrest, -⟩ := placeMembers_cons_eq_ok_iff.1 h
    refine List.forall_mem_cons.2 ⟨fun id hbase => ?_, ih hrest⟩
    simp only [memberField, Result.bind_eq_ok_iff] at hfield
    obtain ⟨column, hcolumn, -⟩ := hfield
    obtain ⟨name, hname, -⟩ := (column_struct hbase).1 hcolumn
    exact ⟨name, hname⟩

/-- Where the members of two structs are alike and called alike, so are the declarations.

**Proof sketch.** Both structs have the same size, so what is left to do is to place the members,
and the names that fillers have to avoid are those of the members. -/
theorem declaration_of_alike {st st' : StructType} {decl : StructDecl} {o : Outline}
    (hst : l.module.struct? st.id = some st) (hst' : l'.module.struct? st'.id = some st')
    (hname : st.name = st'.name) (hsize : st.size = st'.size)
    (ho : l.module.HasOutline [st.id] st.members o)
    (ho' : l'.module.HasOutline [st'.id] st'.members o) (hnumeric : o.IsNumeric)
    (hown : l.names.get? st.id = l'.names.get? st'.id)
    (hnames : ∀ mem ∈ st.members, ∀ mem' ∈ st'.members, l.module.Alike l'.module mem mem' →
      l.NamesAgree l' mem mem')
    (h : l.declaration st = .ok decl) : l'.declaration st' = .ok { decl with id := st'.id } := by
  obtain ⟨name, size, laid, hget, hhost, hlaid, hle, hdvd, rfl⟩ := declaration_eq_ok_iff.1 h
  have halike := ho.alike ho' hnumeric
  have hmembers : st.members.map (·.name) = st'.members.map (·.name) := by
    rw [← List.forall₂_eq_eq_eq, List.forall₂_map_left_iff, List.forall₂_map_right_iff]
    exact halike.imp fun _ _ hmem => hmem.name_eq
  refine declaration_eq_ok_iff.2 ⟨name, size, laid, hown ▸ hget, ?_, ?_, hle, hdvd, ?_⟩
  · exact structSize_of_hasOutline hst hst' hsize ho ho' hhost
  · exact placeMembers_of_alike halike hnames hname hlaid
  · rw [hmembers]

/-- An accepted struct has a numeric outline.

**Proof sketch.** An accepted struct has a host size and so an alignment, which is computed from an
outline. An outline with an alignment is numeric. -/
theorem exists_hasOutline_of_declaration {st : StructType} {decl : StructDecl}
    (hst : l.module.struct? st.id = some st) (h : l.declaration st = .ok decl) :
    ∃ o, l.module.HasOutline [st.id] st.members o ∧ o.IsNumeric := by
  obtain ⟨name, size, laid, -, hsize, -⟩ := declaration_eq_ok_iff.1 h
  obtain ⟨st₁, a, -, ha, -⟩ := structSize_eq_ok_iff.1 hsize
  obtain ⟨st₂, o, hst₂, ho, halign⟩ := ShaderModule.alignWithin_nil_eq_ok_iff.1 ha
  cases hst.symm.trans hst₂
  exact ⟨o, ho, Outline.isNumeric_of_align? halign⟩

/-- **One declaration for one signature.** Two accepted structs of the same signature, in modules
that call structs of the same signature by the same name, have the same declaration apart from the
id, provided that no name in them has a comma in it.

**Proof sketch.** Without commas the signatures can be read back, so both structs have one outline,
and so do the structs of their members, which are therefore called by the same names. -/
theorem declaration_eq_of_signature_eq {st st' : StructType} {decl decl' : StructDecl}
    {text : String}
    (hst : l.module.struct? st.id = some st) (hst' : l'.module.struct? st'.id = some st')
    (hnames : ∀ id id' c c' text name name', l.module.struct? id = some c →
      l'.module.struct? id' = some c' → l.module.signature c = .ok text →
      l'.module.signature c' = .ok text → l.names.get? id = some name →
      l'.names.get? id' = some name' → name = name')
    (hplain : l.module.HasPlainNames st.id) (hplain' : l'.module.HasPlainNames st'.id)
    (hsignature : l.module.signature st = .ok text)
    (hsignature' : l'.module.signature st' = .ok text)
    (h : l.declaration st = .ok decl) (h' : l'.declaration st' = .ok decl') :
    decl' = { decl with id := st'.id } := by
  obtain ⟨o, ho, hnumeric⟩ := exists_hasOutline_of_declaration hst h
  obtain ⟨o', ho', hnumeric'⟩ := exists_hasOutline_of_declaration hst' h'
  obtain ⟨hname, hsize, rfl⟩ := ShaderModule.eq_of_signature_eq hst hst' hplain hplain' ho ho'
    hnumeric hnumeric'.isKnown hsignature hsignature'
  obtain ⟨own, size, laid, hown, -, hlaid, -⟩ := declaration_eq_ok_iff.1 h
  obtain ⟨own', size', laid', hown', -, hlaid', -⟩ := declaration_eq_ok_iff.1 h'
  have hsame := hnames _ _ st st' text own own' hst hst' hsignature hsignature' hown hown'
  have hagree : ∀ mem ∈ st.members, ∀ mem' ∈ st'.members, l.module.Alike l'.module mem mem' →
      l.NamesAgree l' mem mem' := by
    intro mem hmem mem' hmem' halike id id' hbase hbase'
    obtain ⟨inner, hget⟩ := exists_name_of_placeMembers hlaid mem hmem id hbase
    obtain ⟨inner', hget'⟩ := exists_name_of_placeMembers hlaid' mem' hmem' id' hbase'
    obtain ⟨c, c', t, hc, hc', -, ht, ht'⟩ := halike.exists_signature hbase hbase'
    rw [hget, hget', hnames _ _ c c' t inner inner' hc hc' ht ht' hget hget']
  have hdecl := declaration_of_alike hst hst' hname hsize ho ho' hnumeric
    (by rw [hown, hown', hsame]) hagree h
  exact Except.ok.inj (h'.symm.trans hdecl)

/-! ## Names with commas -/

/-- A module of a single struct, used as a uniform buffer, that keeps its name. -/
def alone (st : StructType) : Layout where
  module := { structs := [st], resources := { uniformBuffers := [{ ty := .struct st.id }] } }
  names := .ofList [(st.id, st.name)]

/-- The struct of such a module is found in it. -/
theorem alone_struct? (st : StructType) : (alone st).module.struct? st.id = some st := by
  simp [alone, ShaderModule.struct?]

/-- The only struct of the module is called by its name. -/
theorem eq_of_alone_get? {st : StructType} {id : Nat} {name : String}
    (h : (alone st).names.get? id = some name) : name = st.name := by
  change ((∅ : NameMap).insert st.id st.name).get? id = some name at h
  rw [Table.get?_insert, Table.get?_empty] at h
  split at h
  · exact (Option.some.inj h).symm
  · cases h

/-- If a struct has names without commas, so has the module that holds no other one. -/
theorem hasPlainNames_alone {st : StructType} (h : st.HasPlainNames) :
    (alone st).module.HasPlainNames st.id := by
  intro id st' _ hst'
  have hmem := ShaderModule.mem_of_struct?_eq_some hst'
  rw [List.mem_singleton.1 hmem]
  exact h

/-- Two numbers. -/
def twoNumbers (id : Nat) : StructType where
  id := id
  name := "S"
  size := 8
  members := [{ name := "a", ty := .float32, offset := 0 },
              { name := "b", ty := .float32, offset := 4 }]

/-- A single number whose name reads like the end of one member and the start of the next.

With a word to be filled in front of it, the number takes as many bytes as the two of
`twoNumbers`. -/
def oneNumber : StructType where
  id := 1
  name := "S"
  size := 8
  members := [{ name := "a,f32x1x1,0:b", ty := .float32, offset := 4 }]

/-- How both are written. -/
def sharedSignature : String := "S,000000008:a,f32x1x1,0:b,f32x1x1,4:"

/-- The declaration of the two numbers. -/
def twoNumbersDecl (id : Nat) : StructDecl where
  id := id
  name := "S"
  size := 8
  fields := [{ name := "a", type := .scalar .f32, offset := 0, size := 4 },
             { name := "b", type := .scalar .f32, offset := 4, size := 4 }]

/-- The declaration of the single number. -/
def oneNumberDecl : StructDecl where
  id := 1
  name := "S"
  size := 8
  fields := [{ name := "pad0_", type := .scalar .f32, offset := 0, size := 4, padding := true },
             { name := "a,f32x1x1,0:b", type := .scalar .f32, offset := 4, size := 4 }]

/-- The same two numbers in two modules, under different ids.

**Proof sketch.** Both signatures are computed and come to the same text, and both declarations are
computed. That they agree is the case of `declaration_eq_of_signature_eq` for the two structs. -/
theorem twoNumbersDecl_eq :
    ({ twoNumbersDecl 1 with id := 5 } : StructDecl) = twoNumbersDecl 5 ∧
    (alone (twoNumbers 1)).declaration (twoNumbers 1) = .ok (twoNumbersDecl 1) ∧
    (alone (twoNumbers 5)).declaration (twoNumbers 5) = .ok (twoNumbersDecl 5) := by
  have hplain (id : Nat) : (twoNumbers id).HasPlainNames := by
    refine ⟨(by decide : ',' ∉ "S".toList), fun mem hmem => ?_⟩
    simp only [twoNumbers, List.mem_cons, List.not_mem_nil, or_false] at hmem
    rcases hmem with rfl | rfl <;> decide
  have h : (alone (twoNumbers 1)).declaration (twoNumbers 1) = .ok (twoNumbersDecl 1) := by cbv
  have h' : (alone (twoNumbers 5)).declaration (twoNumbers 5) = .ok (twoNumbersDecl 5) := by cbv
  have hsignature : (alone (twoNumbers 1)).module.signature (twoNumbers 1) =
      .ok sharedSignature := by cbv
  have hsignature' : (alone (twoNumbers 5)).module.signature (twoNumbers 5) =
      .ok sharedSignature := by cbv
  refine ⟨?_, h, h'⟩
  refine (declaration_eq_of_signature_eq (alone_struct? _) (alone_struct? _) ?_
    (hasPlainNames_alone (hplain 1)) (hasPlainNames_alone (hplain 5)) hsignature hsignature'
    h h').symm
  intro id id' c c' text name name' _ _ _ _ hname hname'
  rw [eq_of_alone_get? hname, eq_of_alone_get? hname']
  rfl

/-- **Names with commas collide.** Two structs of the same name and signature are accepted, and the
only name in both modules is the same, but the declarations differ: in one of them the byte 4 is the
second number, in the other the only one, behind a filler. Naming leaves both to one declaration. -/
theorem exists_signature_collision :
    ∃ (l l' : Layout) (st st' : StructType) (decl decl' : StructDecl) (text : String),
      l.module.struct? st.id = some st ∧ l'.module.struct? st'.id = some st' ∧
      (∀ id id' name name', l.names.get? id = some name → l'.names.get? id' = some name' →
        name = name') ∧
      l.module.signature st = .ok text ∧ l'.module.signature st' = .ok text ∧
      l.declaration st = .ok decl ∧ l'.declaration st' = .ok decl' ∧
      decl.fields ≠ decl'.fields ∧
      (nameStructs [("vert", l.module), ("frag", l'.module)] []).toOption.map
          (·.map fun s => (s.emit, s.names.entries)) =
        some [([st.id], [(st.id, decl.name)]), ([], [(st'.id, decl.name)])] := by
  refine ⟨alone (twoNumbers 1), alone oneNumber, twoNumbers 1, oneNumber, twoNumbersDecl 1,
    oneNumberDecl, sharedSignature, alone_struct? _, alone_struct? _, ?_, by cbv, by cbv, by cbv,
    by cbv, by decide, by cbv⟩
  intro id id' name name' h h'
  rw [eq_of_alone_get? h, eq_of_alone_get? h']
  rfl

end Layout

end ShaderBindings
