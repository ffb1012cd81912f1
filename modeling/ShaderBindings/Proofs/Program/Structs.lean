import ShaderBindings.Program.Build
import ShaderBindings.Proofs.Host.Agreement
import ShaderBindings.Proofs.Host.Resolution
import ShaderBindings.Proofs.Struct.Naming
/-!
# The structs of a program

A struct is declared once for all modules that have one of its name and signature, by the module
that is met first. This module shows that the declaration serves the others as well: it is the one
they would have made themselves, it stands behind those it refers to, and it is laid out exactly.

## Main definitions

* `StructType.IsPlain` - a struct whose signature can be read back.
* `ShaderBindings.Staged` - the modules of a program with what they are called.
* `ShaderBindings.Assembled` - the declarations of a program with the structs they come from.

## Main results

* `ShaderBindings.exists_assembled` - the declarations of a program come from named structs.
* `Assembled.exists_declared` - every reachable struct has its declaration in the program.
* `Assembled.refersBack`, `Assembled.isExact_of_declaration` - references go back, and layouts are
  exact.
* `ShaderBindings.build_structs` - all of it for the program of any list of modules.

## Implementation notes

That references go back is shown between the structs that are declared, and not between any two
structs that are alike: the module of the one may list its structs in another order than that of the
other, but the first one of every signature is met before any struct that contains it.
-/

set_option autoImplicit false

namespace ShaderBindings

/-! ## Modules and their names -/

/-- Every stage gets a short name. -/
theorem length_shortNamesAfter (seen stages : List Stage) :
    (shortNamesAfter seen stages).length = stages.length := by
  induction stages generalizing seen with
  | nil => rfl
  | cons stage stages ih => rw [shortNamesAfter, List.length_cons, List.length_cons, ih]

/-- The module with its short name. -/
def StageModule.named (s : StageModule) : String × ShaderModule := (s.ident, s.module)

/-- The modules of a program are those given, with the stages of their entry points, a short name
for each, and the names given to their structs. -/
structure Staged (options : Options) (modules : List ShaderModule) (entries : List EntryPoint)
    (all : List StageModule) : Prop where
  modules : all.map (·.module) = modules
  stages : all.map (·.stage) = entries.map (·.stage)
  idents : all.map (·.ident) = shortNames (all.map (·.stage))
  structs : nameStructs (all.map StageModule.named)
    (reservedNames options (all.map StageModule.named)) = .ok (all.map (·.structs))

/-- What naming the modules of a program comes to.

**Proof sketch.** The modules, their entry points, their short names and their structs are lists of
one length, so that each can be read back from the rows they are put into. -/
theorem exists_staged {options : Options} {modules : List ShaderModule} {all : List StageModule}
    (h : stageModules options modules = .ok all) :
    ∃ entries, (modules.zipIdx.mapM fun (m, i) => m.pipelineEntry i) = .ok entries ∧
      Staged options modules entries all := by
  simp only [stageModules, Result.bind_eq_ok_iff] at h
  obtain ⟨entries, hentries, structs, hstructs, h⟩ := h
  cases h
  have hlength : entries.length = modules.length := by
    rw [Result.length_of_mapM hentries, List.length_zipIdx]
  have hidents : (shortNames (entries.map (·.stage))).length = modules.length := by
    rw [shortNames, length_shortNamesAfter, List.length_map, hlength]
  generalize hnamed : (shortNames (entries.map (·.stage))).zip modules = named at hstructs ⊢
  have hnames : named.length = modules.length := by
    rw [← hnamed, List.length_zip, hidents, Nat.min_self]
  have hzip : (entries.zip structs).length = modules.length := by
    rw [List.length_zip, (naming_of_nameStructs hstructs).length, hnames, hlength, Nat.min_self]
  have hshort : named.map (·.1) = shortNames (entries.map (·.stage)) := by
    rw [← hnamed]
    exact List.map_fst_zip (Nat.le_of_eq hidents)
  have hmodules : named.map (·.2) = modules := by
    rw [← hnamed]
    exact List.map_snd_zip (Nat.le_of_eq hidents.symm)
  generalize hrows : named.zip (entries.zip structs) = rows
  have hfst : rows.map (·.1) = named := by
    rw [← hrows]
    exact List.map_fst_zip (by omega)
  have hsnd : rows.map (·.2) = entries.zip structs := by
    rw [← hrows]
    exact List.map_snd_zip (by omega)
  have hentry : (rows.map (·.2)).map (·.1) = entries := by
    rw [hsnd]
    exact List.map_fst_zip (by rw [(naming_of_nameStructs hstructs).length]; omega)
  have hstruct : (rows.map (·.2)).map (·.2) = structs := by
    rw [hsnd]
    exact List.map_snd_zip (by rw [(naming_of_nameStructs hstructs).length]; omega)
  rw [← hfst, List.map_map] at hshort hmodules
  rw [List.map_map] at hentry hstruct
  have hstages : (rows.map fun row => row.2.1.stage) = entries.map (·.stage) := by
    rw [← hentry, List.map_map]
    rfl
  refine ⟨entries, hentries, ?_, ?_, ?_, ?_⟩
  · rw [List.map_map]
    exact hmodules
  · rw [List.map_map]
    exact hstages
  · rw [List.map_map, List.map_map]
    exact hshort.trans (congrArg shortNames hstages.symm)
  · rw [List.map_map, List.map_map]
    rw [← hfst, ← hstruct] at hstructs
    exact hstructs

/-! ## Plain structs -/

/-- A struct without commas in its names, the members of which have known types and, if they are
made of numbers, components. -/
structure StructType.IsPlain (st : StructType) : Prop where
  names : st.HasPlainNames
  known : ∀ mem ∈ st.members, ∀ name, mem.ty.base ≠ .foreign name
  sized : ∀ mem ∈ st.members, mem.IsSized

/-- All reachable structs of the module are plain. Structs that no buffer block leads to are never
laid out and may be anything. -/
def ShaderModule.IsPlain (m : ShaderModule) : Prop :=
  ∀ id st, m.IsReachable id → m.struct? id = some st → st.IsPlain

namespace ShaderModule

variable {m m' : ShaderModule} {st st' : StructType}

/-- Two structs of one name, size and outline, in which all types are numbers. Ids play no part in
this, so the structs can be those of different modules. -/
def SameOutline (m m' : ShaderModule) (st st' : StructType) : Prop :=
  st.name = st'.name ∧ st.size = st'.size ∧ ∃ o : Outline, o.IsNumeric ∧
    m.HasOutline [st.id] st.members o ∧ m'.HasOutline [st'.id] st'.members o

/-- In a module of plain structs, the names within a reachable one have no commas. -/
theorem IsPlain.hasPlainNames (h : m.IsPlain) {id : Nat} (hid : m.IsReachable id) :
    m.HasPlainNames id :=
  fun _ st hwithin hst => (h _ st (hid.within hwithin) hst).names

/-- In a module of plain structs, all types in the outline of a reachable struct are known.

**Proof sketch.** What is inside a reachable struct is reachable, so it is plain as well, and its
members have known types. -/
theorem IsPlain.isKnown (h : m.IsPlain) (hreachable : m.IsReachable st.id)
    (hst : m.struct? st.id = some st) {o : Outline} (ho : m.HasOutline [st.id] st.members o) :
    o.IsKnown := by
  have hmembers : ∀ id st', m.IsReachable id → m.struct? id = some st' → ∀ mem ∈ st'.members,
      (∀ name, mem.ty.base ≠ .foreign name) ∧
        ∀ child, mem.ty.base = .struct child → m.IsReachable child :=
    fun id st' hid hst' mem hmem => ⟨(h id st' hid hst').known mem hmem,
      fun child hbase => hid.within (Within.of_member hst' hmem hbase)⟩
  exact ho.isKnown hmembers (hmembers st.id st hreachable hst)

/-- An accepted struct has the outline of any struct of its signature.

**Proof sketch.** The accepted struct has an outline that ends in numbers
(`Layout.exists_hasOutline_of_declaration`), and the other one has some outline, as its module is
closed. Signatures can be read back (`eq_of_signature_eq`), so the two are equal. -/
theorem sameOutline_of_declaration {l : Layout} {decl : StructDecl} {text : String}
    (hplain : l.module.IsPlain) (hplain' : m'.IsPlain) (hclosed : m'.IsClosed)
    (hreachable : l.module.IsReachable st.id) (hreachable' : m'.IsReachable st'.id)
    (hst : l.module.struct? st.id = some st) (hst' : m'.struct? st'.id = some st')
    (h : l.module.signature st = .ok text) (h' : m'.signature st' = .ok text)
    (hdecl : l.declaration st = .ok decl) : l.module.SameOutline m' st st' := by
  obtain ⟨o, ho, hnumeric⟩ := Layout.exists_hasOutline_of_declaration hst hdecl
  obtain ⟨o', ho'⟩ : ∃ o', m'.HasOutline [st'.id] st'.members o' :=
    exists_hasOutline fun mem hmem child hbase id hid =>
      hclosed.2 id (hreachable'.within ((Within.of_member hst' hmem hbase).trans hid))
  obtain ⟨hname, hsize, rfl⟩ := eq_of_signature_eq hst hst' (hplain.hasPlainNames hreachable)
    (hplain'.hasPlainNames hreachable') ho ho' hnumeric (hplain'.isKnown hreachable' hst' ho') h h'
  exact ⟨hname, hsize, o, hnumeric, ho, ho'⟩

end ShaderModule

/-! ## Declarations and the structs they come from -/

/-- The declaration that the module of a struct makes of it. -/
def IsDeclOf (all : List StageModule) (o : Occurrence) (decl : StructDecl) : Prop :=
  ∃ s st, all[o.module]? = some s ∧ s.module.struct? o.id = some st ∧
    s.layout.declaration st = .ok decl

/-- The declarations of a program, in order, with the structs they come from.

A declaration belongs to the occurrence of a struct in a module, and it is the module of this
occurrence that lays it out. -/
structure Assembled (all : List StageModule) (reserved : List String) (os : List Occurrence)
    (decls : List StructDecl) : Prop where
  /-- The modules call their structs by the names given to these. -/
  naming : Naming (all.map StageModule.named) reserved (all.map (·.structs))
  /-- The structs that are declared are the first ones of their signatures. -/
  mem_iff : ∀ o, o ∈ os ↔ o.IsIn (all.map StageModule.named) ∧
    Declares (all.map (·.structs)) o.module o.id
  /-- They are declared in the order in which they are met. -/
  pairwise : os.Pairwise (Occurrence.Before (all.map StageModule.named))
  decls : List.Forall₂ (IsDeclOf all) os decls

/-- What a module declares, one struct after the other. -/
theorem declarations_eq_ok_iff {s : StageModule} {decls : List StructDecl} :
    s.declarations = .ok decls ↔ List.Forall₂ (fun id decl => ∃ st,
      s.module.struct? id = some st ∧ s.layout.declaration st = .ok decl) s.structs.emit decls := by
  simp only [StageModule.declarations, Result.mapM_eq_ok_iff, Result.bind_eq_ok_iff,
    ShaderModule.struct_eq_ok_iff]

/-- The declarations of the modules, put together, come from named structs.

**Proof sketch.** Naming gives, for each module, the structs that it declares
(`exists_declared_of_nameStructs`). The declarations of the module are made of just these, in the
same order, and the lists for all modules are put behind one another. -/
theorem exists_assembled {all : List StageModule} {reserved : List String}
    {structs : List (List StructDecl)}
    (hnames : nameStructs (all.map StageModule.named) reserved = .ok (all.map (·.structs)))
    (hstructs : all.mapM StageModule.declarations = .ok structs) :
    ∃ os, Assembled all reserved os structs.flatten := by
  obtain ⟨ds, hds⟩ := exists_declared_of_nameStructs hnames
  refine ⟨ds.flatten, naming_of_nameStructs hnames, hds.mem_iff, hds.pairwise, ?_⟩
  have hlength : ds.length = all.length := by
    have := congrArg List.length hds.emit
    simp only [List.length_map] at this
    exact this.symm
  refine List.rel_flatten (List.forall₂_iff_get.2 ⟨?_, fun i hi hi' => ?_⟩)
  · rw [hlength, Result.length_of_mapM hstructs]
  · have hos : ds[i]? = some (ds.get ⟨i, hi⟩) := List.getElem?_eq_getElem hi
    have hdecls : structs[i]? = some (structs.get ⟨i, hi'⟩) := List.getElem?_eq_getElem hi'
    generalize ds.get ⟨i, hi⟩ = os at hos ⊢
    generalize structs.get ⟨i, hi'⟩ = decls at hdecls ⊢
    obtain ⟨s, hs⟩ : ∃ s, all[i]? = some s := ⟨_, List.getElem?_eq_getElem (hlength ▸ hi)⟩
    have hemit : s.structs.emit = os.map (·.id) := by
      have := congrArg (fun l : List (List Nat) => l[i]?) hds.emit
      simp only [List.getElem?_map, hs, hos, Option.map_some, Option.some.injEq] at this
      exact this
    have hown := declarations_eq_ok_iff.1 (Result.eq_ok_of_mapM hstructs hs hdecls)
    rw [hemit, List.forall₂_map_left_iff] at hown
    refine ((List.forall₂_and_left _ _).2 ⟨hds.module i os hos, hown⟩).imp ?_
    rintro o decl ⟨rfl, st, hst, hdecl⟩
    exact ⟨s, st, hs, hst, hdecl⟩

/-- A reachable struct of one of the modules of a program.

It is looked up with what is known of the module as a whole, where naming only uses its short name
and the module itself. -/
theorem Occurrence.isIn_map_named {all : List StageModule} {o : Occurrence} :
    o.IsIn (all.map StageModule.named) ↔ ∃ s st, all[o.module]? = some s ∧
      s.module.IsReachable o.id ∧ s.module.struct? o.id = some st ∧ o.name = st.name ∧
        s.module.signature st = .ok o.signature := by
  simp only [Occurrence.IsIn, List.getElem?_map, Option.map_eq_some_iff]
  constructor
  · rintro ⟨_, st, ⟨s, hs, rfl⟩, h⟩
    exact ⟨s, st, hs, h⟩
  · rintro ⟨s, st, hs, h⟩
    exact ⟨s.named, st, ⟨s, hs, rfl⟩, h⟩

/-- What is known of a struct once it is looked up in its module. -/
theorem Occurrence.IsIn.of_struct? {all : List StageModule} {o : Occurrence}
    (ho : o.IsIn (all.map StageModule.named)) {s : StageModule} {st : StructType}
    (hs : all[o.module]? = some s) (hst : s.module.struct? o.id = some st) :
    st.id = o.id ∧ s.module.IsReachable st.id ∧ s.module.struct? st.id = some st ∧
      s.module.signature st = .ok o.signature := by
  obtain ⟨_, _, hs', hreachable, hst', -, htext⟩ := Occurrence.isIn_map_named.1 ho
  cases hs.symm.trans hs'
  cases hst.symm.trans hst'
  have hid := ShaderModule.id_of_struct?_eq_some hst
  exact ⟨hid, hid ▸ hreachable, hid ▸ hst, htext⟩

/-- The final name of a struct is that in the names of its module. -/
theorem finalName_map_structs {all : List StageModule} {i id : Nat} {s : StageModule}
    (hs : all[i]? = some s) : finalName (all.map (·.structs)) i id = s.structs.names.get? id := by
  rw [finalName, List.getElem?_map, hs]
  rfl

/-- A declaration carries the final name of its struct. -/
theorem IsDeclOf.finalName_eq {all : List StageModule} {o : Occurrence} {decl : StructDecl}
    (h : IsDeclOf all o decl) :
    finalName (all.map (·.structs)) o.module o.id = some decl.name := by
  obtain ⟨s, st, hs, hst, hdecl⟩ := h
  obtain ⟨name, size, laid, hname, -, -, -, -, rfl⟩ := Layout.declaration_eq_ok_iff.1 hdecl
  rw [finalName_map_structs hs, ← ShaderModule.id_of_struct?_eq_some hst]
  exact hname

namespace Assembled

variable {all : List StageModule} {reserved : List String} {os : List Occurrence}
  {decls : List StructDecl}

/-- No two declarations have one name.

**Proof sketch.** Structs of one final name have one signature, and only the first of these is
declared. -/
theorem nodup_names (ha : Assembled all reserved os decls) : (decls.map (·.name)).Nodup := by
  have hnames : os.map (fun o => finalName (all.map (·.structs)) o.module o.id) =
      (decls.map (·.name)).map some := by
    rw [← List.forall₂_eq_eq_eq, List.map_map, List.forall₂_map_left_iff,
      List.forall₂_map_right_iff]
    exact ha.decls.imp fun _ _ h => h.finalName_eq
  have hpairwise : (os.map fun o => finalName (all.map (·.structs)) o.module o.id).Nodup := by
    refine List.pairwise_map.2 (ha.pairwise.imp_of_mem fun {o o'} ho ho' hbefore heq => ?_)
    obtain ⟨hin, hdeclares⟩ := (ha.mem_iff o).1 ho
    obtain ⟨hin', hdeclares'⟩ := (ha.mem_iff o').1 ho'
    have halike := (ha.naming.same_iff o o' hin hin').1 heq
    obtain ⟨f, -, -, hfirst⟩ := ha.naming.first o hin
    have hf : o = f := (hfirst o hin ⟨rfl, rfl⟩).1.1 hdeclares
    have hf' : o' = f := (hfirst o' hin' ⟨halike.1.symm, halike.2.symm⟩).1.1 hdeclares'
    rw [hf, hf'] at hbefore
    exact f.not_before_self hbefore
  rw [hnames] at hpairwise
  exact hpairwise.of_map some

/-- There is only one declaration of a name. -/
theorem filter_name_eq (ha : Assembled all reserved os decls) {decl : StructDecl}
    (hdecl : decl ∈ decls) : decls.filter (·.name == decl.name) = [decl] :=
  filter_eq_singleton ha.nodup_names hdecl

/-- No declaration has a reserved name. -/
theorem name_notMem (ha : Assembled all reserved os decls) {decl : StructDecl}
    (hdecl : decl ∈ decls) : decl.name ∉ reserved := by
  obtain ⟨o, -, hof⟩ := Result.forall₂_mem_right ha.decls hdecl
  exact ha.naming.notMem _ _ _ hof.finalName_eq

/-- Every reachable struct occurs. -/
theorem exists_isIn (ha : Assembled all reserved os decls) {i id : Nat} {s : StageModule}
    (hs : all[i]? = some s) (hid : s.module.IsReachable id) :
    ∃ o : Occurrence, o.IsIn (all.map StageModule.named) ∧ o.module = i ∧ o.id = id := by
  have hnamed : (all.map StageModule.named)[i]? = some s.named := by
    rw [List.getElem?_map, hs]
    rfl
  exact ha.naming.occurs i s.named hnamed id hid

/-- Every module has been walked.

**Proof sketch.** Naming says of each place which structs were emitted there, in the order of the
walk. -/
theorem exists_order (ha : Assembled all reserved os decls) {i : Nat} {s : StageModule}
    (hs : all[i]? = some s) : ∃ order, s.module.reachable = .ok order := by
  have hnamed : (all.map StageModule.named)[i]? = some s.named := by
    rw [List.getElem?_map, hs]
    rfl
  have hstructs : (all.map (·.structs))[i]? = some s.structs := by
    rw [List.getElem?_map, hs]
    rfl
  obtain ⟨order, horder, -⟩ := ha.naming.emit i s.named s.structs hnamed hstructs
  exact ⟨order, horder⟩

/-- Structs of one name and one signature are called the same in their modules.

**Proof sketch.** Both structs occur, under one name and one signature, and that is when naming
gives them the same final name. -/
theorem get?_names_eq (ha : Assembled all reserved os decls) {i i' : Nat} {s s' : StageModule}
    (hs : all[i]? = some s) (hs' : all[i']? = some s') {st st' : StructType}
    (hreachable : s.module.IsReachable st.id) (hreachable' : s'.module.IsReachable st'.id)
    (hst : s.module.struct? st.id = some st) (hst' : s'.module.struct? st'.id = some st')
    (hname : st.name = st'.name) {text : String} (htext : s.module.signature st = .ok text)
    (htext' : s'.module.signature st' = .ok text) :
    s.structs.names.get? st.id = s'.structs.names.get? st'.id := by
  have hin : Occurrence.IsIn (all.map StageModule.named)
      { module := i, id := st.id, name := st.name, signature := text } :=
    Occurrence.isIn_map_named.2 ⟨s, st, hs, hreachable, hst, rfl, htext⟩
  have hin' : Occurrence.IsIn (all.map StageModule.named)
      { module := i', id := st'.id, name := st.name, signature := text } :=
    Occurrence.isIn_map_named.2 ⟨s', st', hs', hreachable', hst', hname, htext'⟩
  rw [← finalName_map_structs hs, ← finalName_map_structs hs']
  exact (ha.naming.same_iff _ _ hin hin').2 ⟨rfl, rfl⟩

/-- The structs that are declared are reachable. -/
theorem isIn_of_getElem? (ha : Assembled all reserved os decls) {k : Nat} {o : Occurrence}
    (ho : os[k]? = some o) : o.IsIn (all.map StageModule.named) :=
  ((ha.mem_iff o).1 (List.mem_of_getElem? ho)).1

/-- Every declaration is that of a declared struct. -/
theorem exists_source (ha : Assembled all reserved os decls) {k : Nat} {decl : StructDecl}
    (hdecl : decls[k]? = some decl) :
    ∃ o s st, os[k]? = some o ∧ all[o.module]? = some s ∧ s.module.struct? o.id = some st ∧
      s.layout.declaration st = .ok decl := by
  obtain ⟨o, ho, s, st, hs, hst, hown⟩ := Result.forall₂_getElem?_right ha.decls hdecl
  exact ⟨o, s, st, ho, hs, hst, hown⟩

/-! ### One declaration for alike structs -/

/-- Members that are alike refer to structs of the same name.

**Proof sketch.** Members that are alike refer to structs of one name and one signature
(`Alike.exists_signature`). These are reachable, so `get?_names_eq` applies to them. -/
theorem namesAgree (ha : Assembled all reserved os decls) {i i' : Nat} {s s' : StageModule}
    (hs : all[i]? = some s) (hs' : all[i']? = some s') {st st' : StructType}
    (hreachable : s.module.IsReachable st.id) (hreachable' : s'.module.IsReachable st'.id)
    (hst : s.module.struct? st.id = some st) (hst' : s'.module.struct? st'.id = some st')
    {mem mem' : Member} (hmem : mem ∈ st.members) (hmem' : mem' ∈ st'.members)
    (halike : s.module.Alike s'.module mem mem') : s.layout.NamesAgree s'.layout mem mem' := by
  intro id id' hbase hbase'
  have hchild := hreachable.within (ShaderModule.Within.of_member hst hmem hbase)
  have hchild' := hreachable'.within (ShaderModule.Within.of_member hst' hmem' hbase')
  obtain ⟨c, c', text, hc, hc', hname, htext, htext'⟩ := halike.exists_signature hbase hbase'
  obtain rfl := ShaderModule.id_of_struct?_eq_some hc
  obtain rfl := ShaderModule.id_of_struct?_eq_some hc'
  exact ha.get?_names_eq hs hs' hchild hchild' hc hc' hname htext htext'

variable (hplain : ∀ s ∈ all, s.module.IsPlain)

include hplain

/-- A declared struct has the outline of every struct of its name and signature.

**Proof sketch.** The modules are plain and closed (`exists_order`), so this is
`ShaderModule.sameOutline_of_declaration` for the one signature. -/
theorem sameOutline (ha : Assembled all reserved os decls) {f o : Occurrence}
    (hf : f.IsIn (all.map StageModule.named)) (ho : o.IsIn (all.map StageModule.named))
    (halike : f.Alike o) {s s' : StageModule} {st st' : StructType} {decl : StructDecl}
    (hs : all[f.module]? = some s) (hst : s.module.struct? f.id = some st)
    (hs' : all[o.module]? = some s') (hst' : s'.module.struct? o.id = some st')
    (hdecl : s.layout.declaration st = .ok decl) : s.module.SameOutline s'.module st st' := by
  obtain ⟨-, hreachable, hstf, htext⟩ := hf.of_struct? hs hst
  obtain ⟨-, hreachable', hsto, htext'⟩ := ho.of_struct? hs' hst'
  rw [halike.2] at htext
  have hclosed := ShaderModule.exists_reachable_iff.1 (ha.exists_order hs')
  exact ShaderModule.sameOutline_of_declaration (hplain s (List.mem_of_getElem? hs))
    (hplain s' (List.mem_of_getElem? hs')) hclosed hreachable hreachable' hstf hsto htext htext'
    hdecl

/-- A declaration serves every struct of its name and signature.

**Proof sketch.** The two structs have one outline (`sameOutline`), one final name
(`get?_names_eq`), and their members refer to structs of the same names (`namesAgree`). By
`Layout.declaration_of_alike` the other module makes the same declaration. -/
theorem isDeclOf_of_alike (ha : Assembled all reserved os decls) {f o : Occurrence}
    (hf : f.IsIn (all.map StageModule.named)) (ho : o.IsIn (all.map StageModule.named))
    (halike : f.Alike o) {decl : StructDecl} (h : IsDeclOf all f decl) :
    IsDeclOf all o { decl with id := o.id } := by
  obtain ⟨s, st, hs, hst, hdecl⟩ := h
  obtain ⟨s', st', hs', -, hst', -⟩ := Occurrence.isIn_map_named.1 ho
  obtain ⟨hname, hsize, u, hnumeric, hu, hu'⟩ :=
    ha.sameOutline hplain hf ho halike hs hst hs' hst' hdecl
  obtain ⟨-, hreachable, hstf, htext⟩ := hf.of_struct? hs hst
  obtain ⟨hid, hreachable', hsto, htext'⟩ := ho.of_struct? hs' hst'
  rw [halike.2] at htext
  have hown : s.layout.names.get? st.id = s'.layout.names.get? st'.id :=
    ha.get?_names_eq hs hs' hreachable hreachable' hstf hsto hname htext htext'
  have hserves := Layout.declaration_of_alike hstf hsto hname hsize hu hu' hnumeric hown
    (fun _ hmem _ hmem' => ha.namesAgree hs hs' hreachable hreachable' hstf hsto hmem hmem') hdecl
  exact ⟨s', st', hs', hst', hid ▸ hserves⟩

/-- In its own module, a struct is called, sized and aligned as a declaration that serves it.

**Proof sketch.** The struct has the declaration of its own that `isDeclOf_of_alike` gives, so its
name and its size are read off that. Alignment only depends on the outline
(`Layout.structAlign_of_hasOutline`). -/
theorem layout_of_alike (ha : Assembled all reserved os decls) {f o : Occurrence}
    (hf : f.IsIn (all.map StageModule.named)) (ho : o.IsIn (all.map StageModule.named))
    (halike : f.Alike o) {s s' : StageModule} {st : StructType} {decl : StructDecl}
    (hs : all[f.module]? = some s) (hst : s.module.struct? f.id = some st)
    (hdecl : s.layout.declaration st = .ok decl) (hs' : all[o.module]? = some s') :
    s'.layout.names.get? o.id = some decl.name ∧ s'.layout.structSize o.id = .ok decl.size ∧
      ∀ a, s.layout.structAlign f.id = .ok a → s'.layout.structAlign o.id = .ok a := by
  obtain ⟨_, st', hs₁, hst', hdecl'⟩ :=
    ha.isDeclOf_of_alike hplain hf ho halike ⟨s, st, hs, hst, hdecl⟩
  cases hs'.symm.trans hs₁
  obtain ⟨-, -, u, -, hu, hu'⟩ := ha.sameOutline hplain hf ho halike hs hst hs' hst' hdecl
  rw [ShaderModule.id_of_struct?_eq_some hst] at hu
  rw [ShaderModule.id_of_struct?_eq_some hst'] at hu'
  obtain ⟨name, size, _, hname, hsize, -, -, -, heq⟩ := Layout.declaration_eq_ok_iff.1 hdecl'
  rw [ShaderModule.id_of_struct?_eq_some hst'] at hname hsize
  have hdname : decl.name = name := congrArg StructDecl.name heq
  have hdsize : decl.size = size := congrArg StructDecl.size heq
  exact ⟨hdname ▸ hname, hdsize ▸ hsize,
    fun a => Layout.structAlign_of_hasOutline (l := s.layout) hst hst' hu hu'⟩

/-- **Every reachable struct has its declaration.** The first struct of its name and signature is
declared, and the declaration is that of the struct itself apart from the id.

**Proof sketch.** Naming gives the first struct of the name and the signature, and that one is
declared. Its declaration serves the others (`isDeclOf_of_alike`). -/
theorem exists_declared (ha : Assembled all reserved os decls) {o : Occurrence}
    (ho : o.IsIn (all.map StageModule.named)) :
    ∃ (k : Nat) (f : Occurrence) (decl : StructDecl), os[k]? = some f ∧ decls[k]? = some decl ∧
      f.IsIn (all.map StageModule.named) ∧ f.Alike o ∧
        (o = f ∨ f.Before (all.map StageModule.named) o) ∧
          IsDeclOf all o { decl with id := o.id } := by
  obtain ⟨f, hf, halike, hfirst⟩ := ha.naming.first o ho
  have hdeclares := (hfirst f hf halike).1.2 rfl
  obtain ⟨k, hk⟩ := List.mem_iff_getElem?.1 ((ha.mem_iff f).2 ⟨hf, hdeclares⟩)
  obtain ⟨decl, hdecl, hof⟩ := Result.forall₂_getElem? ha.decls hk
  exact ⟨k, f, decl, hk, hdecl, hf, halike, (hfirst o ho ⟨rfl, rfl⟩).2,
    ha.isDeclOf_of_alike hplain hf ho halike hof⟩

/-! ### The order of declarations -/

/-- The structs of the members of a declared struct are declared in front of it.

**Proof sketch.** In the walk of its module a struct is met after those it contains, unless one of
them contains it in turn. Accepted structs do not contain themselves, so the first struct of the
signature of the contained one is met even earlier, and declarations stand in the order met. -/
theorem exists_earlier (ha : Assembled all reserved os decls) {k : Nat} {o : Occurrence}
    {decl : StructDecl} {s : StageModule} {st : StructType} (ho : os[k]? = some o)
    (hs : all[o.module]? = some s) (hst : s.module.struct? o.id = some st)
    (hdecl : s.layout.declaration st = .ok decl) {child : Nat} (hchild : child ∈ st.children) :
    ∃ (j : Nat) (f c : Occurrence), j < k ∧ os[j]? = some f ∧
      f.IsIn (all.map StageModule.named) ∧ c.IsIn (all.map StageModule.named) ∧ f.Alike c ∧
        c.module = o.module ∧ c.id = child := by
  obtain ⟨hid, hreachable, hown, -⟩ := (ha.isIn_of_getElem? ho).of_struct? hs hst
  have hinside := hreachable.within (ShaderModule.Within.refl.child hown hchild)
  obtain ⟨c, hc, hmodule, rfl⟩ := ha.exists_isIn hs hinside
  -- the walk meets the child first
  obtain ⟨order, horder⟩ := ha.exists_order hs
  have hmem := (ShaderModule.mem_of_reachable horder o.id).2 (hid ▸ hreachable)
  have hsub : [c.id, o.id].Sublist order := by
    rcases ShaderModule.child_of_reachable horder hmem hst hchild with hsub | hcycle
    · exact hsub
    · obtain ⟨mem, hmember, hbase⟩ := StructType.mem_children_iff.1 hchild
      obtain ⟨u, hu, hnumeric⟩ := Layout.exists_hasOutline_of_declaration hown hdecl
      exact absurd (List.mem_singleton.2 hid.symm)
        (hu.notMem_of_within hnumeric hmember hbase hcycle)
  have hbefore : c.Before (all.map StageModule.named) o := by
    refine .inr ⟨hmodule, s.named, order, ?_, horder, hsub⟩
    rw [hmodule, List.getElem?_map, hs]
    rfl
  -- so does it the first struct of the signature of the child
  obtain ⟨j, f, -, hj, -, hf, halike, hfirst, -⟩ := ha.exists_declared hplain hc
  have hfront : f.Before (all.map StageModule.named) o := by
    rcases hfirst with rfl | hfirst
    · exact hbefore
    · exact hfirst.trans hbefore
  refine ⟨j, f, c, ?_, hj, hf, hc, halike, hmodule, rfl⟩
  by_contra hlt
  rcases Nat.eq_or_lt_of_le (Nat.le_of_not_lt hlt) with rfl | hlt
  · cases ho.symm.trans hj
    exact o.not_before_self hfront
  · obtain ⟨hkl, rfl⟩ := List.getElem?_eq_some_iff.1 ho
    obtain ⟨hjl, rfl⟩ := List.getElem?_eq_some_iff.1 hj
    have hback := List.pairwise_iff_getElem.1 ha.pairwise k j hkl hjl hlt
    exact Occurrence.not_before_self _ (hback.trans hfront)

/-- The struct of a member is called, sized and aligned as an earlier declaration.

**Proof sketch.** An earlier struct that is alike has been declared (`exists_earlier`), and
`layout_of_alike` says what its declaration is for the struct of the member. -/
theorem exists_earlier_decl (ha : Assembled all reserved os decls) {k : Nat} {o : Occurrence}
    {decl : StructDecl} {s : StageModule} {st : StructType} (ho : os[k]? = some o)
    (hs : all[o.module]? = some s) (hst : s.module.struct? o.id = some st)
    (hdecl : s.layout.declaration st = .ok decl) {child : Nat} (hchild : child ∈ st.children) :
    ∃ (j : Nat) (f : Occurrence) (d : StructDecl) (s' : StageModule) (st' : StructType), j < k ∧
      decls[j]? = some d ∧ os[j]? = some f ∧ all[f.module]? = some s' ∧
      s'.module.struct? f.id = some st' ∧ s'.layout.declaration st' = .ok d ∧
      s.layout.names.get? child = some d.name ∧ s.layout.structSize child = .ok d.size ∧
        ∀ a, s'.layout.structAlign f.id = .ok a → s.layout.structAlign child = .ok a := by
  obtain ⟨j, f, c, hlt, hj, hf, hc, halike, hmodule, rfl⟩ :=
    ha.exists_earlier hplain ho hs hst hdecl hchild
  obtain ⟨d, hd, s', st', hs', hst', hdecl'⟩ := Result.forall₂_getElem? ha.decls hj
  exact ⟨j, f, d, s', st', hlt, hd, hj, hs', hst', hdecl',
    ha.layout_of_alike hplain hf hc halike hs' hst' hdecl' (hmodule ▸ hs)⟩

/-- No declaration uses a name before it is declared.

**Proof sketch.** A name in a declaration is that of a struct contained in a member
(`Layout.names_of_declaration`), and that one has an earlier declaration (`exists_earlier_decl`). -/
theorem refersBack (ha : Assembled all reserved os decls) : RefersBack decls := by
  intro k decl hk name hname
  obtain ⟨o, s, st, ho, hs, hst, hdecl⟩ := ha.exists_source hk
  obtain ⟨-, hreachable, hown, -⟩ := (ha.isIn_of_getElem? ho).of_struct? hs hst
  have hsized := (hplain s (List.mem_of_getElem? hs) st.id st hreachable hown).sized
  obtain ⟨child, hchild, hget⟩ := s.layout.names_of_declaration hown hsized hdecl hname
  obtain ⟨j, -, d, -, -, hlt, hd, -, -, -, -, hget', -⟩ :=
    ha.exists_earlier_decl hplain ho hs hst hdecl hchild
  exact ⟨j, hlt, d, hd, Option.some.inj (hget'.symm.trans hget)⟩

/-! ### Exact layouts -/

/-- Placed by the rules of C, with all names resolved, the fields of a declaration are where it says
and need no more than the alignment of the struct.

**Proof sketch.** By induction on the place of the declaration. The names in it are those of earlier
ones, which are exact, so they stand for footprints of the size and the alignment that the layout
expects of the structs of the members. -/
theorem isExact_of_declaration (ha : Assembled all reserved os decls) {k : Nat} {o : Occurrence}
    {decl : StructDecl} {s : StageModule} {st : StructType} (ho : os[k]? = some o)
    (hs : all[o.module]? = some s) (hst : s.module.struct? o.id = some st)
    (hdecl : s.layout.declaration st = .ok decl) :
    ∃ prints align, decl.fields.mapM (fun (f : Field) => f.type.footprint? (resolve decls)) =
      some prints ∧ decl.IsExact prints ∧ s.layout.structAlign o.id = .ok align ∧
        Footprint.alignment prints ∣ align := by
  induction k using Nat.strongRecOn generalizing o decl s st with
  | ind k ih =>
    have hknows : ∀ mem ∈ st.members, s.layout.Knows (resolve decls) mem := by
      intro mem hmem child name size align hbase hname hsize halign
      have hchild := StructType.mem_children_iff.2 ⟨mem, hmem, hbase⟩
      obtain ⟨j, f, d, s', st', hlt, hd, hf, hs', hst', hdecl', hname', hsize', hsame⟩ :=
        ha.exists_earlier_decl hplain ho hs hst hdecl hchild
      obtain ⟨prints, a, hprints, hexact, ha', hdvd⟩ := ih j hlt hf hs' hst' hdecl'
      cases hname.symm.trans hname'
      cases hsize.symm.trans hsize'
      cases halign.symm.trans (hsame a ha')
      refine ⟨Footprint.struct prints, ?_, hexact.size, Footprint.alignment_pos prints, hdvd⟩
      rw [resolve_name ha.nodup_names (ha.refersBack hplain) (List.mem_of_getElem? hd),
        StructDecl.footprint?, hprints]
      rfl
    obtain ⟨hid, hreachable, hown, -⟩ := (ha.isIn_of_getElem? ho).of_struct? hs hst
    have hsized := (hplain s (List.mem_of_getElem? hs) st.id st hreachable hown).sized
    obtain ⟨align, halign, -, hword, hdvd, hplaced⟩ :=
      s.layout.declaration_placed hown hdecl hknows hsized
    obtain ⟨prints, hprints, hexact, hbound⟩ := hplaced.isExact hword hdvd
    rw [hplaced.fieldFootprints?_eq] at hprints
    exact ⟨prints, align, hprints, hexact, hid ▸ halign, Footprint.alignment_dvd hbound⟩

end Assembled

/-! ## Programs -/

/-- What building a program comes to, as far as its structs go.

The other steps, for vertex input, descriptor sets and ranges, have nothing to do with them. -/
theorem exists_structs_of_build {options : Options} {modules : List ShaderModule}
    {program : Program} (h : build options modules = .ok program) :
    ∃ all structs, stageModules options modules = .ok all ∧
      all.mapM StageModule.declarations = .ok structs ∧ program.structs = structs.flatten := by
  simp only [build, Result.bind_eq_ok_iff] at h
  obtain ⟨all, hall, structs, hstructs, vertex, -, sets, -, ranges, -, stages, -, h⟩ := h
  cases h
  exact ⟨all, structs, hall, hstructs, rfl⟩

/-- **The structs of a program.** For every struct that is reachable in one of its modules, a
program has exactly one declaration of its final name, and that is the one the module would have
made of it, apart from the id. Every name in a declaration is that of an earlier one. With these
names resolved, the rules of C place all fields where the declarations say, and give the structs
their sizes.

**Proof sketch.** The declarations are put together from those of the modules (`exists_assembled`).
For a reachable struct, `Assembled.exists_declared` finds the declaration, and there is no other of
its name (`filter_name_eq`). The other two parts are `Assembled.refersBack` and
`Assembled.isExact_of_declaration`. -/
theorem build_structs {options : Options} {modules : List ShaderModule} {program : Program}
    (hplain : ∀ m ∈ modules, m.IsPlain) (h : build options modules = .ok program) :
    ∃ all, stageModules options modules = .ok all ∧ all.map (·.module) = modules ∧
      (∀ s ∈ all, ∀ id, s.module.IsReachable id → ∃ st name decl,
        s.module.struct? id = some st ∧ s.structs.names.get? id = some name ∧
          program.structs.filter (·.name == name) = [decl] ∧
            s.layout.declaration st = .ok { decl with id }) ∧
      RefersBack program.structs ∧
      ∀ decl ∈ program.structs, ∃ prints,
        decl.fields.mapM (fun (f : Field) => f.type.footprint? (resolve program.structs)) =
          some prints ∧ decl.IsExact prints := by
  obtain ⟨all, structs, hall, hstructs, heq⟩ := exists_structs_of_build h
  obtain ⟨_, -, hstaged⟩ := exists_staged hall
  have hmodules := hstaged.modules
  obtain ⟨os, ha⟩ := exists_assembled hstaged.structs hstructs
  rw [← heq] at ha
  have hplain' : ∀ s ∈ all, s.module.IsPlain :=
    fun s hs => hplain s.module (hmodules ▸ List.mem_map_of_mem hs)
  refine ⟨all, hall, hmodules, ?_, ha.refersBack hplain', ?_⟩
  · intro s hs id hid
    obtain ⟨i, hi⟩ := List.mem_iff_getElem?.1 hs
    obtain ⟨o, ho, rfl, rfl⟩ := ha.exists_isIn hi hid
    obtain ⟨k, f, decl, -, hdecl, -, -, -, hof⟩ := ha.exists_declared hplain' ho
    have hfinal := hof.finalName_eq
    obtain ⟨s', st, hs', hst, hown⟩ := hof
    cases hi.symm.trans hs'
    rw [finalName_map_structs hi] at hfinal
    exact ⟨st, decl.name, decl, hst, hfinal, ha.filter_name_eq (List.mem_of_getElem? hdecl), hown⟩
  · intro decl hdecl
    obtain ⟨k, hk⟩ := List.mem_iff_getElem?.1 hdecl
    obtain ⟨o, s, st, ho, hs, hst, hown⟩ := ha.exists_source hk
    obtain ⟨prints, -, hprints, hexact, -⟩ := ha.isExact_of_declaration hplain' ho hs hst hown
    exact ⟨prints, hprints, hexact⟩

/-- The struct that both stages of `litStages` have. -/
def lightStruct (id : Nat) : StructType where
  id := id
  name := "Light"
  size := 16
  members := [{ name := "color", ty := ShaderType.float32.vector 3, offset := 0 }]

/-- The block that both stages have, around the struct with the given id. -/
def sceneBlock (id light : Nat) : StructType where
  id := id
  name := "Scene"
  size := 80
  members :=
    [{ name := "view", ty := ShaderType.float32.matrix 4 4, offset := 0, matrixStride := some 16 },
     { name := "sun", ty := .struct light, offset := 64 }]

/-- The block of the fragment stage alone. -/
def lampBlock (id light : Nat) : StructType where
  id := id
  name := "Lamp"
  size := 24
  members :=
    [{ name := "light", ty := .struct light, offset := 0 },
     { name := "reach", ty := .float32, offset := 20 }]

/-- Two stages that share a block under different ids. The fragment stage has a block of its own,
which contains the struct that is inside the shared block as well. -/
def litStages : List ShaderModule :=
  [{ entry := some { name := "main", model := "Vertex", stage := some .vertex }
     structs := [sceneBlock 1 2, lightStruct 2]
     resources := { uniformBuffers := [{ ty := .struct 1 }] } },
   { entry := some { name := "main", model := "Fragment", stage := some .fragment }
     structs := [lightStruct 7, sceneBlock 8 7, lampBlock 9 7]
     resources := { uniformBuffers := [{ ty := .struct 8 }, { ty := .struct 9, binding := 1 }] } }]

/-- The declarations for both stages, each made once. -/
def litDecls : List StructDecl :=
  [{ id := 2, name := "Light", size := 16, fields :=
       [{ name := "color", type := .array (.scalar .f32) 3, offset := 0, size := 12 },
        { name := "pad0_", type := .scalar .f32, offset := 12, size := 4, padding := true }] },
   { id := 1, name := "Scene", size := 80, fields :=
       [{ name := "view", type := .array (.array (.scalar .f32) 4) 4, offset := 0, size := 64 },
        { name := "sun", type := .named "Light", offset := 64, size := 16 }] },
   { id := 9, name := "Lamp", size := 24, fields :=
       [{ name := "light", type := .named "Light", offset := 0, size := 16 },
        { name := "pad0_", type := .scalar .f32, offset := 16, size := 4, padding := true },
        { name := "reach", type := .scalar .f32, offset := 20, size := 4 }] }]

/-- This struct is plain. -/
theorem isPlain_lightStruct (id : Nat) : (lightStruct id).IsPlain where
  names := ⟨by simp [lightStruct], by simp [lightStruct]⟩
  known := by simp [lightStruct, ShaderType.float32, ShaderType.vector]
  sized := by simp [lightStruct, ShaderType.float32, ShaderType.vector, Member.IsSized]

/-- This block is plain, with a matrix of known columns and a struct in it. -/
theorem isPlain_sceneBlock (id light : Nat) : (sceneBlock id light).IsPlain where
  names := ⟨by simp [sceneBlock], by simp [sceneBlock]⟩
  known := by simp [sceneBlock, ShaderType.float32, ShaderType.matrix, ShaderType.struct]
  sized := by
    simp [sceneBlock, ShaderType.float32, ShaderType.matrix, ShaderType.struct, Member.IsSized]

/-- This block is plain as well. -/
theorem isPlain_lampBlock (id light : Nat) : (lampBlock id light).IsPlain where
  names := ⟨by simp [lampBlock], by simp [lampBlock]⟩
  known := by simp [lampBlock, ShaderType.float32, ShaderType.struct]
  sized := by simp [lampBlock, ShaderType.float32, ShaderType.struct, Member.IsSized]

/-- The declarations of the two stages serve both.

Light and Scene are declared once, although each stage has them under ids of its own. -/
theorem litDecls_structs :
    (∀ m ∈ litStages, m.IsPlain) ∧ ∃ program, build {} litStages = .ok program ∧
      program.structs = litDecls ∧ RefersBack litDecls ∧ ∀ decl ∈ litDecls, ∃ prints,
        decl.fields.mapM (fun (f : Field) => f.type.footprint? (resolve litDecls)) = some prints ∧
          decl.IsExact prints := by
  have hplain : ∀ m ∈ litStages, m.IsPlain := by
    intro m hm id st _ hst
    have hmem := ShaderModule.mem_of_struct?_eq_some hst
    simp only [litStages, List.mem_cons, List.not_mem_nil, or_false] at hm
    rcases hm with rfl | rfl
    · simp only [List.mem_cons, List.not_mem_nil, or_false] at hmem
      rcases hmem with rfl | rfl
      · exact isPlain_sceneBlock 1 2
      · exact isPlain_lightStruct 2
    · simp only [List.mem_cons, List.not_mem_nil, or_false] at hmem
      rcases hmem with rfl | rfl | rfl
      · exact isPlain_lightStruct 7
      · exact isPlain_sceneBlock 8 7
      · exact isPlain_lampBlock 9 7
  have hbuild : (build {} litStages).map (·.structs) = .ok litDecls := by cbv
  obtain ⟨program, hprogram, hstructs⟩ := Result.map_eq_ok_iff.1 hbuild
  obtain ⟨all, -, -, -, hback, hexact⟩ := build_structs hplain hprogram
  rw [hstructs] at hback hexact
  exact ⟨hplain, program, hprogram, hstructs, hback, hexact⟩

end ShaderBindings
