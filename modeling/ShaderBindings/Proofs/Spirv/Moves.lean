import ShaderBindings.Proofs.Spirv.Resources
/-!
# Moving annotations

Annotations may stand anywhere among the other instructions of a module. Each statement is either an
annotation or says what a module is made of, and every look-up and every list of the reader takes
notice of statements of one of these two kinds. So what comes out depends on the order of the
annotations among themselves and on that of the other instructions, but not on how the two are
mixed.

## Main definitions

* `Instruction.annotates` - the instructions that name or decorate.
* `Moved` - the annotations stand at other places, everything in the same order.
* `Declarations.Agrees` - the same annotations, and the same other statements.
* `Declarations.Fills` - a module has its names and its values from the look-ups.
* `BinaryModule.withWords` - the same module, read from other words.

## Main results

* `Instruction.annotates_of_mem_statements` - an instruction states things of one kind.
* `Declarations.Agrees.resolve_eq` and its likes - what is put together from the declarations.
* `Declarations.fills_of_toModule` - what a module that was read has from its annotations.
* `toModule_moved` - annotations may stand anywhere, and the last one counts.
-/

set_option autoImplicit false

namespace ShaderBindings.Spirv

/-! ## Two kinds of instructions -/

/-- Whether the operation gives a name or a decoration. -/
def Opcode.annotates : Opcode → Bool
  | .name | .memberName | .decorate | .memberDecorate => true
  | _ => false

/-- Whether the instruction gives a name or a decoration. -/
def Instruction.annotates (i : Instruction) : Bool := i.opcode.annotates

/-- Whether the statement is about a name or a decoration. -/
def Statement.annotates (s : Statement) : Bool := s.annotation?.isSome

/-- The annotations stand at other places. They are in the same order among themselves, and so are
all other instructions. -/
structure Moved (is is' : List Instruction) : Prop where
  annotations : is'.filter (·.annotates) = is.filter (·.annotates)
  others : is'.filter (!·.annotates) = is.filter (!·.annotates)

/-- No type is declared by an annotation. -/
theorem TypeDecl.not_annotates_of_of? {opcode : Opcode} {operands : List Operand} {decl : TypeDecl}
    (h : of? opcode operands = some decl) : opcode.annotates = false := by
  unfold of? at h
  split at h
  case h_14 => cases h
  all_goals rfl

/-- An instruction that annotates states annotations only, and every other one states none.

**Proof sketch.** The instruction is looked at as `statements` does. Each case has a fixed opcode,
and types are no annotations (`TypeDecl.not_annotates_of_of?`). -/
theorem Instruction.annotates_of_mem_statements {i : Instruction} {s : Statement}
    (h : s ∈ i.statements) : s.annotates = i.annotates := by
  obtain ⟨opcode, operands⟩ := i
  have hoption {α : Type} {x : Option α} {f : α → Statement} (hs : s ∈ (x.map f).toList) :
      ∃ a, x = some a ∧ f a = s := by
    simpa using hs
  unfold statements at h
  split at h
  case h_7 hopcode hoperands =>
    cases hopcode
    rcases List.mem_append.1 h with h | h
    · obtain ⟨a, -, rfl⟩ := hoption h
      rfl
    · obtain rfl := List.mem_singleton.1 h
      rfl
  case h_13 hoperands =>
    obtain ⟨decl, hdecl, rfl⟩ := hoption h
    exact (TypeDecl.not_annotates_of_of? hdecl).symm
  case h_14 => cases h
  case h_3 | h_4 | h_6 =>
    next hopcode hoperands =>
      cases hopcode
      obtain ⟨a, -, rfl⟩ := hoption h
      rfl
  all_goals
    next hopcode hoperands =>
      cases hopcode
      obtain rfl := List.mem_singleton.1 h
      rfl

/-! ## Declarations that agree -/

namespace Declarations

variable {d d' : Declarations}

/-- The declarations have the same annotations in the same order, and the same other statements.

That is all that is kept when annotations are moved: where they stand among the other statements may
change. -/
def Agrees (d d' : Declarations) : Prop :=
  ∀ kind, d'.statements.filter (·.annotates == kind) =
    d.statements.filter (·.annotates == kind)

/-- The statements of a kind are those of the instructions of this kind.

**Proof sketch.** Induction on the instructions. All statements of an instruction are of its kind
(`Instruction.annotates_of_mem_statements`), so they stay or go together. -/
theorem filter_statements (is : List Instruction) (kind : Bool) :
    (ofInstructions is).statements.filter (·.annotates == kind) =
      (is.filter (·.annotates == kind)).flatMap (·.statements) := by
  rw [ofInstructions, List.filter_flatMap]
  induction is with
  | nil => rfl
  | cons i is ih =>
    have hkind : ∀ s ∈ i.statements, (s.annotates == kind) = (i.annotates == kind) :=
      fun s hs => by rw [Instruction.annotates_of_mem_statements hs]
    rw [List.flatMap_cons, ih, List.filter_congr hkind]
    cases hi : i.annotates == kind with
    | true => simp [hi]
    | false => simp [hi]

/-- Moved annotations leave the annotations in their order, and everything else in its order. -/
theorem agrees_of_moved {is is' : List Instruction} (h : Moved is is') :
    (ofInstructions is).Agrees (ofInstructions is') := by
  intro kind
  rw [filter_statements, filter_statements]
  cases kind with
  | true => simpa using congrArg (List.flatMap (·.statements)) h.annotations
  | false => simpa using congrArg (List.flatMap (·.statements)) h.others

namespace Agrees

/-- Agreement goes both ways. -/
theorem symm (h : d.Agrees d') : d'.Agrees d := fun kind => (h kind).symm

/-- What only statements of one kind say is the same.

**Proof sketch.** What is found stays the same if only the statements of that kind are looked at,
and these are the same. -/
theorem filterMap_eq {α : Type} (h : d.Agrees d') (kind : Bool) {f : Statement → Option α}
    (hf : ∀ s a, f s = some a → s.annotates = kind) :
    d'.statements.filterMap f = d.statements.filterMap f := by
  have hkind (statements : List Statement) :
      statements.filterMap f = (statements.filter (·.annotates == kind)).filterMap f := by
    rw [List.filterMap_filter]
    refine List.filterMap_congr fun s _ => ?_
    split
    · rfl
    · next hs =>
      cases ha : f s with
      | none => rfl
      | some a => exact absurd (beq_iff_eq.2 (hf s a ha)) hs
  rw [hkind, hkind d.statements, h kind]

/-- A look-up that takes notice of statements of one kind finds the same. -/
theorem last?_eq {α : Type} (h : d.Agrees d') (kind : Bool) {id : Nat} {f : Statement → Option α}
    (hf : ∀ s a, f s = some a → s.annotates = kind) : d'.last? id f = d.last? id f := by
  rw [Declarations.last?_eq, Declarations.last?_eq, List.filterMap_filter, List.filterMap_filter]
  refine congrArg List.getLast? (h.filterMap_eq kind fun s a hs => ?_)
  split at hs
  · exact hf s a hs
  · cases hs

/-! ### Look-ups -/

/-- The names of ids are the same. -/
theorem name?_eq (h : d.Agrees d') (id : Nat) : d'.name? id = d.name? id :=
  h.last?_eq true fun s _ hs => by cases s <;> first | rfl | cases hs

/-- The names of members are the same. -/
theorem memberName?_eq (h : d.Agrees d') (id member : Nat) :
    d'.memberName? id member = d.memberName? id member :=
  h.last?_eq true fun s _ hs => by cases s <;> first | rfl | cases hs

/-- Whatever is looked up among the decorations of an id is the same. -/
theorem decorated?_eq {α : Type} (h : d.Agrees d') (id : Nat) (f : Decoration → Option α) :
    d'.decorated? id f = d.decorated? id f :=
  h.last?_eq true fun s _ hs => by cases s <;> first | rfl | cases hs

/-- Whatever is looked up among the decorations of a member is the same. -/
theorem memberDecorated?_eq {α : Type} (h : d.Agrees d') (id member : Nat)
    (f : MemberDecoration → Option α) :
    d'.memberDecorated? id member f = d.memberDecorated? id member f :=
  h.last?_eq true fun s _ hs => by cases s <;> first | rfl | cases hs

/-- The declarations of types are the same. -/
theorem typeDecl?_eq (h : d.Agrees d') (id : Nat) : d'.typeDecl? id = d.typeDecl? id :=
  h.last?_eq false fun s _ hs => by cases s <;> first | rfl | cases hs

/-- The constants are the same. -/
theorem constant?_eq (h : d.Agrees d') (id : Nat) : d'.constant? id = d.constant? id :=
  h.last?_eq false fun s _ hs => by cases s <;> first | rfl | cases hs

/-- The constants made of parts are the same. -/
theorem composite?_eq (h : d.Agrees d') (id : Nat) : d'.composite? id = d.composite? id :=
  h.last?_eq false fun s _ hs => by cases s <;> first | rfl | cases hs

/-! ### Types -/

/-- The lengths of arrays are the same. -/
theorem arrayLength_eq (h : d.Agrees d') (id : Nat) : d'.arrayLength id = d.arrayLength id := by
  rw [arrayLength, arrayLength, h.constant?_eq]

/-- The images that are wrapped are the same. -/
theorem wrappedImage_eq (h : d.Agrees d') (id image : Nat) :
    d'.wrappedImage id image = d.wrappedImage id image := by
  rw [wrappedImage, wrappedImage, h.typeDecl?_eq]

/-- A walk along a type that ends is walked in the other declarations too.

**Proof sketch.** Along the walk, by partial correctness: every step looks at the declaration of a
type, which is the same, and goes on to ids for which the result is known. -/
theorem resolve?_of_some (h : d.Agrees d') {id : Nat} {r : Parse ShaderType}
    (hr : d.resolve? id = some r) : d'.resolve? id = some r := by
  refine resolve?.partial_correctness d (fun id r => d'.resolve? id = some r) ?_ id r hr
  intro walk ih id r hr
  rw [resolve?, h.typeDecl?_eq]
  split at hr
  case h_6 | h_7 | h_9 =>
    obtain ⟨t, ht, hr⟩ := Option.bind_eq_some_iff.1 hr
    simp only [ih _ _ ht]
    exact hr
  case h_8 =>
    obtain ⟨t, ht, hr⟩ := Option.bind_eq_some_iff.1 hr
    simp only [ih _ _ ht, h.arrayLength_eq]
    exact hr
  case h_13 => rwa [h.wrappedImage_eq]
  case h_14 => exact ih _ _ hr
  all_goals exact hr

/-- Types are resolved in the same way: a walk that ends in either ends in both
(`resolve?_of_some`). -/
theorem resolve_eq (h : d.Agrees d') (id : Nat) : d'.resolve id = d.resolve id := by
  have hwalk : d'.resolve? id = d.resolve? id :=
    Option.ext fun r => ⟨h.symm.resolve?_of_some, h.resolve?_of_some⟩
  rw [resolve, resolve, hwalk]

/-- The type below all arrays is the same in the other declarations.

**Proof sketch.** Along the walk, as for `resolve?_of_some`. -/
theorem stripArrays?_of_some (h : d.Agrees d') {id base : Nat}
    (hbase : d.stripArrays? id = some base) : d'.stripArrays? id = some base := by
  refine stripArrays?.partial_correctness d (fun id base => d'.stripArrays? id = some base) ?_ id
    base hbase
  intro walk ih id base hbase
  rw [stripArrays?, h.typeDecl?_eq]
  split at hbase
  · exact ih _ _ hbase
  · exact ih _ _ hbase
  · exact hbase

/-- The types below all arrays are the same. -/
theorem stripArrays_eq (h : d.Agrees d') (id : Nat) : d'.stripArrays id = d.stripArrays id := by
  have hwalk : d'.stripArrays? id = d.stripArrays? id :=
    Option.ext fun base => ⟨h.symm.stripArrays?_of_some, h.stripArrays?_of_some⟩
  rw [stripArrays, stripArrays, hwalk]

/-! ### Structs -/

/-- The members of structs are the same. -/
theorem member_eq (h : d.Agrees d') (owner index type : Nat) :
    d'.member owner index type = d.member owner index type := by
  simp only [member, h.resolve_eq, h.memberName?_eq, offset?, matrixStride?, rowMajor?,
    arrayStride?, h.memberDecorated?_eq, h.decorated?_eq]

/-- A struct is read in the same way. -/
theorem struct_eq (h : d.Agrees d') (built : Table StructType) (id : Nat) (types : List Nat) :
    d'.struct built id types = d.struct built id types := by
  simp only [struct, h.member_eq, h.name?_eq]

/-- All structs are read in the same way, one after the other. -/
theorem addStructs_eq (h : d.Agrees d') (built : Table StructType) (ids : List Nat) :
    d'.addStructs built ids = d.addStructs built ids := by
  induction ids generalizing built with
  | nil => rfl
  | cons id ids ih => simp only [addStructs, h.typeDecl?_eq, h.struct_eq, ih]

/-- The structs of a module are the same, in the same order. -/
theorem structs_eq (h : d.Agrees d') : d'.structs = d.structs := by
  have hids : d'.structIds = d.structIds :=
    h.filterMap_eq false fun s _ hs => by cases s <;> first | rfl | cases hs
  rw [structs, structs, hids, h.addStructs_eq]

/-! ### Resources -/

/-- A variable gets the same class. -/
theorem class?_eq (h : d.Agrees d') (v : VariableDecl) (base : Nat) :
    d'.class? v base = d.class? v base := by
  have hconstant : d'.constantClass? base = d.constantClass? base := by
    rw [constantClass?, constantClass?, h.typeDecl?_eq]
  have hbuiltIn : d'.builtIn? v.id = d.builtIn? v.id := h.decorated?_eq v.id _
  have hlocation : d'.location? v.id = d.location? v.id := h.decorated?_eq v.id _
  have hblock : d'.isBlock base = d.isBlock base :=
    congrArg Option.isSome (h.decorated?_eq base _)
  have hbuffer : d'.isBufferBlock base = d.isBufferBlock base :=
    congrArg Option.isSome (h.decorated?_eq base _)
  rw [class?, class?, hconstant, hbuiltIn, hlocation, hblock, hbuffer]

/-- A variable stands for the same resource. -/
theorem resource?_eq (h : d.Agrees d') (v : VariableDecl) : d'.resource? v = d.resource? v := by
  simp only [resource?, h.typeDecl?_eq, h.stripArrays_eq, h.class?_eq, h.resolve_eq, h.name?_eq,
    set?, binding?, location?, h.decorated?_eq]

/-- The resources are the same, in the same lists. -/
theorem resources_eq (h : d.Agrees d') : d'.resources = d.resources := by
  have hdecls : d'.variableDecls = d.variableDecls :=
    h.filterMap_eq false fun s _ hs => by cases s <;> first | rfl | cases hs
  rw [resources, resources, hdecls, funext h.resource?_eq]

/-! ### Constants and entry points -/

/-- The constants that can be set are the same. -/
theorem specConstants_eq (h : d.Agrees d') : d'.specConstants = d.specConstants := by
  simp only [specConstants, specId?, h.decorated?_eq, h.resolve_eq, h.name?_eq]
  rw [h.filterMap_eq false fun s _ hs => by cases s <;> first | rfl | cases hs]

/-- The constant with the size of a work group is sought in the order of the annotations.

**Proof sketch.** The pick is among the annotations, in their order, and it looks at decorations and
constants, which are the same. -/
theorem workGroupSize_eq (h : d.Agrees d') (specs : List SpecConstant) :
    d'.workGroupSize specs = d.workGroupSize specs := by
  have hbuiltIn : d'.builtIn? = d.builtIn? := funext fun id => h.decorated?_eq id _
  have hcomposite : d'.composite? = d.composite? := funext h.composite?_eq
  have hparts : d'.workGroupParts? = d.workGroupParts? := by
    rw [workGroupParts?, workGroupParts?, hbuiltIn, hcomposite, ← List.head?_filterMap,
      ← List.head?_filterMap]
    rw [h.filterMap_eq true fun s _ hs => by cases s <;> first | rfl | cases hs]
  rw [workGroupSize, workGroupSize, hparts]

/-- The entry points are the same. -/
theorem entryPoints_eq (h : d.Agrees d') : d'.entryPoints = d.entryPoints :=
  h.filterMap_eq false fun s _ hs => by cases s <;> first | rfl | cases hs

end Agrees

/-! ## What a module has from its annotations -/

variable {words : List UInt32} {b : BinaryModule}

/-- The member is put together from the look-ups: its owner is the struct it belongs to, at the
given index, and its type has the given id. -/
structure IsMember (d : Declarations) (owner index type : Nat) (mem : Member) : Prop where
  name_eq : mem.name = (d.memberName? owner index).getD s!"_m{index}"
  resolve_eq : d.resolve type = .ok mem.ty
  offset_eq : mem.offset = (d.offset? owner index).getD 0
  matrixStride_eq : mem.matrixStride = d.matrixStride? owner index
  arrayStride_eq : mem.arrayStride = d.arrayStride? type
  rowMajor_eq : mem.rowMajor = (d.rowMajor? owner index).getD false

/-- A member that is read is what its type and its annotations say. -/
theorem isMember_of_member {owner index type : Nat} {mem : Member}
    (h : d.member owner index type = .ok mem) : d.IsMember owner index type mem := by
  obtain ⟨ty, hty, h⟩ := Result.bind_eq_ok_iff.1 h
  cases h
  exact ⟨rfl, hty, rfl, rfl, rfl, rfl⟩

/-- The constant can be set under the id that it is decorated with.

**Proof sketch.** The constants are read one by one from the statements with an id to set them
by. -/
theorem specConstant_eq {specs : List SpecConstant} (h : d.specConstants = .ok specs)
    {c : SpecConstant} (hc : c ∈ specs) :
    d.specId? c.id = some c.constantId ∧ c.name = (d.name? c.id).getD "" := by
  obtain ⟨⟨constantId, id, type⟩, hmarked, hread⟩ :=
    Result.forall₂_mem_right (Result.mapM_eq_ok_iff.1 h) hc
  obtain ⟨ty, -, hread⟩ := Result.bind_eq_ok_iff.1 hread
  cases hread
  obtain ⟨s, -, hs⟩ := List.mem_filterMap.1 hmarked
  split at hs
  · obtain ⟨n, hn, heq⟩ := Option.map_eq_some_iff.1 hs
    cases heq
    exact ⟨hn, rfl⟩
  · cases hs

/-- The size of a work group is made of the parts of a constant that is built in as such.

**Proof sketch.** The parts are found at a decoration that says what the constant is for, and each
of the three constants is sought by the id of its part. -/
theorem workGroupSize_spec (specs : List SpecConstant) :
    d.workGroupSize specs = {} ∨ ∃ id parts, d.builtIn? id = some workGroupBuiltIn ∧
      d.composite? id = some parts ∧ ∀ c,
        ((d.workGroupSize specs).x = some c → parts[0]? = some c.id) ∧
        ((d.workGroupSize specs).y = some c → parts[1]? = some c.id) ∧
        ((d.workGroupSize specs).z = some c → parts[2]? = some c.id) := by
  unfold workGroupSize
  cases hparts : d.workGroupParts? with
  | none => exact .inl rfl
  | some parts =>
    obtain ⟨s, -, hs⟩ := List.exists_of_findSome?_eq_some hparts
    have hcomponent (i : Nat) (c : SpecConstant)
        (h : (parts[i]?.bind fun part => specs.find? (·.id == part)) = some c) :
        parts[i]? = some c.id := by
      obtain ⟨part, hpart, hc⟩ := Option.bind_eq_some_iff.1 h
      have hid : c.id = part := by simpa using List.find?_some hc
      rw [hpart, hid]
    split at hs
    · split at hs
      · next id _ hbuiltIn =>
        exact .inr ⟨id, parts, hbuiltIn, hs, fun c =>
          ⟨hcomponent 0 c, hcomponent 1 c, hcomponent 2 c⟩⟩
      · cases hs
    · cases hs

/-- What the module has from its annotations is what the look-ups find. For each part of the module
it names the look-ups that this part depends on, with the answer if nothing is found. -/
structure Fills (d : Declarations) (b : BinaryModule) : Prop where
  structs : ∀ st ∈ b.reflected.structs, st.name = (d.name? st.id).getD s!"_{st.id}" ∧
    ∃ types, d.typeDecl? st.id = some (.struct types) ∧
      List.Forall₂ (fun t mem => d.IsMember st.id t.2 t.1 mem) types.zipIdx st.members
  resources : ∀ c, ∀ r ∈ b.reflected.resources.ofClass c, ∃ v ∈ d.variableDecls, d.IsResource v c r
  specConstants : ∀ c ∈ b.reflected.specConstants,
    d.specId? c.id = some c.constantId ∧ c.name = (d.name? c.id).getD ""
  workGroupSize : b.reflected.workGroupSize = {} ∨
    ∃ id parts, d.builtIn? id = some workGroupBuiltIn ∧ d.composite? id = some parts ∧ ∀ c,
      (b.reflected.workGroupSize.x = some c → parts[0]? = some c.id) ∧
      (b.reflected.workGroupSize.y = some c → parts[1]? = some c.id) ∧
      (b.reflected.workGroupSize.z = some c → parts[2]? = some c.id)

/-- A module that was read has the constants and the size of a work group that were found. -/
theorem specConstants_of_toModule (h : d.toModule words = .ok b) :
    d.specConstants = .ok b.reflected.specConstants ∧
      d.workGroupSize b.reflected.specConstants = b.reflected.workGroupSize := by
  simp only [toModule, Result.bind_eq_ok_iff] at h
  obtain ⟨structs, -, resources, -, specs, hspecs, h⟩ := h
  cases h
  exact ⟨hspecs, rfl⟩

/-- A module that was read has the names and the values that the look-ups find.

**Proof sketch.** The four fields of `Fills` one by one: structs were built from their declarations
(`exists_isBuilt_of_toModule`), resources are what their variables stand for
(`yields_of_resource?`), and the constants are `specConstant_eq` and `workGroupSize_spec`. -/
theorem fills_of_toModule (h : d.toModule words = .ok b) : d.Fills b := by
  obtain ⟨built, -, hbuilt, -, hget⟩ := exists_isBuilt_of_toModule h
  obtain ⟨-, -, -, hresources⟩ := toModule_eq_ok h
  obtain ⟨hspecs, hsize⟩ := specConstants_of_toModule h
  constructor
  case structs =>
    intro st hst
    obtain ⟨types, hdecl, hstruct⟩ := hbuilt.declared st.id st ((hget st).1 hst)
    obtain ⟨-, hname, hmembers, -⟩ := struct_eq_ok_iff.1 hstruct
    exact ⟨hname, types, hdecl, hmembers.imp fun t mem hmem => isMember_of_member hmem⟩
  case resources =>
    intro c r hr
    obtain ⟨found, hfound, hlists⟩ := Result.bind_eq_ok_iff.1 hresources
    rw [← Except.ok.inj hlists, Resources.mem_ofClass_ofList] at hr
    obtain ⟨entry, hentry, rfl⟩ := List.mem_filterMap.1 hr
    obtain ⟨v, hv, hresource⟩ :=
      Result.forall₂_mem_right (Result.mapM_eq_ok_iff.1 hfound) hentry
    exact ⟨v, hv, yields_of_resource? hresource⟩
  case specConstants => exact fun c hc => specConstant_eq hspecs hc
  case workGroupSize => exact hsize ▸ workGroupSize_spec _

end Declarations

/-! ## Modules -/

/-- The same module, read from other words. -/
def BinaryModule.withWords (b : BinaryModule) (words : List UInt32) : BinaryModule :=
  { b with
    version := versionOf (words.getD 1 0)
    reflected := { b.reflected with code := words } }

/-- Declarations that agree give the same module, or fail alike.

**Proof sketch.** All steps give the same, so they are rewritten one into the other. The words are
only kept. -/
theorem Declarations.Agrees.toModule_eq {d d' : Declarations} (h : d.Agrees d')
    (words words' : List UInt32) :
    d'.toModule words' = (d.toModule words).map (·.withWords words') := by
  simp only [toModule, h.structs_eq, h.resources_eq, h.specConstants_eq, h.entryPoints_eq,
    h.workGroupSize_eq]
  cases d.structs with
  | error e => rfl
  | ok structs =>
    cases d.resources with
    | error e => rfl
    | ok resources =>
      cases d.specConstants with
      | error e => rfl
      | ok specs => rfl

/-- **Annotations may stand anywhere.** Where the instructions of a module are the same up to the
places of their annotations, the module has the same entry points, structs, resources, constants and
size of a work group, or reading it fails with the same error. Of the annotations of one thing the
last one counts, and what a module has from its annotations is what they say.

**Proof sketch.** Instructions that were moved state the same annotations and the same other
statements, so every look-up and every list that the module is put together from is the same. -/
theorem toModule_moved (is : List Instruction) (words : List UInt32) :
    (∀ is' words', Moved is is' →
      (Declarations.ofInstructions is').toModule words' =
        ((Declarations.ofInstructions is).toModule words).map (·.withWords words')) ∧
    (Declarations.ofInstructions is).IsAnnotated is ∧
    ∀ b, (Declarations.ofInstructions is).toModule words = .ok b →
      (Declarations.ofInstructions is).Fills b :=
  ⟨fun _ words' h => (Declarations.agrees_of_moved h).toModule_eq words words',
    Declarations.isAnnotated_ofInstructions is, fun _ h => Declarations.fills_of_toModule h⟩

/-- Names and decorations of a block and of its variable. What is said twice differs, so it can be
seen that the last word counts. -/
def cameraAnnotations : List Instruction :=
  [⟨.name, [.id 5, .text "Draft"]⟩,
   ⟨.name, [.id 5, .text "Camera"]⟩,
   ⟨.memberName, [.id 5, .integer 0, .text "view"]⟩,
   ⟨.memberDecorate, [.id 5, .integer 0, .value .decoration 4]⟩,
   ⟨.memberDecorate, [.id 5, .integer 0, .value .decoration 35, .integer 0]⟩,
   ⟨.memberDecorate, [.id 5, .integer 0, .value .decoration 7, .integer 16]⟩,
   ⟨.memberDecorate, [.id 5, .integer 0, .value .decoration 5]⟩,
   ⟨.decorate, [.id 5, .value .decoration 2]⟩,
   ⟨.decorate, [.id 7, .value .decoration 33, .integer 1]⟩,
   ⟨.decorate, [.id 7, .value .decoration 33, .integer 2]⟩,
   ⟨.decorate, [.id 7, .value .decoration 34, .integer 0]⟩]

/-- The block with its matrix, and the variable. -/
def cameraDeclarations : List Instruction :=
  [⟨.typeFloat, [.result 1, .integer 32]⟩,
   ⟨.typeVector, [.result 2, .id 1, .integer 4]⟩,
   ⟨.typeMatrix, [.result 3, .id 2, .integer 4]⟩,
   ⟨.typeStruct, [.result 5, .id 3]⟩,
   ⟨.typePointer, [.result 6, .value .storageClass 2, .id 5]⟩,
   ⟨.variableOp, [.resultType 6, .result 7, .value .storageClass 2]⟩]

/-- The same, with some annotations in the middle and all others at the end. The order among the
annotations is kept, which `Moved` asks for. -/
def mixedCamera : List Instruction :=
  cameraDeclarations.take 3 ++ cameraAnnotations.take 6 ++ cameraDeclarations.drop 3 ++
    cameraAnnotations.drop 6

/-- The block of the camera. -/
def cameraBlock : StructType where
  id := 5
  name := "Camera"
  size := 64
  members :=
    [{ name := "view", ty := { base := .float 32, components := 4, columns := 4 }, offset := 0,
       matrixStride := some 16 }]

/-- The module, with the names and the binding that were given last. -/
def cameraModule : BinaryModule where
  version := (0, 0)
  entryPoints := []
  reflected :=
    { origin := .binary
      structs := [cameraBlock]
      resources :=
        { uniformBuffers := [{ ty := .struct 5, id := 7, baseType := 5, binding := 2 }] } }

/-- With its annotations at other places the module is the same.

The annotations stand among the declarations there, and after the last of them. -/
theorem toModule_mixedCamera :
    Moved (cameraAnnotations ++ cameraDeclarations) mixedCamera ∧
      (Declarations.ofInstructions (cameraAnnotations ++ cameraDeclarations)).toModule [] =
        .ok cameraModule ∧
      (Declarations.ofInstructions mixedCamera).toModule [] = .ok cameraModule ∧
      IsLast (cameraAnnotations ++ cameraDeclarations)
        (fun n => ⟨.decorate, [.id 7, .value .decoration 33, .integer n]⟩) (some 2) ∧
      (Declarations.ofInstructions (cameraAnnotations ++ cameraDeclarations)).Fills
        cameraModule := by
  have hmoved : Moved (cameraAnnotations ++ cameraDeclarations) mixedCamera := ⟨rfl, rfl⟩
  have hmodule :
      (Declarations.ofInstructions (cameraAnnotations ++ cameraDeclarations)).toModule [] =
        .ok cameraModule := by cbv
  have hbinding :
      (Declarations.ofInstructions (cameraAnnotations ++ cameraDeclarations)).binding? 7 =
        some 2 := by cbv
  obtain ⟨heq, hlast, hfills⟩ := toModule_moved (cameraAnnotations ++ cameraDeclarations) []
  refine ⟨hmoved, hmodule, ?_, hbinding ▸ hlast.binding 7, hfills cameraModule hmodule⟩
  rw [heq mixedCamera [] hmoved, hmodule]
  rfl

end ShaderBindings.Spirv
