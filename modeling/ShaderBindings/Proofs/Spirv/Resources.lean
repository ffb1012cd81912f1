import ShaderBindings.Proofs.Spirv.Annotations
import ShaderBindings.Proofs.Spirv.Elements
/-!
# Resources of a binary module

The reader sorts the variables of a module into the lists of their classes. It looks at a type
twice: once along its arrays, for the class, and once as a whole, for the type of the resource. This
module shows that both agree, and what comes to stand in the lists.

## Main definitions

* `Instruction.outerVariable?` - the variable that an instruction declares outside functions.
* `Declarations.IsArrayOf` - a type as arrays of what is no array.
* `Declarations.HasClass` - which resources are of a class.
* `Declarations.IsResource` - the resource behind a variable.
* `ResourceClass.Holds` - the types that resources of a class are made of.

## Main results

* `Declarations.exists_isArrayOf` - the two walks along a type agree.
* `Declarations.class?_eq_some_iff` - a variable gets a class exactly if it has this class.
* `toModule_resources` - the lists of a module that was read.
-/

set_option autoImplicit false

namespace ShaderBindings

/-- The resources of the class are made of such types. Classes of blocks, inputs and outputs can
have any type: it is not asked of which kind they are. -/
def ResourceClass.Holds : ResourceClass → BaseType → Prop
  | .storageImage, t => ∃ dim, t = .image dim false
  | .sampledImage, t => ∃ dim, t = .image dim true
  | .combinedImageSampler, t => ∃ dim, t = .sampledImage dim
  | .separateSampler, t => t = .sampler
  | _, _ => True

namespace Spirv

/-! ## Variables -/

/-- The variable that an instruction declares, unless it belongs to a function. -/
def Instruction.outerVariable? (i : Instruction) : Option Declarations.VariableDecl :=
  match i.opcode, i.operands with
  | .variableOp, .resultType type :: .result id :: .value .storageClass storage :: _ =>
    if storage = 7 then none else some { id, type, storage := .ofValue storage }
  | _, _ => none

/-- The variable of a statement, unless it belongs to a function. -/
def Statement.outerVariable? : Statement → Option Declarations.VariableDecl
  | .variableDecl id pointer storage =>
    if storage = .function then none else some { id, type := pointer, storage }
  | _ => none

/-- Of all storage classes only the one of functions stands for these. -/
theorem StorageClass.ofValue_eq_function_iff {n : Nat} : ofValue n = .function ↔ n = 7 := by
  unfold ofValue
  split <;> simp_all

namespace Declarations

/-- An instruction states the variable that it declares, and no other one.

**Proof sketch.** The instruction is looked at as `statements` does. Only a variable states a
variable, and the storage class of functions is left out by both
(`StorageClass.ofValue_eq_function_iff`). -/
theorem filterMap_statements (i : Instruction) :
    i.statements.filterMap Statement.outerVariable? = i.outerVariable?.toList := by
  obtain ⟨opcode, operands⟩ := i
  have hoption {α : Type} (x : Option α) (f : α → Statement)
      (hf : ∀ a, (f a).outerVariable? = none) :
      (x.map f).toList.filterMap Statement.outerVariable? = [] := by
    cases x with
    | none => rfl
    | some a => simp [hf]
  unfold Instruction.statements
  split
  case h_7 type id n hopcode hoperands =>
    cases hopcode
    cases hoperands
    rw [List.filterMap_append, hoption _ _ fun _ => rfl]
    rfl
  case h_12 type id storage rest hopcode hoperands =>
    cases hopcode
    cases hoperands
    by_cases hstorage : storage = 7
    · simp [Statement.outerVariable?, Instruction.outerVariable?, hstorage, StorageClass.ofValue]
    · simp [Statement.outerVariable?, Instruction.outerVariable?, hstorage,
        StorageClass.ofValue_eq_function_iff]
  case h_13 id rest hoperands =>
    cases hoperands
    rw [hoption _ _ fun _ => rfl, Instruction.outerVariable?]
    split
    · next h => cases h
    · rfl
  case h_14 hother =>
    rw [Instruction.outerVariable?]
    split
    · next hopcode hoperands => exact absurd hoperands (hother _ _ _ _ hopcode)
    · rfl
  all_goals
    next hopcode hoperands =>
      cases hopcode
      cases hoperands
      first
        | rfl
        | exact hoption _ _ fun _ => rfl

/-- The variables of a module are those that its instructions declare, in order.

**Proof sketch.** Instruction by instruction (`filterMap_statements`). -/
theorem variableDecls_ofInstructions (is : List Instruction) :
    (ofInstructions is).variableDecls = is.filterMap (·.outerVariable?) := by
  have hdecls : (ofInstructions is).variableDecls =
      (is.flatMap (·.statements)).filterMap Statement.outerVariable? := by
    refine congrArg (List.filterMap · (is.flatMap (·.statements))) (funext fun s => ?_)
    cases s <;> rfl
  rw [hdecls, List.filterMap_flatMap, List.filterMap_eq_flatMap_toList]
  exact congrArg (List.flatMap · is) (funext filterMap_statements)

/-! ## Decorations -/

/-- An instruction decorates the id so. -/
def IsDecorated (is : List Instruction) (id : Nat) (a : Decoration) : Prop :=
  ∃ operands, (⟨.decorate, .id id :: operands⟩ : Instruction) ∈ is ∧
    Decoration.of? operands = some a

variable {d : Declarations} {id : Nat}

/-- What has a location is decorated with it. -/
theorem isDecorated_of_location? {is : List Instruction} {n : Nat}
    (h : (ofInstructions is).location? id = some n) : IsDecorated is id (.location n) := by
  have hlast := (isAnnotated_ofInstructions is).location id
  rw [h] at hlast
  obtain ⟨before, after, heq, -⟩ := hlast
  exact ⟨_, heq ▸ List.mem_append_right before List.mem_cons_self, rfl⟩

/-- What is not found to be built in is not decorated so. -/
theorem not_isDecorated_of_builtIn? {is : List Instruction} (n : Nat)
    (h : (ofInstructions is).builtIn? id = none) : ¬ IsDecorated is id (.builtIn n) := by
  have hlast := (isAnnotated_ofInstructions is).builtIn id
  rw [h] at hlast
  rintro ⟨operands, hmem, ha⟩
  rw [Decoration.of?_eq_some_iff.1 ha] at hmem
  exact hlast n hmem

/-! ## Types -/

/-- The type is made of arrays with the given extents, outermost first, of a type that is no array.
An array that is sized when the program runs has the extent zero. -/
inductive IsArrayOf (d : Declarations) : Nat → List Nat → Nat → Prop
  | base {type : Nat} (hleaf : d.element? type = none) : IsArrayOf d type [] type
  | array {type element length extent base : Nat} {extents : List Nat}
      (hdecl : d.typeDecl? type = some (.array element length))
      (hlength : d.arrayLength length = .ok extent) (hinner : IsArrayOf d element extents base) :
      IsArrayOf d type (extent :: extents) base
  | runtimeArray {type element base : Nat} {extents : List Nat}
      (hdecl : d.typeDecl? type = some (.runtimeArray element))
      (hinner : IsArrayOf d element extents base) : IsArrayOf d type (0 :: extents) base

/-- **The two walks along a type agree.** What a type is resolved to is what the type below its
arrays is resolved to, with the extents of the arrays in front.

**Proof sketch.** Induction on the walk along the arrays. Each step takes one dimension off. -/
theorem exists_isArrayOf {type base : Nat} (hstrip : d.stripArrays? type = some base)
    {t : ShaderType} (ht : d.resolve type = .ok t) :
    ∃ extents inner, d.IsArrayOf type extents base ∧ d.resolve base = .ok inner ∧
      t = { inner with extents := extents ++ inner.extents } := by
  refine stripArrays?.partial_correctness d (fun type base => ∀ t, d.resolve type = .ok t →
    ∃ extents inner, d.IsArrayOf type extents base ∧ d.resolve base = .ok inner ∧
      t = { inner with extents := extents ++ inner.extents }) ?_ type base hstrip t ht
  intro walk ih type base hbase t ht
  split at hbase
  · next element length hdecl =>
    obtain ⟨t', extent, ht', hlength, rfl⟩ := resolve_array hdecl ht
    obtain ⟨extents, inner, harray, hinner, rfl⟩ := ih element base hbase t' ht'
    exact ⟨extent :: extents, inner, .array hdecl hlength harray, hinner, rfl⟩
  · next element hdecl =>
    obtain ⟨t', ht', rfl⟩ := resolve_runtimeArray hdecl ht
    obtain ⟨extents, inner, harray, hinner, rfl⟩ := ih element base hbase t' ht'
    exact ⟨0 :: extents, inner, .runtimeArray hdecl harray, hinner, rfl⟩
  · next harray hruntime =>
    cases hbase
    have hleaf : d.element? type = none := by
      cases hdecl : d.typeDecl? type with
      | none => simp [element?, hdecl]
      | some decl =>
        rw [element?_of_decl hdecl]
        cases decl with
        | array element length => exact absurd hdecl (harray element length)
        | runtimeArray element => exact absurd hdecl (hruntime element)
        | _ => rfl
    exact ⟨[], t, .base hleaf, ht, rfl⟩

/-! ## Classes -/

/-- The variable is connected to another stage, and no part of the interface that is built in. -/
def IsConnected (d : Declarations) (v : VariableDecl) : Prop :=
  d.builtIn? v.id = none ∧ (d.location? v.id).isSome

/-- The variable stands for a resource of the class, with the given type below all arrays. There is
one case for each way to come to a class, and no variable has two of them. -/
inductive HasClass (d : Declarations) (v : VariableDecl) (base : Nat) : ResourceClass → Prop
  | stageInput (hstorage : v.storage = .input) (hconnected : d.IsConnected v) :
      HasClass d v base .stageInput
  | stageOutput (hstorage : v.storage = .output) (hconnected : d.IsConnected v) :
      HasClass d v base .stageOutput
  | uniformBuffer (hstorage : v.storage = .uniform) (hblock : d.isBlock base)
      (hbuffer : d.isBufferBlock base = false) : HasClass d v base .uniformBuffer
  | bufferBlock (hstorage : v.storage = .uniform) (hbuffer : d.isBufferBlock base) :
      HasClass d v base .storageBuffer
  | storageBuffer (hstorage : v.storage = .storageBuffer) : HasClass d v base .storageBuffer
  | pushConstantBlock (hstorage : v.storage = .pushConstant) : HasClass d v base .pushConstantBlock
  | storageImage {dim : ImageDim} (hstorage : v.storage = .uniformConstant)
      (hdecl : d.typeDecl? base = some (.image dim 2)) : HasClass d v base .storageImage
  | sampledImage {dim : ImageDim} {sampled : Nat} (hstorage : v.storage = .uniformConstant)
      (hdecl : d.typeDecl? base = some (.image dim sampled)) (hsampled : sampled ≠ 2) :
      HasClass d v base .sampledImage
  | combinedImageSampler {image : Nat} (hstorage : v.storage = .uniformConstant)
      (hdecl : d.typeDecl? base = some (.sampledImage image)) :
      HasClass d v base .combinedImageSampler
  | separateSampler (hstorage : v.storage = .uniformConstant)
      (hdecl : d.typeDecl? base = some .sampler) : HasClass d v base .separateSampler

/-- A variable that gets a class in constant storage has it.

**Proof sketch.** The declaration of the type decides, and each that gives a class is one of the
cases of `HasClass`. -/
theorem hasClass_of_constantClass? {v : VariableDecl} {base : Nat} {c : ResourceClass}
    (hstorage : v.storage = .uniformConstant) (h : d.constantClass? base = .ok (some c)) :
    d.HasClass v base c := by
  unfold constantClass? at h
  split at h
  · cases h
  · next dim hdecl =>
    cases h
    exact .storageImage hstorage hdecl
  · next dim sampled hsampled hdecl =>
    cases h
    exact .sampledImage hstorage hdecl hsampled
  · next image hdecl =>
    cases h
    exact .combinedImageSampler hstorage hdecl
  · next hdecl =>
    cases h
    exact .separateSampler hstorage hdecl
  · cases h

/-- A variable that gets a class has it.

**Proof sketch.** The storage class is looked at as `class?` does. Constant storage is left to
`hasClass_of_constantClass?`. -/
theorem hasClass_of_class? {v : VariableDecl} {base : Nat} {c : ResourceClass}
    (h : d.class? v base = .ok (some c)) : d.HasClass v base c := by
  have hconnected (hc : ((d.builtIn? v.id).isNone && (d.location? v.id).isSome) = true) :
      d.IsConnected v := by
    simpa [IsConnected] using hc
  simp only [class?] at h
  split at h
  · next hstorage =>
    split at h
    · next hc =>
      cases h
      exact .stageInput hstorage (hconnected hc)
    · cases h
  · next hstorage =>
    split at h
    · next hc =>
      cases h
      exact .stageOutput hstorage (hconnected hc)
    · cases h
  · next hstorage =>
    split at h
    · next hbuffer =>
      cases h
      exact .bufferBlock hstorage hbuffer
    · next hbuffer =>
      split at h
      · next hblock =>
        cases h
        exact .uniformBuffer hstorage hblock (by simpa using hbuffer)
      · cases h
  · next hstorage =>
    cases h
    exact .storageBuffer hstorage
  · next hstorage =>
    cases h
    exact .pushConstantBlock hstorage
  · next hstorage => exact hasClass_of_constantClass? hstorage h
  · cases h
  · cases h

/-- A variable that has a class gets it.

**Proof sketch.** Case by case: the conditions of a class are those that `class?` looks at on its
way to it. -/
theorem class?_of_hasClass {v : VariableDecl} {base : Nat} {c : ResourceClass}
    (h : d.HasClass v base c) : d.class? v base = .ok (some c) := by
  cases h with
  | stageInput hstorage hconnected => simp [class?, hstorage, hconnected.1, hconnected.2]
  | stageOutput hstorage hconnected => simp [class?, hstorage, hconnected.1, hconnected.2]
  | uniformBuffer hstorage hblock hbuffer => simp [class?, hstorage, hblock, hbuffer]
  | bufferBlock hstorage hbuffer => simp [class?, hstorage, hbuffer]
  | storageBuffer hstorage => simp [class?, hstorage]
  | pushConstantBlock hstorage => simp [class?, hstorage]
  | storageImage hstorage hdecl => simp [class?, hstorage, constantClass?, hdecl]
  | sampledImage hstorage hdecl hsampled =>
    simp only [class?, hstorage, constantClass?, hdecl]
  | combinedImageSampler hstorage hdecl => simp [class?, hstorage, constantClass?, hdecl]
  | separateSampler hstorage hdecl => simp [class?, hstorage, constantClass?, hdecl]

/-- A variable gets a class exactly if it has this class. -/
theorem class?_eq_some_iff {v : VariableDecl} {base : Nat} {c : ResourceClass} :
    d.class? v base = .ok (some c) ↔ d.HasClass v base c :=
  ⟨hasClass_of_class?, class?_of_hasClass⟩

/-- The type below all arrays is of the kind that the class holds.

**Proof sketch.** Classes of constant storage come from the declaration of the type, which resolves
to an image or a sampler. For the other classes there is nothing to show. -/
theorem HasClass.holds {v : VariableDecl} {base : Nat} {c : ResourceClass} {t : ShaderType}
    (h : d.HasClass v base c) (ht : d.resolve base = .ok t) : c.Holds t.base := by
  rw [resolve_eq_ok_iff, resolve?] at ht
  cases h with
  | storageImage _ hdecl =>
    rw [hdecl] at ht
    cases ht
    exact ⟨_, rfl⟩
  | sampledImage _ hdecl hsampled =>
    rw [hdecl] at ht
    cases ht
    exact ⟨_, by rw [bne_iff_ne.2 hsampled]⟩
  | combinedImageSampler _ hdecl =>
    rw [hdecl] at ht
    simp only [wrappedImage, Option.some.injEq] at ht
    split at ht <;> cases ht
    exact ⟨_, rfl⟩
  | separateSampler _ hdecl =>
    rw [hdecl] at ht
    cases ht
    rfl
  | _ => trivial

/-! ## Resources -/

/-- The resource of the class is that behind the variable. -/
structure IsResource (d : Declarations) (v : VariableDecl) (c : ResourceClass) (r : Resource) :
    Prop where
  id_eq : r.id = v.id
  name_eq : r.name = (d.name? v.id).getD ""
  set_eq : r.set = (d.set? v.id).getD 0
  binding_eq : r.binding = (d.binding? v.id).getD 0
  location_eq : r.location = d.location? v.id
  hasClass : d.HasClass v r.baseType c
  /-- The type is that below all arrays, with the extents of the arrays in front. -/
  type : ∃ pointee extents inner, d.typeDecl? v.type = some (.pointer pointee) ∧
    d.IsArrayOf pointee extents r.baseType ∧ d.resolve r.baseType = .ok inner ∧
    r.ty = { inner with extents := extents ++ inner.extents }

/-- What is found behind the variable: a resource with its class, or nothing if it has no class. In
both cases the walk from the type of the variable has ended. -/
def Yields (d : Declarations) (v : VariableDecl) : Option (ResourceClass × Resource) → Prop
  | some (c, r) => d.IsResource v c r
  | none => ∃ pointee base, d.typeDecl? v.type = some (.pointer pointee) ∧
      d.stripArrays? pointee = some base ∧ ∀ c, ¬ d.HasClass v base c

/-- The type below all arrays is found if the walk to it ends. -/
theorem stripArrays_eq_ok_iff {type base : Nat} :
    d.stripArrays type = .ok base ↔ d.stripArrays? type = some base := by
  unfold stripArrays
  cases d.stripArrays? type with
  | none => simp
  | some base => simp

/-- What is found behind a variable is what it stands for.

**Proof sketch.** The variable points to a type, whose arrays are stripped. Without a class there is
none to be had (`class?_of_hasClass`). With one (`hasClass_of_class?`) the type is resolved, and it
is the base with the extents in front (`exists_isArrayOf`). -/
theorem yields_of_resource? {v : VariableDecl} {found : Option (ResourceClass × Resource)}
    (h : d.resource? v = .ok found) : d.Yields v found := by
  unfold resource? at h
  split at h
  · cases h
  · next pointee hpointer =>
    simp only [Result.bind_eq_ok_iff] at h
    obtain ⟨base, hbase, c?, hclass, h⟩ := h
    have hstrip := stripArrays_eq_ok_iff.1 hbase
    split at h
    · cases h
      refine ⟨pointee, base, hpointer, hstrip, fun c hc => ?_⟩
      cases hclass.symm.trans (class?_of_hasClass hc)
    · next c =>
      obtain ⟨ty, hty, h⟩ := Result.bind_eq_ok_iff.1 h
      cases h
      obtain ⟨extents, inner, harray, hinner, hty⟩ := exists_isArrayOf hstrip hty
      exact ⟨rfl, rfl, rfl, rfl, rfl, hasClass_of_class? hclass,
        pointee, extents, inner, hpointer, harray, hinner, hty⟩
  · cases h

/-- A stage input or output has a location, and is not built in.

**Proof sketch.** Both classes ask for a location and for nothing built in. What is looked up is
what the variable is decorated with (`isDecorated_of_location?`, `not_isDecorated_of_builtIn?`). -/
theorem IsResource.interface {is : List Instruction} {v : VariableDecl} {c : ResourceClass}
    {r : Resource} (h : (ofInstructions is).IsResource v c r)
    (hc : c = .stageInput ∨ c = .stageOutput) :
    (∃ n, r.location = some n ∧ IsDecorated is r.id (.location n)) ∧
      ∀ n, ¬ IsDecorated is r.id (.builtIn n) := by
  have hconnected : (ofInstructions is).IsConnected v := by
    rcases hc with rfl | rfl
    · cases h.hasClass with
      | stageInput _ hconnected => exact hconnected
    · cases h.hasClass with
      | stageOutput _ hconnected => exact hconnected
  obtain ⟨hbuiltIn, hsome⟩ := hconnected
  obtain ⟨n, hn⟩ := Option.isSome_iff_exists.1 hsome
  rw [h.id_eq, h.location_eq]
  exact ⟨⟨n, hn, isDecorated_of_location? hn⟩, fun m => not_isDecorated_of_builtIn? m hbuiltIn⟩

end Declarations

/-- **The lists of a module that was read.** Each variable that belongs to no function stands for
one resource of one class, or for none, and the list of a class holds its resources in the order of
the variables. The type of a resource is that below its arrays, with their extents in front. It is
of the kind that the class holds, and what connects stages has a location and is not built in.

**Proof sketch.** The reader goes through the variables one by one, and what it finds behind each is
what `yields_of_resource?` says. The rest follows for the variable that a resource comes from. -/
theorem toModule_resources {is : List Instruction} {words : List UInt32} {b : BinaryModule}
    (h : (Declarations.ofInstructions is).toModule words = .ok b) :
    ∃ found : List (Option (ResourceClass × Resource)),
      List.Forall₂ (Declarations.ofInstructions is).Yields (is.filterMap (·.outerVariable?)) found ∧
      ∀ c, b.reflected.resources.ofClass c =
          ((found.filterMap id).filter (·.1 == c)).map (·.2) ∧
        ∀ r ∈ b.reflected.resources.ofClass c,
          (∃ v ∈ is.filterMap (·.outerVariable?), ∃ pointee extents inner, r.id = v.id ∧
            (Declarations.ofInstructions is).typeDecl? v.type = some (.pointer pointee) ∧
            (Declarations.ofInstructions is).IsArrayOf pointee extents r.baseType ∧
            (Declarations.ofInstructions is).resolve r.baseType = .ok inner ∧
            r.ty = { inner with extents := extents ++ inner.extents }) ∧
          c.Holds r.ty.base ∧
          (c = .stageInput ∨ c = .stageOutput →
            (∃ n, r.location = some n ∧ Declarations.IsDecorated is r.id (.location n)) ∧
            ∀ n, ¬ Declarations.IsDecorated is r.id (.builtIn n)) := by
  obtain ⟨-, -, -, hresources⟩ := Declarations.toModule_eq_ok h
  simp only [Declarations.resources, Result.bind_eq_ok_iff] at hresources
  obtain ⟨found, hfound, hlists⟩ := hresources
  rw [Declarations.variableDecls_ofInstructions] at hfound
  have hyields : List.Forall₂ (Declarations.ofInstructions is).Yields
      (is.filterMap (·.outerVariable?)) found :=
    (Result.mapM_eq_ok_iff.1 hfound).imp fun _ _ hv => Declarations.yields_of_resource? hv
  have hlists : .ofList (found.filterMap id) = b.reflected.resources := Except.ok.inj hlists
  refine ⟨found, hyields, fun c => ?_⟩
  rw [← hlists]
  refine ⟨Resources.ofClass_ofList _ c, fun r hr => ?_⟩
  obtain ⟨entry, hentry, rfl⟩ := List.mem_filterMap.1 (Resources.mem_ofClass_ofList.1 hr)
  obtain ⟨v, hv, hresource⟩ := Result.forall₂_mem_right hyields hentry
  obtain ⟨pointee, extents, inner, hpointer, harray, hinner, hty⟩ := hresource.type
  have hbase : r.ty.base = inner.base := by rw [hty]
  refine ⟨⟨v, hv, pointee, extents, inner, hresource.id_eq, hpointer, harray, hinner, hty⟩, ?_,
    hresource.interface⟩
  rw [hbase]
  exact hresource.hasClass.holds hinner

/-- A module with arrays of images, two inputs in the order of their declaration, an output that is
built in though it has a location, and a variable of a function. -/
def wiredInstructions : List Instruction :=
  [⟨.decorate, [.id 35, .value .decoration 30, .integer 1]⟩,
   ⟨.decorate, [.id 36, .value .decoration 30, .integer 0]⟩,
   ⟨.decorate, [.id 37, .value .decoration 30, .integer 0]⟩,
   ⟨.decorate, [.id 37, .value .decoration 11, .value .builtIn 0]⟩,
   ⟨.typeFloat, [.result 1, .integer 32]⟩,
   ⟨.typeImage, [.result 2, .id 1, .value .dim 1, .integer 0, .integer 0, .integer 0, .integer 1]⟩,
   ⟨.typeImage, [.result 3, .id 1, .value .dim 2, .integer 0, .integer 0, .integer 0, .integer 2]⟩,
   ⟨.typeSampledImage, [.result 4, .id 2]⟩,
   ⟨.typeInt, [.result 6, .integer 32, .integer 0]⟩,
   ⟨.constant, [.resultType 6, .result 7, .integer 4]⟩,
   ⟨.typeArray, [.result 8, .id 4, .id 7]⟩,
   ⟨.typeRuntimeArray, [.result 9, .id 3]⟩,
   ⟨.typeArray, [.result 10, .id 9, .id 7]⟩,
   ⟨.typePointer, [.result 21, .value .storageClass 0, .id 8]⟩,
   ⟨.typePointer, [.result 22, .value .storageClass 0, .id 10]⟩,
   ⟨.typePointer, [.result 23, .value .storageClass 0, .id 2]⟩,
   ⟨.typePointer, [.result 25, .value .storageClass 1, .id 1]⟩,
   ⟨.typePointer, [.result 26, .value .storageClass 3, .id 1]⟩,
   ⟨.typePointer, [.result 27, .value .storageClass 7, .id 1]⟩,
   ⟨.variableOp, [.resultType 21, .result 31, .value .storageClass 0]⟩,
   ⟨.variableOp, [.resultType 22, .result 32, .value .storageClass 0]⟩,
   ⟨.variableOp, [.resultType 23, .result 33, .value .storageClass 0]⟩,
   ⟨.variableOp, [.resultType 25, .result 35, .value .storageClass 1]⟩,
   ⟨.variableOp, [.resultType 25, .result 36, .value .storageClass 1]⟩,
   ⟨.variableOp, [.resultType 26, .result 37, .value .storageClass 3]⟩,
   ⟨.variableOp, [.resultType 27, .result 39, .value .storageClass 7]⟩]

/-- The resources of that module. -/
def wiredResources : Resources where
  combinedImageSamplers :=
    [{ ty := { base := .sampledImage .d2, extents := [4] }, id := 31, baseType := 4 }]
  storageImages :=
    [{ ty := { base := .image .d3 false, extents := [4, 0] }, id := 32, baseType := 3 }]
  sampledImages := [{ ty := { base := .image .d2 true }, id := 33, baseType := 2 }]
  stageInputs :=
    [{ ty := .float32, id := 35, baseType := 1, location := some 1 },
     { ty := .float32, id := 36, baseType := 1, location := some 0 }]

/-- That module. -/
def wiredModule : BinaryModule where
  version := (0, 0)
  entryPoints := []
  reflected := { origin := .binary, resources := wiredResources }

/-- The module is read, and its lists are those of its variables.

Two of the variables are no resources: the output that is built in, and the one of a function. -/
theorem toModule_resources_wiredInstructions :
    (Declarations.ofInstructions wiredInstructions).toModule [] = .ok wiredModule ∧
      ∃ found, List.Forall₂ (Declarations.ofInstructions wiredInstructions).Yields
          (wiredInstructions.filterMap (·.outerVariable?)) found ∧
        ∀ c, wiredResources.ofClass c = ((found.filterMap id).filter (·.1 == c)).map (·.2) := by
  have h : (Declarations.ofInstructions wiredInstructions).toModule [] = .ok wiredModule := by cbv
  obtain ⟨found, hfound, hlists⟩ := toModule_resources h
  exact ⟨h, found, hfound, fun c => (hlists c).1⟩

end Spirv

end ShaderBindings
