import ShaderBindings.Proofs.Host.Numbers
import ShaderBindings.Proofs.Interface.DescriptorSets
import ShaderBindings.Proofs.Interface.PushRanges
import ShaderBindings.Proofs.Interface.VertexInput
import ShaderBindings.Proofs.Program.Structs
import ShaderBindings.Proofs.Source.Print
import ShaderBindings.Proofs.Struct.Failures
/-!
# The numbers of a program

Everything that a program is made of is followed through its steps: whatever a module declares, the
steps report what is wrong with it and never run into a sum or a product that is no word, if only
those that are not checked are words. These are the bytes of a column, the inner elements of an
array and the numbers of vertex attributes; without any such condition no difference is ever
negative. A number that does not fit and is checked is reported as an error of the layout.

## Main definitions

* `ShaderModule.HasWordMembers`, `HasWordInputs` - the numbers that are not checked are words.
* `ShaderModule.IsHosted` - all types in buffer blocks have counterparts on the host.
* `Program.FitsWords` - the numbers of a program are words.

## Main results

* `ShaderBindings.failsOnly_build` - how building a program can fail.
* `ShaderBindings.build_ne_subtract` - no difference is negative, whatever the modules are.
* `ShaderBindings.fitsWords_of_build`, `exists_print` - the numbers of a program are words, and it
  can be printed.
* `ShaderBindings.exists_layout_of_isTooLarge` - what is too large is reported.
* `ShaderBindings.build_words` - all of it together.
-/

set_option autoImplicit false

namespace ShaderBindings

open Result

/-- A computed quantity is no word. -/
def Error.isOverflow : Error → Bool
  | overflow _ => true
  | _ => false

/-! ## Conditions on modules -/

namespace ShaderModule

/-- The products that are not checked are words for all members of structs in buffer blocks. Sums
and products that are checked can fail all the same, with a failure that names the member. -/
def HasWordMembers (m : ShaderModule) : Prop :=
  ∀ id st, m.IsReachable id → m.struct? id = some st → ∀ mem ∈ st.members, mem.IsWordSized

/-- If the module is a vertex shader, the numbers of the attributes of its inputs are words. -/
def HasWordInputs (m : ShaderModule) : Prop :=
  ∀ entry, m.entryPoint = .ok entry → entry.stage = .vertex → ∀ i ∈ m.locatedInputs, i.IsWordSized

/-- The host has counterparts of the types of all members of structs in buffer blocks. Then no
member fails for its type. -/
def IsHosted (m : ShaderModule) : Prop :=
  ∀ id st, m.IsReachable id → m.struct? id = some st → ∀ mem ∈ st.members, mem.IsHosted

end ShaderModule

variable {options : Options} {modules : List ShaderModule} {all : List StageModule}
  {kind : Error → Prop}

/-! ## Modules of a program -/

namespace Staged

variable {entries : List EntryPoint} {s : StageModule}

/-- The modules of a program are those it was given. -/
theorem mem_modules (h : Staged options modules entries all) (hs : s ∈ all) :
    s.module ∈ modules :=
  h.modules ▸ List.mem_map_of_mem hs

/-- A module runs in the stage of its entry point.

**Proof sketch.** The module stands at some place of the list, and what was found for that place is
the entry point of the module given there. -/
theorem exists_entryPoint (h : Staged options modules entries all)
    (hentries : (modules.zipIdx.mapM fun (m, i) => m.pipelineEntry i) = .ok entries)
    (hs : s ∈ all) : ∃ entry, s.module.entryPoint = .ok entry ∧ entry.stage = s.stage := by
  obtain ⟨i, hi⟩ := List.mem_iff_getElem?.1 hs
  have hmodule : modules[i]? = some s.module := by
    rw [← h.modules, List.getElem?_map, hi]
    rfl
  have hstage : (entries.map (·.stage))[i]? = some s.stage := by
    rw [← h.stages, List.getElem?_map, hi]
    rfl
  rw [List.getElem?_map, Option.map_eq_some_iff] at hstage
  obtain ⟨entry, hentry, hstage⟩ := hstage
  have hzip : modules.zipIdx[i]? = some (s.module, i) := by
    simp [List.getElem?_zipIdx, hmodule]
  have hown : s.module.pipelineEntry i = .ok entry := eq_ok_of_mapM hentries hzip hentry
  refine ⟨entry, ?_, hstage⟩
  unfold ShaderModule.pipelineEntry at hown
  split at hown
  · cases hown
  · cases hown
  · next found hfound =>
    split at hown
    · cases hown
      exact hfound
    · cases hown

/-- What naming says of one module: nothing inside its buffer blocks is missing, all of it has a
name, and what the module declares is part of it.

**Proof sketch.** Naming went through for the place of the module (`naming_of_nameStructs`). So its
walk succeeded, which is closedness (`ShaderModule.exists_reachable_iff`), and what it declares is
taken from the walk. -/
theorem reachable (h : Staged options modules entries all) (hs : s ∈ all) :
    s.module.IsClosed ∧ (∀ id, s.module.IsReachable id → (s.structs.names.get? id).isSome) ∧
      ∀ id ∈ s.structs.emit, s.module.IsReachable id := by
  obtain ⟨i, hi⟩ := List.mem_iff_getElem?.1 hs
  have hnaming := naming_of_nameStructs h.structs
  have hnamed : (all.map StageModule.named)[i]? = some s.named := by
    rw [List.getElem?_map, hi]
    rfl
  have hstructs : (all.map (·.structs))[i]? = some s.structs := by
    rw [List.getElem?_map, hi]
    rfl
  obtain ⟨order, horder, hemit⟩ := hnaming.emit i s.named s.structs hnamed hstructs
  refine ⟨ShaderModule.exists_reachable_iff.1 ⟨order, horder⟩, fun id hid => ?_, fun id hid => ?_⟩
  · obtain ⟨name, hname⟩ := (hnaming.domain i id).2 ⟨s.named, hnamed, hid⟩
    rw [finalName_map_structs hi] at hname
    rw [hname]
    rfl
  · rw [hemit] at hid
    exact (ShaderModule.mem_of_reachable horder id).1 (List.mem_filter.1 hid).1

end Staged

/-! ## Failures -/

section Failures

variable (hdesign : ∀ e, e.isOverflow = false → kind e)

include hdesign

/-- Finding the entry point of a module never runs into a number that is no word. -/
theorem failsOnly_pipelineEntry (m : ShaderModule) (index : Nat) :
    FailsOnly kind (m.pipelineEntry index) := by
  have hentry : FailsOnly kind m.entryPoint := by
    unfold ShaderModule.entryPoint
    split
    · exact failsOnly_error.2 (hdesign _ rfl)
    · split
      · exact failsOnly_error.2 (hdesign _ rfl)
      · exact failsOnly_ok
  unfold ShaderModule.pipelineEntry
  split
  · exact failsOnly_error.2 (hdesign _ rfl)
  · next e _ he => exact failsOnly_error.2 (hentry e he)
  · exact .ite (fun _ => failsOnly_ok) fun _ => failsOnly_error.2 (hdesign _ rfl)

/-- Naming the modules of a program never runs into a number that is no word. -/
theorem failsOnly_stageModules (options : Options) (modules : List ShaderModule) :
    FailsOnly kind (stageModules options modules) :=
  (FailsOnly.mapM fun _ _ => failsOnly_pipelineEntry hdesign _ _).bind fun _ _ =>
    (failsOnly_nameStructs (fun _ => hdesign _ rfl) _ _).bind fun _ _ => failsOnly_ok

/-- Collecting the constants of a module never runs into a number that is no word: the one error is
a type that cannot be set. -/
theorem failsOnly_specializations (m : ShaderModule) : FailsOnly kind m.specializations := by
  have hkind (context : String) (t : ShaderType) : FailsOnly kind (SpecKind.ofType context t) := by
    unfold SpecKind.ofType
    refine .ite (fun _ => failsOnly_error.2 (hdesign _ rfl)) fun _ => ?_
    split
    all_goals first | exact failsOnly_ok | exact failsOnly_error.2 (hdesign _ rfl)
  refine FailsOnly.map (.foldlM (fun entries c => ?_) _ _)
  simp only [ShaderModule.addSpec]
  cases entries.get? c.2.constantId with
  | some _ => exact failsOnly_ok
  | none => exact (hkind _ _).bind fun _ _ => failsOnly_ok

end Failures

/-- The structs that a module declares fail as their layout does.

**Proof sketch.** What a module declares is reachable, so it is found, and the layout covers it. -/
theorem failsOnly_declarations {s : StageModule} (h : s.layout.CoveredBy kind)
    (hemit : ∀ id ∈ s.structs.emit, s.module.IsReachable id) :
    FailsOnly kind s.declarations := by
  refine FailsOnly.mapM fun id hid => ?_
  have hreachable := hemit id hid
  refine (ShaderModule.failsOnly_struct (h.found id hreachable)).bind fun st hst => ?_
  rw [ShaderModule.struct_eq_ok_iff] at hst
  obtain rfl := ShaderModule.id_of_struct?_eq_some hst
  exact h.failsOnly_declaration hreachable hst

/-- **How a program can fail.** A kind that takes in all failures by design takes in all failures,
if it takes in those of the products and sums that are not checked or if these are words.

**Proof sketch.** Every step is followed in turn. The modules of the program are those given, so
what is known of these holds for each. -/
theorem failsOnly_build (hdesign : ∀ e, e.isOverflow = false → kind e)
    (hmembers : (∀ m ∈ modules, m.HasWordMembers) ∨ kind (.overflow .multiply))
    (hinputs : (options.vertex → ∀ m ∈ modules, m.HasWordInputs) ∨
      ∀ op, op ≠ .subtract → kind (.overflow op)) : FailsOnly kind (build options modules) := by
  refine (failsOnly_stageModules hdesign options modules).bind fun all hall => ?_
  obtain ⟨entries, hentries, hstaged⟩ := exists_staged hall
  have hcovered (s : StageModule) (hs : s ∈ all) : s.layout.CoveredBy kind :=
    { layout := fun _ _ => hdesign _ rfl
      found := fun _ _ _ => ShaderModule.kind_missingStruct (fun _ => hdesign _ rfl) _ _
      named := fun _ _ _ => hdesign _ rfl
      members := fun id st hid hst mem hmem =>
        { types := .inr fun _ _ => hdesign _ rfl
          words := hmembers.imp_left fun h =>
            h s.module (hstaged.mem_modules hs) id st hid hst mem hmem } }
  have hvertex : FailsOnly kind (StageModule.vertexInput? options all) := by
    refine .ite (fun hwanted => ?_) fun _ => failsOnly_ok
    cases hfind : all.find? (·.stage == .vertex) with
    | none => exact failsOnly_ok
    | some s =>
      have hs : s ∈ all := List.mem_of_find?_eq_some hfind
      have hstage : s.stage = .vertex := by simpa using List.find?_some hfind
      obtain ⟨entry, hentry, heq⟩ := hstaged.exists_entryPoint hentries hs
      refine ShaderModule.failsOnly_vertexInput? (fun _ _ => hdesign _ rfl) ?_ _
      exact hinputs.imp_left fun h =>
        h hwanted s.module (hstaged.mem_modules hs) entry hentry (heq.trans hstage)
  have hsets : FailsOnly kind (aggregate (all.map fun s => (s.stage, s.module))) := by
    intro e he
    obtain ⟨_, _, _, _, _, _, _, _, _, rfl⟩ := exists_differs_of_aggregate he
    exact hdesign _ rfl
  have hranges : FailsOnly kind (pushRanges (all.map fun s => (s.stage, s.layout))) := by
    refine (FailsOnly.mapM fun x hx => ?_).bind fun _ _ => failsOnly_ok
    obtain ⟨s, hs, rfl⟩ := List.mem_map.1 hx
    exact ((hcovered s hs).failsOnly_pushBlockRanges? fun _ => hdesign _ rfl).bind
      fun _ _ => failsOnly_ok
  refine (FailsOnly.mapM fun s hs => ?_).bind fun structs _ => hvertex.bind fun vertex _ =>
    hsets.bind fun sets _ => hranges.bind fun ranges _ =>
      (FailsOnly.mapM fun s _ => ?_).bind fun _ _ => failsOnly_ok
  · exact failsOnly_declarations (hcovered s hs) (hstaged.reachable hs).2.2
  · exact (failsOnly_specializations hdesign s.module).bind fun _ _ => failsOnly_ok

/-- Whatever the modules are, no difference is negative. -/
theorem build_ne_subtract (options : Options) (modules : List ShaderModule) :
    build options modules ≠ .error (.overflow .subtract) := by
  have hkind : FailsOnly (fun e => e ≠ .overflow .subtract) (build options modules) := by
    refine failsOnly_build (fun e he heq => ?_) (.inr (by simp)) (.inr (by simp))
    rw [heq] at he
    cases he
  exact fun h => hkind _ h rfl

/-! ## Numbers of a program -/

/-- The numbers of a program are words. The sizes of its structs are, and their fields lie within
them; fillers are counted below the number of fields; locations and offsets of attributes are words;
and push-constant ranges have bytes and end at a word. -/
structure Program.FitsWords (p : Program) : Prop where
  sizes : ∀ d ∈ p.structs, d.size < Word.bound
  fields : ∀ d ∈ p.structs, ∀ f ∈ d.fields, f.offset + f.size ≤ d.size
  fillers : ∀ d ∈ p.structs, ∀ f ∈ d.fields, f.padding →
    ∃ n, n < d.fields.length ∧ f.name = Layout.fillerName n
  attributes : ∀ v, p.vertex = some v → ∀ a ∈ v.attributes,
    a.location < Word.bound ∧ a.offset < Word.bound
  pushRanges : ∀ r ∈ p.pushRanges, r.start < r.stop ∧ r.stop < Word.bound

/-- The ranges of a push-constant block end at words.

**Proof sketch.** Induction on the members. The end of each is a checked sum, and a range ends where
one of its members does. -/
theorem stop_lt_of_joinMembers {l : Layout} {block : StructType} {current : Option ByteRange}
    {members : List Member} {ranges : List ByteRange}
    (h : l.joinMembers block current members = .ok ranges)
    (hcurrent : ∀ r ∈ current, r.stop < Word.bound) : ∀ r ∈ ranges, r.stop < Word.bound := by
  induction members generalizing current ranges with
  | nil =>
    cases h
    simpa using hcurrent
  | cons mem rest ih =>
    simp only [Layout.joinMembers, bind_eq_ok_iff, inWord_add?_eq_ok_iff] at h
    obtain ⟨⟨field, align⟩, -, stop, ⟨hlt, rfl⟩, h⟩ := h
    cases current with
    | none => exact ih h (by simpa using hlt)
    | some range =>
      obtain ⟨-, h⟩ := ite_error_eq_ok_iff.1 h
      split at h
      · exact ih h (by simpa using hlt)
      · obtain ⟨others, hothers, h⟩ := bind_eq_ok_iff.1 h
        cases h
        exact List.forall_mem_cons.2 ⟨hcurrent range rfl, ih hothers (by simpa using hlt)⟩

/-- Push-constant ranges have bytes and end at words.

**Proof sketch.** A range ends where one of the given ranges does
(`exists_stop_le_of_mem_mergeRanges`), and those are made of members (`stop_lt_of_joinMembers`). -/
theorem lt_of_pushRanges {given : List (Stage × Layout)} {ranges : List PushRange}
    (h : pushRanges given = .ok ranges) : ∀ r ∈ ranges, r.start < r.stop ∧ r.stop < Word.bound := by
  obtain ⟨found, hfound, h⟩ := bind_eq_ok_iff.1 h
  cases h
  intro r hr
  obtain ⟨hlt, s, hs, part, hpart, hle⟩ := exists_stop_le_of_mem_mergeRanges hr
  refine ⟨hlt, Nat.lt_of_le_of_lt hle ?_⟩
  obtain ⟨own, hown, hsome⟩ := List.mem_filterMap.1 hs
  obtain ⟨⟨stage, l⟩, -, hl⟩ := forall₂_mem_right (mapM_eq_ok_iff.1 hfound) hown
  obtain ⟨block?, hblock, hl⟩ := bind_eq_ok_iff.1 hl
  cases hl
  obtain ⟨ranges, rfl, rfl⟩ := Option.map_eq_some_iff.1 hsome
  unfold Layout.pushBlockRanges? at hblock
  split at hblock
  · cases hblock
  · split at hblock
    · cases hblock
    · obtain ⟨st, -, hst⟩ := bind_eq_ok_iff.1 hblock
      obtain ⟨ranges', hranges, heq⟩ := map_eq_ok_iff.1 hst
      cases heq
      exact stop_lt_of_joinMembers hranges (by simp) part hpart

/-- The numbers of every program that can be built are words.

**Proof sketch.** One field of `Program.FitsWords` after the other. Sizes come from
`Layout.exactSize_of_structSize`, fields from `Layout.tiles_of_declaration`, fillers from
`Layout.exists_number_of_declaration`, attributes from `ShaderModule.attribute_lt_of_vertexInput?`
and ranges from `lt_of_pushRanges`. -/
theorem fitsWords_of_build {program : Program} (h : build options modules = .ok program) :
    program.FitsWords := by
  have hdecls (d : StructDecl) (hd : d ∈ program.structs) :
      ∃ l st, Layout.declaration l st = .ok d := by
    obtain ⟨all, structs, -, hstructs, heq⟩ := exists_structs_of_build h
    obtain ⟨decls, hdecls, hd⟩ := List.mem_flatten.1 (heq ▸ hd)
    obtain ⟨s, -, hs⟩ := forall₂_mem_right (mapM_eq_ok_iff.1 hstructs) hdecls
    obtain ⟨id, -, st, -, hown⟩ := forall₂_mem_right (declarations_eq_ok_iff.1 hs) hd
    exact ⟨_, st, hown⟩
  simp only [build, bind_eq_ok_iff] at h
  obtain ⟨all, -, structs, -, vertex, hvertex, sets, -, ranges, hranges, stages, -, h⟩ := h
  constructor
  case sizes =>
    intro d hd
    obtain ⟨l, st, hown⟩ := hdecls d hd
    obtain ⟨name, size, laid, -, hsize, -, -, -, rfl⟩ := Layout.declaration_eq_ok_iff.1 hown
    exact (Layout.exactSize_of_structSize hsize).2
  case fields =>
    intro d hd
    obtain ⟨l, st, hown⟩ := hdecls d hd
    exact (Layout.tiles_of_declaration hown).le.2
  case fillers =>
    intro d hd f hf hpadding
    obtain ⟨l, st, hown⟩ := hdecls d hd
    exact Layout.exists_number_of_declaration hown hf hpadding
  case attributes =>
    intro v hv a ha
    have hv' : vertex = some v := by
      cases h
      exact hv
    rw [hv'] at hvertex
    unfold StageModule.vertexInput? at hvertex
    split at hvertex
    · split at hvertex
      · exact ShaderModule.attribute_lt_of_vertexInput? hvertex ha
      · cases hvertex
    · cases hvertex
  case pushRanges =>
    cases h
    exact lt_of_pushRanges hranges

/-- Printing takes the size of every push-constant range, and no range ends before it starts. -/
theorem exists_print {program : Program} (h : program.FitsWords) (options : Options) :
    ∃ text, program.print options = .ok text :=
  Program.exists_print_iff.2 fun r hr => (h.pushRanges r hr).1.le

/-! ## Reports -/

/-- A declared struct with a size or an end beyond a word is reported as an error of the layout,
unless a type without a counterpart is met before.

**Proof sketch.** Such a struct has no declaration. The structs of the program are all there and
have names, so declaring them fails for their layout or for a type only. -/
theorem exists_layout_of_isTooLarge (hmembers : ∀ m ∈ modules, m.HasWordMembers)
    (hall : stageModules options modules = .ok all) {s : StageModule} (hs : s ∈ all)
    {st : StructType} (hemit : st.id ∈ s.structs.emit) (hst : s.module.struct? st.id = some st)
    (hlarge : s.layout.IsTooLarge st) :
    ∃ e, build options modules = .error e ∧
      (e.isLayout ∨ e.isUnsupportedType ∧ ¬∀ m ∈ modules, m.IsHosted) := by
  obtain ⟨entries, -, hstaged⟩ := exists_staged hall
  have hcovered (s : StageModule) (hs : s ∈ all) : s.layout.CoveredBy fun e =>
      e.isLayout ∨ e.isUnsupportedType ∧ ¬∀ m ∈ modules, m.IsHosted :=
    { layout := fun _ _ => .inl rfl
      found := fun id hid hnone =>
        absurd hnone (Option.isSome_iff_ne_none.1 ((hstaged.reachable hs).1.2 id hid))
      named := fun id hid hnone =>
        absurd hnone (Option.isSome_iff_ne_none.1 ((hstaged.reachable hs).2.1 id hid))
      members := fun id st hid hst mem hmem =>
        { types := by
            by_cases hhosted : ∀ m ∈ modules, m.IsHosted
            · exact .inl (hhosted s.module (hstaged.mem_modules hs) id st hid hst mem hmem)
            · exact .inr fun _ _ => .inr ⟨rfl, hhosted⟩
          words := .inl (hmembers s.module (hstaged.mem_modules hs) id st hid hst mem hmem) } }
  have hfails := FailsOnly.mapM fun s hs =>
    failsOnly_declarations (hcovered s hs) (hstaged.reachable hs).2.2
  cases hstructs : all.mapM StageModule.declarations with
  | error e => exact ⟨e, by simp [build, hall, hstructs, bind, Except.bind], hfails e hstructs⟩
  | ok structs =>
    obtain ⟨i, hi⟩ := List.mem_iff_getElem?.1 hs
    obtain ⟨decls, -, hdecls⟩ := forall₂_getElem? (mapM_eq_ok_iff.1 hstructs) hi
    obtain ⟨j, hj⟩ := List.mem_iff_getElem?.1 hemit
    obtain ⟨decl, -, st', hst', hdecl⟩ := forall₂_getElem? (declarations_eq_ok_iff.1 hdecls) hj
    cases hst.symm.trans hst'
    exact absurd hlarge (Layout.not_isTooLarge_of_declaration hdecl)

/-- **The numbers of a program.** If the products that are not checked are words, as well as the
numbers of vertex attributes where these are wanted, building a program never runs into a quantity
that is no word: it answers with a program or with what is wrong. A program that is built has words
for numbers throughout, and can be printed. A size or an end in a declared struct that is no word is
reported as an error of the layout, unless a type in a buffer block has no counterpart and is
reported.

**Proof sketch.** The first part is `failsOnly_build` for the errors that are no overflow, with the
two hypotheses as its conditions. The second one is `fitsWords_of_build` and `exists_print`, the
third one `exists_layout_of_isTooLarge`. -/
theorem build_words (options : Options) (modules : List ShaderModule)
    (hmembers : ∀ m ∈ modules, m.HasWordMembers)
    (hinputs : options.vertex → ∀ m ∈ modules, m.HasWordInputs) :
    (∀ op, build options modules ≠ .error (.overflow op)) ∧
      (∀ program, build options modules = .ok program →
        program.FitsWords ∧ ∃ text, program.print options = .ok text) ∧
      ∀ all, stageModules options modules = .ok all → ∀ s ∈ all, ∀ st, st.id ∈ s.structs.emit →
        s.module.struct? st.id = some st → s.layout.IsTooLarge st →
          ∃ e, build options modules = .error e ∧
            (e.isLayout ∨ e.isUnsupportedType ∧ ¬∀ m ∈ modules, m.IsHosted) := by
  refine ⟨fun op heq => ?_, fun program hprogram => ?_, fun all hall s hs st hemit hst hlarge => ?_⟩
  · have hkind : FailsOnly (fun e => e.isOverflow = false) (build options modules) :=
      failsOnly_build (fun _ he => he) (.inl hmembers) (.inl hinputs)
    cases hkind _ heq
  · have hfits := fitsWords_of_build hprogram
    exact ⟨hfits, exists_print hfits options⟩
  · exact exists_layout_of_isTooLarge hmembers hall hs hemit hst hlarge

/-- A vertex module with a matrix as its input and an array of arrays among its push constants. All
its numbers are words. -/
def countedStage : ShaderModule where
  entry := some { name := "main", model := "Vertex", stage := some .vertex }
  structs :=
    [{ id := 1, name := "Push", size := 112, members :=
        [{ name := "far", ty := { base := .float 64 }, offset := 8 },
         { name := "cells", ty := { base := .float 32, components := 3, extents := [2, 3] },
           offset := 16, arrayStride := some 48 }] }]
  resources :=
    { pushConstantBlocks := [{ ty := .struct 1 }]
      stageInputs := [{ name := "view", ty := .matrix .float32 4 4, location := some 1 }] }

/-- A fragment module whose block has one member. -/
def blockStage (size : Nat) (mem : Member) : ShaderModule where
  entry := some { name := "main", model := "Fragment", stage := some .fragment }
  structs := [{ id := 1, name := "S", size, members := [mem] }]
  resources := { uniformBuffers := [{ ty := .struct 1 }] }

/-- An array that takes one byte more than a word can count. -/
def vastArray : Member where
  name := "a"
  ty := { base := .float 32, extents := [0x40000000] }
  offset := 0
  arrayStride := some 4

/-- What is said of the structs of a module holds of all members of the reachable ones. -/
theorem ShaderModule.forall_members {m : ShaderModule} {P : Member → Prop}
    (h : ∀ st ∈ m.structs, ∀ mem ∈ st.members, P mem) :
    ∀ id st, m.IsReachable id → m.struct? id = some st → ∀ mem ∈ st.members, P mem :=
  fun _ st _ hst => h st (mem_of_struct?_eq_some hst)

/-- The products of this module are small. -/
theorem hasWordMembers_countedStage : countedStage.HasWordMembers := by
  refine ShaderModule.forall_members fun st hst mem hmem => ?_
  simp only [countedStage, List.mem_singleton] at hst
  subst hst
  simp only [List.mem_cons, List.not_mem_nil, or_false] at hmem
  rcases hmem with rfl | rfl
  all_goals exact ⟨fun s hs => by cases hs; decide, by decide⟩

/-- The numbers of its vertex attributes are small. -/
theorem hasWordInputs_countedStage : countedStage.HasWordInputs := by
  intro entry _ _ i hi context format hformat
  simp only [countedStage, ShaderModule.locatedInputs, List.filterMap_cons, List.filterMap_nil,
    Option.map_some, List.mergeSort_singleton, List.mem_singleton] at hi
  subst hi
  cases hformat
  exact ⟨by decide, by decide, by decide, fun _ => by decide, by decide⟩

/-- What is said of its member is said of a module with one. -/
theorem forall_members_blockStage {size : Nat} {mem : Member} {P : Member → Prop} (h : P mem) :
    ∀ id st, (blockStage size mem).IsReachable id → (blockStage size mem).struct? id = some st →
      ∀ mem ∈ st.members, P mem := by
  refine ShaderModule.forall_members fun st hst mem' hmem => ?_
  simp only [blockStage, List.mem_singleton] at hst
  subst hst
  obtain rfl := List.mem_singleton.1 hmem
  exact h

/-- A module with one block and nothing else has no inputs. -/
theorem hasWordInputs_blockStage (size : Nat) (mem : Member) :
    (blockStage size mem).HasWordInputs := by
  intro entry _ _ i hi
  simp [blockStage, ShaderModule.locatedInputs] at hi

/-- The first module makes a program of words, and the array of the second one is reported.

The second one has an array that ends behind the last word. Its types have counterparts, so the
error is that of the layout. -/
theorem build_words_countedStage :
    (∃ program, build {} [countedStage] = .ok program ∧ program.FitsWords ∧
      program.pushRanges = [{ start := 8, stop := 112, stages := {.vertex} }]) ∧
    ∃ e, build {} [blockStage 0xFFFFFFFC vastArray] = .error e ∧ e.isLayout := by
  constructor
  · obtain ⟨-, hfits, -⟩ := build_words {} [countedStage]
      (List.forall_mem_singleton.2 hasWordMembers_countedStage)
      fun _ => List.forall_mem_singleton.2 hasWordInputs_countedStage
    have hbuild : (build {} [countedStage]).map (·.pushRanges) =
        .ok [{ start := 8, stop := 112, stages := {.vertex} }] := by cbv
    obtain ⟨program, hprogram, hranges⟩ := map_eq_ok_iff.1 hbuild
    exact ⟨program, hprogram, (hfits program hprogram).1, hranges⟩
  · have hwords : vastArray.IsWordSized := ⟨fun s hs => by cases hs; decide, by decide⟩
    have hhosted : vastArray.IsHosted := ⟨fun _ => ⟨_, rfl⟩, fun h => by cases h⟩
    obtain ⟨-, -, hreport⟩ := build_words {} [blockStage 0xFFFFFFFC vastArray]
      (List.forall_mem_singleton.2 (forall_members_blockStage hwords))
      fun _ => List.forall_mem_singleton.2 (hasWordInputs_blockStage _ _)
    have hstages : (stageModules {} [blockStage 0xFFFFFFFC vastArray]).map
        (fun all => all.map fun s => (s.module, s.structs.emit)) =
        .ok [(blockStage 0xFFFFFFFC vastArray, [1])] := by cbv
    obtain ⟨all, hall, hparts⟩ := map_eq_ok_iff.1 hstages
    obtain ⟨s, rfl, hs⟩ := List.map_eq_singleton_iff.1 hparts
    obtain ⟨hmodule, hemit⟩ := Prod.mk.inj hs
    obtain ⟨e, he, hkind⟩ := hreport _ hall s List.mem_cons_self
      { id := 1, name := "S", size := 0xFFFFFFFC, members := [vastArray] } (by rw [hemit]; decide)
      (by rw [hmodule]; rfl) (.inr ⟨vastArray, List.mem_cons_self, 4, rfl, by decide⟩)
    refine ⟨e, he, hkind.resolve_right fun h => h.2 ?_⟩
    exact List.forall_mem_singleton.2 (forall_members_blockStage hhosted)

/-- **Products that are not checked.** The bytes of a column and the inner elements of an array can
be no words, and neither can the location of a vertex attribute. Then nothing is reported: the
failure is that of the operation.

Each of the three has one quantity that is too large: four bytes for each of 2^30 components, 2^16
times 2^16 inner elements, and four locations from the last but one on. -/
theorem exists_overflow :
    build {} [blockStage 16
        { name := "a", offset := 0, ty := ShaderType.float32.vector 0x40000000 }] =
          .error (.overflow .multiply) ∧
      build {} [blockStage 16 { vastArray with
        ty := { base := .float 32, extents := [1, 0x10000, 0x10000] } }] =
          .error (.overflow .multiply) ∧
      build {} [{ countedStage with resources := { stageInputs :=
        [{ name := "view", ty := .matrix .float32 4 4, location := some 0xFFFFFFFE }] } }] =
          .error (.overflow .add) :=
  ⟨by cbv, by cbv, by cbv⟩

end ShaderBindings
