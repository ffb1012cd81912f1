import Mathlib.Data.List.Induction
import Mathlib.Data.List.Nodup
import ShaderBindings.Proofs.Vulkan.PipelineParts
import ShaderBindings.Vulkan.Pipe
/-!
# Creating a pipeline with specialization data

Specialization data is set stage by stage before a pipeline is created, and data that is set again
takes the place of what was there. The creation looks the data of each stage up, and makes one call,
or none if the name of an entry point cannot be passed on.

## Main definitions

* `PipeOptions.specializeEach` - setting data by one call after the other.
* `lastInfo?` - the data that was set for a stage last.
* `DeviceCall.pipelineStages?` - the stages that a call makes a pipeline of.

## Main results

* `PipeOptions.specialization?_specialize`, `nodup_specialize` - what one call leaves behind.
* `PipeOptions.specialization?_specializeEach`, `nodup_specializeEach` - what a run leaves behind.
* `createPipe_of_zero`, `createPipe_of_compute`, `createPipe_of_graphics` - the call that is made.
* `createPipe_specializeEach` - creating a pipeline after a run of calls.
-/

set_option autoImplicit false

namespace ShaderBindings.Vulkan

/-! ## Setting data -/

/-- The data that was set for a stage last. -/
def lastInfo? (calls : List (Nat × SpecInfo)) (stage : Nat) : Option SpecInfo :=
  (calls.filter (·.1 == stage)).getLast?.map (·.2)

/-- One more call is the last one for its own stage, and changes nothing for others. -/
theorem lastInfo?_append (calls : List (Nat × SpecInfo)) (call : Nat × SpecInfo) (stage : Nat) :
    lastInfo? (calls ++ [call]) stage =
      if stage = call.1 then some call.2 else lastInfo? calls stage := by
  rw [lastInfo?, List.filter_append]
  by_cases heq : stage = call.1
  · simp [heq]
  · simp [heq, Ne.symm heq, lastInfo?]

namespace PipeOptions

variable {o : PipeOptions} {stage : Nat} {info : SpecInfo}

/-- Setting data by one call after the other. -/
def specializeEach (o : PipeOptions) (calls : List (Nat × SpecInfo)) : PipeOptions :=
  calls.foldl (fun o call => o.specialize call.1 call.2) o

/-- The last call of a run is made on what the others leave. -/
theorem specializeEach_append (o : PipeOptions) (calls : List (Nat × SpecInfo))
    (call : Nat × SpecInfo) :
    o.specializeEach (calls ++ [call]) = (o.specializeEach calls).specialize call.1 call.2 := by
  rw [specializeEach, List.foldl_append]
  rfl

/-- Setting the data of a stage changes it, and that of no other stage.

**Proof sketch.** The entries of the stage are dropped, so that the new one at the end is the first
that is found. An entry of another stage is found where it was. -/
theorem specialization?_specialize (o : PipeOptions) (stage : Nat) (info : SpecInfo) (s : Nat) :
    (o.specialize stage info).specialization? s =
      if s = stage then some info else o.specialization? s := by
  rw [specialize, specialization?, List.find?_append, List.find?_filter]
  split
  · next heq =>
    subst heq
    have hdropped : o.specializations.find? (fun e => e.1 != s ∧ e.1 == s) = none := by
      simp [List.find?_eq_none]
    rw [hdropped]
    simp
  · next hne =>
    have hkept : o.specializations.find? (fun e => e.1 != stage ∧ e.1 == s) =
        o.specializations.find? (·.1 == s) := by
      congr 1
      funext e
      by_cases he : e.1 = s
      · simp [he, hne]
      · simp [he]
    rw [hkept, specialization?]
    simp [Ne.symm hne]

/-- Setting data keeps the stages apart.

**Proof sketch.** Data of the stage that was there before is taken out. -/
theorem nodup_specialize (h : (o.specializations.map (·.1)).Nodup) :
    ((o.specialize stage info).specializations.map (·.1)).Nodup := by
  rw [specialize, List.map_append]
  refine List.Nodup.append ?_ (List.nodup_singleton _) ?_
  · exact h.sublist (List.filter_sublist.map _)
  · intro s hs hlast
    obtain ⟨e, he, rfl⟩ := List.mem_map.1 hs
    have hne : e.1 ≠ stage := by simpa using (List.mem_filter.1 he).2
    exact hne (by simpa using hlast)

/-- After a run of calls each stage has the data that was set for it last. -/
theorem specialization?_specializeEach (ho : o.specializations = [])
    (calls : List (Nat × SpecInfo)) (stage : Nat) :
    (o.specializeEach calls).specialization? stage = lastInfo? calls stage := by
  induction calls using List.reverseRecOn with
  | nil => simp [specializeEach, specialization?, lastInfo?, ho]
  | append_singleton calls call ih =>
    rw [specializeEach_append, specialization?_specialize, ih, lastInfo?_append]

/-- After a run of calls no stage has data twice. -/
theorem nodup_specializeEach (ho : o.specializations = []) (calls : List (Nat × SpecInfo)) :
    ((o.specializeEach calls).specializations.map (·.1)).Nodup := by
  induction calls using List.reverseRecOn with
  | nil => simp [specializeEach, ho]
  | append_singleton calls call ih =>
    rw [specializeEach_append]
    exact nodup_specialize ih

end PipeOptions

/-! ## The call that is made -/

/-- The stages that a call makes a pipeline of. Other calls have none, which is not the same as a
pipeline without stages. -/
def DeviceCall.pipelineStages? : DeviceCall → Option (List StageInfo)
  | createComputePipeline info _ => some [info.stage]
  | createGraphicsPipeline info _ => some info.stages
  | _ => none

/-- The call makes a compute pipeline. -/
def DeviceCall.MakesCompute (call : DeviceCall) : Prop :=
  ∃ info answer, call = .createComputePipeline info answer

/-- The call makes a graphics pipeline. -/
def DeviceCall.MakesGraphics (call : DeviceCall) : Prop :=
  ∃ info answer, call = .createGraphicsPipeline info answer

section CreatePipe

variable {d : Device} {layout : Nat} {stages : List StageEntry} {vertex : VertexState}
  {o : PipeOptions}

/-- The check for names finds a zero character if there is one. -/
theorem any_not_isPlainName_iff :
    (stages.any fun s => !isPlainName s.entry) = true ↔ ∃ s ∈ stages, '\x00' ∈ s.entry.toList := by
  simp [isPlainName]

/-- If a name has a zero character, no call is made. -/
theorem createPipe_of_zero (h : ∃ s ∈ stages, '\x00' ∈ s.entry.toList) :
    createPipe d layout stages vertex o = (.error initializationFailed, d) := by
  rw [createPipe, if_pos (any_not_isPlainName_iff.2 h)]

/-- A lone compute stage makes a compute pipeline.

**Proof sketch.** Its name has no zero character, and the bit of the stage is that of compute
stages. -/
theorem createPipe_of_compute {s : StageEntry} (hplain : '\x00' ∉ s.entry.toList)
    (hcompute : s.stage = computeBit) :
    createPipe d layout [s] vertex o =
      d.create (.createComputePipeline
        { cache := o.cache, flags := o.flags, stage := s.info o, layout }) := by
  have hnames : ¬([s].any fun s => !isPlainName s.entry) = true := by
    rw [any_not_isPlainName_iff]
    simpa using hplain
  rw [createPipe, if_neg hnames]
  exact if_pos hcompute

/-- All other stages make a graphics pipeline.

**Proof sketch.** By the number of stages: only a single one could be a compute stage. -/
theorem createPipe_of_graphics (hplain : ¬∃ s ∈ stages, '\x00' ∈ s.entry.toList)
    (hgraphics : ¬∃ s, stages = [s] ∧ s.stage = computeBit) :
    createPipe d layout stages vertex o =
      d.create (.createGraphicsPipeline
        (graphicsInfo layout (stages.map (·.info o)) vertex o)) := by
  rw [createPipe, if_neg (mt any_not_isPlainName_iff.1 hplain)]
  match stages, hgraphics with
  | [], _ => rfl
  | [s], hgraphics => exact if_neg fun hcompute => hgraphics ⟨s, rfl, hcompute⟩
  | _ :: _ :: _, _ => rfl

/-- Names without a zero character lead to one call, for the stages with their data.

**Proof sketch.** Either the stages are a lone compute stage (`createPipe_of_compute`) or they are
not (`createPipe_of_graphics`). In both cases the call takes the stages with their data. -/
theorem exists_create_of_createPipe (d : Device) (layout : Nat) (vertex : VertexState)
    (o : PipeOptions) (hplain : ¬∃ s ∈ stages, '\x00' ∈ s.entry.toList) :
    ∃ call : Outcome → DeviceCall, createPipe d layout stages vertex o = d.create call ∧
      ∀ answer, (call answer).pipelineStages? = some (stages.map (·.info o)) ∧
        ((call answer).MakesCompute ↔ ∃ s, stages = [s] ∧ s.stage = computeBit) ∧
        ((call answer).MakesGraphics ↔ ¬∃ s, stages = [s] ∧ s.stage = computeBit) := by
  by_cases hcompute : ∃ s, stages = [s] ∧ s.stage = computeBit
  · have hlone := hcompute
    obtain ⟨s, rfl, hs⟩ := hlone
    have hname : '\x00' ∉ s.entry.toList := fun h => hplain ⟨s, List.mem_singleton_self s, h⟩
    refine ⟨_, createPipe_of_compute hname hs, fun answer => ⟨rfl, ?_, ?_⟩⟩
    · exact iff_of_true ⟨_, _, rfl⟩ hcompute
    · refine iff_of_false ?_ (not_not.2 hcompute)
      rintro ⟨info, answer', h⟩
      cases h
  · refine ⟨_, createPipe_of_graphics hplain hcompute, fun answer => ⟨rfl, ?_, ?_⟩⟩
    · refine iff_of_false ?_ hcompute
      rintro ⟨info, answer', h⟩
      cases h
    · exact iff_of_true ⟨_, _, rfl⟩ hcompute

end CreatePipe

/-- **Creating a pipeline after a run of calls that set specialization data.** No stage has data
twice. If the name of an entry point has a zero character, the creation fails and the device is left
alone, and only then. Otherwise one call is made. It has the stages in order, each with the data
that was set last for just this stage, and makes a compute pipeline exactly of a lone compute stage.
What the device answers is returned.

**Proof sketch.** A run of calls leaves each stage with the data that was set for it last, by
induction on the calls. This is what the creation looks up. -/
theorem createPipe_specializeEach {o : PipeOptions} (ho : o.specializations = [])
    (calls : List (Nat × SpecInfo)) (d : Device) (layout : Nat) (stages : List StageEntry)
    (vertex : VertexState) :
    ((o.specializeEach calls).specializations.map (·.1)).Nodup ∧
    ∃ result d', createPipe d layout stages vertex (o.specializeEach calls) = (result, d') ∧
      (result = .error initializationFailed ∧ d' = d ↔ ∃ s ∈ stages, '\x00' ∈ s.entry.toList) ∧
      ((∀ s ∈ stages, '\x00' ∉ s.entry.toList) →
        (∃ call, d' = { d with created := d.created + 1, calls := d.calls.push call } ∧
          call.pipelineStages? = some (stages.map fun s =>
            { stage := s.stage, module := s.module, name := s.entry,
              specialization := lastInfo? calls s.stage }) ∧
          (call.MakesCompute ↔ ∃ s, stages = [s] ∧ s.stage = computeBit) ∧
          (call.MakesGraphics ↔ ¬∃ s, stages = [s] ∧ s.stage = computeBit)) ∧
        (d.failAt ≠ some (d.created + 1) → result = .ok (d.handle (d.created + 1))) ∧
        (d.failAt = some (d.created + 1) → d.failCode ≠ 0 → result = .error d.failCode)) := by
  refine ⟨PipeOptions.nodup_specializeEach ho calls, ?_⟩
  have hinfo (s : StageEntry) : s.info (o.specializeEach calls) =
      { stage := s.stage, module := s.module, name := s.entry,
        specialization := lastInfo? calls s.stage } := by
    rw [StageEntry.info, PipeOptions.specialization?_specializeEach ho]
  by_cases hzero : ∃ s ∈ stages, '\x00' ∈ s.entry.toList
  · refine ⟨_, _, createPipe_of_zero hzero, iff_of_true ⟨rfl, rfl⟩ hzero, fun hplain => ?_⟩
    obtain ⟨s, hs, hname⟩ := hzero
    exact absurd hname (hplain s hs)
  · obtain ⟨call, hcreate, hcall⟩ :=
      exists_create_of_createPipe d layout vertex (o.specializeEach calls) hzero
    refine ⟨(d.create call).1, (d.create call).2, hcreate, iff_of_false ?_ hzero,
      fun _ => ⟨⟨_, rfl, ?_⟩, ?_, ?_⟩⟩
    · rintro ⟨-, hsame⟩
      have hcreated : d.created + 1 = d.created := congrArg Device.created hsame
      omega
    · have hanswer := hcall (d.answer (d.created + 1))
      simp only [hinfo] at hanswer
      exact hanswer
    · intro hanswered
      rw [Device.create_of_answered call hanswered]
    · intro hfails hcode
      rw [Device.create_of_fails call hfails hcode]

/-- Data is set for the vertex stage, the fragment stage, the vertex stage again, and for both. -/
def stageCalls : List (Nat × SpecInfo) :=
  [(1, { data := [1] }), (16, { data := [2] }), (1, { data := [3] }), (17, { data := [4] })]

/-- A vertex stage, a geometry stage and a fragment stage. -/
def drawingStages : List StageEntry :=
  [{ stage := 1, module := 5, entry := "main" }, { stage := 8, module := 6, entry := "main" },
    { stage := 16, module := 7, entry := "shade" }]

/-- The vertex stage gets what was set for it last, and the geometry stage gets nothing.

What was set for a stage that the pipeline does not have is not used. -/
theorem createPipe_drawingStages :
    ∃ d' call, createPipe {} 9 drawingStages {} (({} : PipeOptions).specializeEach stageCalls) =
        (.ok 1, d') ∧ d'.calls = #[call] ∧ call.MakesGraphics ∧
      call.pipelineStages? = some
        [{ stage := 1, module := 5, name := "main", specialization := some { data := [3] } },
         { stage := 8, module := 6, name := "main", specialization := none },
         { stage := 16, module := 7, name := "shade",
           specialization := some { data := [2] } }] := by
  obtain ⟨-, result, d', hcreate, -, hone⟩ :=
    createPipe_specializeEach (o := {}) rfl stageCalls {} 9 drawingStages {}
  obtain ⟨⟨call, rfl, hstages, -, hgraphics⟩, hok, -⟩ := hone (by decide)
  rw [hok (by decide)] at hcreate
  refine ⟨_, call, hcreate, rfl, hgraphics.2 ?_, hstages⟩
  rintro ⟨s, hlone, -⟩
  cases hlone

end ShaderBindings.Vulkan
