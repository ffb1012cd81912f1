import Mathlib.Data.List.Nodup
import ShaderBindings.Proofs.Result
import ShaderBindings.Vulkan.PipelineParts
/-!
# The lifetime of the parts of a pipeline

The parts of a pipeline are created by one sequence of calls, and any of these can fail. Whatever
was created until then is destroyed again, so that no object is left behind and none is destroyed
twice; if no call fails, all objects live until the parts are dropped.

## Main definitions

* `DeviceCall.created?`, `DeviceCall.destroyed?` - the object that a call creates or destroys.
* `Device.upcoming` - the handles that the next creations return.
* `PipelineParts.plan` - the calls that create the parts, in order.
* `PipelineParts.ofHandles` - the parts, cut out of the handles that the plan returns.

## Main results

* `Device.createEach_of_answered`, `Device.createEach_of_fails` - creations without a failure, and
  with one.
* `setCount_spec` - the set numbers that get a layout.
* `PipelineParts.createOn_eq` - creating the parts is carrying out the plan.
* `PipelineParts.destroyCalls_perm` - dropping parts destroys what the plan has created of them.
* `PipelineParts.create_spec` - which calls are made, and what is destroyed when.

## Implementation notes

A device fails at most once here, at a creation given by its number. As nothing is created behind a
failure, a device that fails more often makes no difference.
-/

set_option autoImplicit false

namespace ShaderBindings.Vulkan

/-! ## Objects -/

/-- What an object is. -/
inductive ObjectKind where
  | setLayout
  | pipelineLayout
  | shaderModule
  | pipeline
deriving DecidableEq, Repr

/-- The object that a call has created, with its handle. -/
def DeviceCall.created? : DeviceCall → Option (ObjectKind × Nat)
  | createSetLayout _ (.ok handle) => some (.setLayout, handle)
  | createPipelineLayout _ _ (.ok handle) => some (.pipelineLayout, handle)
  | createShaderModule _ (.ok handle) => some (.shaderModule, handle)
  | createComputePipeline _ (.ok handle) => some (.pipeline, handle)
  | createGraphicsPipeline _ (.ok handle) => some (.pipeline, handle)
  | _ => none

/-- The object that a call destroys. -/
def DeviceCall.destroyed? : DeviceCall → Option (ObjectKind × Nat)
  | destroySetLayout handle => some (.setLayout, handle)
  | destroyPipelineLayout handle => some (.pipelineLayout, handle)
  | destroyShaderModule handle => some (.shaderModule, handle)
  | _ => none

/-! ## Creations -/

/-- A failure with a code of its own is a failure for the caller. -/
theorem settle_error {code : Int} (h : code ≠ 0) : settle (.error code) = .error code := by
  unfold settle
  split
  · next heq =>
    cases heq
    exact absurd rfl h
  · rfl

namespace Device

variable {d : Device} {plan : List (Outcome → DeviceCall)} {n : Nat}

/-- The device after `n` more creations, with the calls that were made. A creation counts whether it
went through or not. -/
def extend (d : Device) (n : Nat) (calls : List DeviceCall) : Device :=
  { d with created := d.created + n, calls := d.calls ++ calls }

/-- The handles that the next `n` creations return if none of them fails. -/
def upcoming (d : Device) (n : Nat) : List Nat := (List.range' (d.created + 1) n).map d.handle

/-- Calls with the handles that they return if none of them fails. -/
def answered (d : Device) (plan : List (Outcome → DeviceCall)) : List DeviceCall :=
  List.zipWith (fun call handle => call (.ok handle)) plan (d.upcoming plan.length)

/-- As many handles as are asked for. -/
@[simp] theorem length_upcoming : (d.upcoming n).length = n := by
  simp [upcoming]

/-- The first of the next handles, and those behind it. -/
theorem upcoming_succ (calls : List DeviceCall) :
    d.upcoming (n + 1) = d.handle (d.created + 1) :: (d.extend 1 calls).upcoming n := by
  simp [upcoming, extend, List.range'_succ]

/-- The first of the calls that are answered, and those behind it. -/
theorem answered_cons (call : Outcome → DeviceCall) (calls : List DeviceCall) :
    d.answered (call :: plan) =
      call (.ok (d.handle (d.created + 1))) :: (d.extend 1 calls).answered plan := by
  rw [answered, List.length_cons, upcoming_succ calls, List.zipWith_cons_cons, answered]

/-- Objects and calls that are added one after the other are added at once. -/
@[simp] theorem extend_extend (m : Nat) (calls later : List DeviceCall) :
    (d.extend m calls).extend n later = d.extend (m + n) (calls ++ later) := by
  have hcalls : d.calls ++ calls ++ later = d.calls ++ (calls ++ later) := by
    apply Array.ext'
    simp
  simp [extend, Nat.add_assoc, hcalls]

/-- A call that does not fail returns the next handle and is recorded with it. -/
theorem create_of_answered (call : Outcome → DeviceCall)
    (h : d.failAt ≠ some (d.created + 1)) :
    d.create call = (.ok (d.handle (d.created + 1)),
      d.extend 1 [call (.ok (d.handle (d.created + 1)))]) := by
  simp [create, answer, h, settle, extend]

/-- A call that fails returns the code and is recorded with it. -/
theorem create_of_fails (call : Outcome → DeviceCall) (h : d.failAt = some (d.created + 1))
    (hcode : d.failCode ≠ 0) :
    d.create call = (.error d.failCode, d.extend 1 [call (.error d.failCode)]) := by
  simp [create, answer, h, settle_error hcode, extend]

/-- If none of the calls fails, each returns its handle.

**Proof sketch.** Induction on the calls. The first one returns the next handle
(`create_of_answered`), and then one more object has been created. -/
theorem createEach_of_answered
    (h : ∀ k < plan.length, d.failAt ≠ some (d.created + k + 1)) :
    d.createEach plan =
      (d.upcoming plan.length, none, d.extend plan.length (d.answered plan)) := by
  induction plan generalizing d with
  | nil => simp [createEach, upcoming, answered, extend]
  | cons call rest ih =>
    have hfirst := h 0 (Nat.zero_lt_succ _)
    have hrest : ∀ k < rest.length, (d.extend 1 [call (.ok (d.handle (d.created + 1)))]).failAt ≠
        some (d.created + 1 + k + 1) := by
      intro k hk
      have hnext := h (k + 1) (Nat.succ_lt_succ hk)
      rwa [← Nat.add_assoc, Nat.add_right_comm d.created k 1] at hnext
    simp only [createEach, create_of_answered call hfirst, ih hrest]
    rw [extend_extend, List.length_cons, upcoming_succ, answered_cons, Nat.add_comm 1]
    rfl

/-- If a call fails, the calls before it return their handles, and those behind it are not made.

**Proof sketch.** Induction on the number of calls in front of the one that fails, as for
`createEach_of_answered`. -/
theorem createEach_of_fails {k : Nat} (hk : k < plan.length)
    (h : d.failAt = some (d.created + k + 1)) (hcode : d.failCode ≠ 0) :
    d.createEach plan =
      (d.upcoming k, some d.failCode,
        d.extend (k + 1) (d.answered (plan.take k) ++ [plan[k] (.error d.failCode)])) := by
  induction k generalizing d plan with
  | zero =>
    obtain ⟨call, rest, rfl⟩ := List.exists_cons_of_length_pos hk
    simp only [createEach, create_of_fails call h hcode]
    rfl
  | succ k ih =>
    obtain ⟨call, rest, rfl⟩ := List.exists_cons_of_length_pos (Nat.zero_lt_of_lt hk)
    have hfirst : d.failAt ≠ some (d.created + 1) := by
      rw [h]
      simp
    have hlater : (d.extend 1 [call (.ok (d.handle (d.created + 1)))]).failAt =
        some (d.created + 1 + k + 1) := by
      rw [← Nat.add_assoc, Nat.add_right_comm d.created k 1] at h
      exact h
    simp only [createEach, create_of_answered call hfirst,
      ih (Nat.lt_of_succ_lt_succ hk) hlater hcode]
    rw [extend_extend, upcoming_succ, List.take_succ_cons, answered_cons, Nat.add_comm 1]
    rfl

/-- Calls behind other calls are made if none of those fails.

**Proof sketch.** Induction on the calls in front. A failure among them ends both. -/
theorem createEach_append (d : Device) (plan later : List (Outcome → DeviceCall)) :
    d.createEach (plan ++ later) =
      match d.createEach plan with
      | (handles, some fault, d) => (handles, some fault, d)
      | (handles, none, d) =>
        match d.createEach later with
        | (more, fault, d) => (handles ++ more, fault, d) := by
  induction plan generalizing d with
  | nil => rfl
  | cons call rest ih =>
    simp only [List.cons_append, createEach]
    rcases d.create call with ⟨code | handle, d⟩
    · rfl
    · simp only [ih]
      rcases d.createEach rest with ⟨handles, _ | fault, d⟩
      · rfl
      · rfl

/-- Of calls either none fails or there is one that does. -/
theorem answered_or_fails (d : Device) (n : Nat) :
    (∀ k < n, d.failAt ≠ some (d.created + k + 1)) ∨
      ∃ k < n, d.failAt = some (d.created + k + 1) := by
  by_cases h : ∃ k < n, d.failAt = some (d.created + k + 1)
  · exact .inr h
  · push Not at h
    exact .inl h

end Device

/-! ## Set numbers -/

/-- A number gets a set layout exactly if it is no larger than some set.

**Proof sketch.** Induction on the sets, for any number to start from. Each number plus one is a
word, so no sum fails. -/
theorem setCount_spec {sets : List SetBindings} (h : ∀ s ∈ sets, s.set + 1 < Word.bound) :
    ∃ count, setCount sets = .ok count ∧ ∀ n, n < count ↔ ∃ s ∈ sets, n ≤ s.set := by
  have hfold : ∀ start, ∃ count,
      sets.foldlM (fun n s => do return max n (← Word.add s.set 1)) start =
        (.ok count : Except WordOp Nat) ∧
      ∀ n, n < count ↔ n < start ∨ ∃ s ∈ sets, n ≤ s.set := by
    induction sets with
    | nil => exact fun start => ⟨start, rfl, by simp⟩
    | cons s sets ih =>
      intro start
      obtain ⟨hs, hrest⟩ := List.forall_mem_cons.1 h
      obtain ⟨count, hcount, hlt⟩ := ih hrest (max start (s.set + 1))
      have hadd : (Word.add s.set 1 : Except WordOp Nat) = .ok (s.set + 1) :=
        Word.add_eq_ok_iff.2 ⟨hs, rfl⟩
      refine ⟨count, ?_, fun n => ?_⟩
      · rw [List.foldlM_cons, hadd]
        exact hcount
      · rw [hlt, List.exists_mem_cons_iff, ← or_assoc]
        refine or_congr_left ?_
        omega
  simpa [setCount] using hfold 0

/-- The set of a number has the bindings of the first entry for it. -/
theorem bindingsOf_of_first {front back : List SetBindings} {s : SetBindings}
    (h : ∀ t ∈ front, t.set ≠ s.set) : bindingsOf (front ++ s :: back) s.set = s.bindings := by
  have hfront : front.find? (·.set == s.set) = none := by
    simpa [List.find?_eq_none] using h
  simp [bindingsOf, List.find?_append, hfront]

/-- The set of a number without an entry has no bindings. -/
theorem bindingsOf_of_gap {sets : List SetBindings} {n : Nat} (h : ∀ s ∈ sets, s.set ≠ n) :
    bindingsOf sets n = [] := by
  have hnone : sets.find? (·.set == n) = none := by
    simpa [List.find?_eq_none] using h
  simp [bindingsOf, hnone]

/-! ## Parts -/

namespace PipelineParts

variable {d : Device} {sets : List SetBindings} {ranges : List ConstantRange}
  {code : List (List UInt32)} {count : Nat} {handles : List Nat}

/-- The calls that create the parts on a device: a set layout for each number below `count`, a
pipeline layout over the handles of these, and a module for each code. -/
def plan (d : Device) (count : Nat) (sets : List SetBindings) (ranges : List ConstantRange)
    (code : List (List UInt32)) : List (Outcome → DeviceCall) :=
  (List.range count).map (fun set => .createSetLayout (bindingsOf sets set)) ++
    .createPipelineLayout (d.upcoming count) ranges ::
      code.map fun words => .createShaderModule words

/-- The parts that the first handles of the plan belong to. -/
def ofHandles (count : Nat) (handles : List Nat) : PipelineParts where
  setLayouts := handles.take count
  layout := (handles.drop count).headD 0
  modules := (handles.drop count).tail

/-- The kinds of the objects that the plan creates. -/
def planKinds (count : Nat) (code : List (List UInt32)) : List ObjectKind :=
  List.replicate count .setLayout ++ .pipelineLayout :: List.replicate code.length .shaderModule

/-- The plan has a call for each set layout, one for the pipeline layout and one for each module. -/
theorem length_plan (d : Device) (count : Nat) (sets : List SetBindings)
    (ranges : List ConstantRange) (code : List (List UInt32)) :
    (plan d count sets ranges code).length = count + code.length + 1 := by
  simp [plan]
  omega

/-- Handles that are not enough for the set layouts are all of set layouts. -/
theorem ofHandles_of_le (h : handles.length ≤ count) :
    ofHandles count handles = { setLayouts := handles } := by
  simp [ofHandles, List.take_of_length_le h, List.drop_eq_nil_of_le h]

/-- Handles of set layouts, then that of the pipeline layout, then those of modules. -/
theorem ofHandles_append {layouts modules : List Nat} {layout : Nat} (h : layouts.length = count) :
    ofHandles count (layouts ++ layout :: modules) =
      { setLayouts := layouts, layout, modules } := by
  simp [ofHandles, ← h]

/-- Creating the parts is carrying out the plan.

**Proof sketch.** The plan is carried out part by part (`Device.createEach_append`). A failure among
the set layouts leaves handles of set layouts only (`ofHandles_of_le`), and later ones leave all of
them and what came behind (`ofHandles_append`). -/
theorem createOn_eq (hcode : d.failCode ≠ 0) :
    createOn d count sets ranges code =
      match d.createEach (plan d count sets ranges code) with
      | (handles, some fault, d) => abandon (ofHandles count handles) fault d
      | (handles, none, d) => (.ok (ofHandles count handles), d) := by
  let layouts : List (Outcome → DeviceCall) :=
    (List.range count).map fun set => .createSetLayout (bindingsOf sets set)
  have hlength : layouts.length = count := by simp [layouts]
  have hlayouts : d.createFrom (fun set => .createSetLayout (bindingsOf sets set)) 0 count =
      d.createEach layouts := by
    rw [Device.createFrom_eq, ← List.range_eq_range']
  unfold createOn plan
  rw [hlayouts, Device.createEach_append]
  rcases d.answered_or_fails layouts.length with hall | ⟨k, hk, hfails⟩
  · rw [Device.createEach_of_answered hall, hlength]
    simp only [Device.createEach]
    rcases Device.create _ _ with ⟨fault | layout, d'⟩
    · simp only [List.append_nil, ofHandles_of_le (Nat.le_of_eq Device.length_upcoming)]
    · rcases hmodules : d'.createEach (code.map fun words => .createShaderModule words) with
        ⟨modules, fault, d''⟩
      simp only [hmodules]
      cases fault with
      | none => simp only [ofHandles_append Device.length_upcoming]
      | some fault => simp only [ofHandles_append Device.length_upcoming]
  · rw [Device.createEach_of_fails hk hfails hcode]
    rw [hlength] at hk
    have hle : (d.upcoming k).length ≤ count := by
      rw [Device.length_upcoming]
      exact Nat.le_of_lt hk
    simp only [ofHandles_of_le hle]

/-! ### What is created and destroyed -/

/-- As long as handles are left the objects at the front have the kind that stands there.

**Proof sketch.** Induction on the number of objects. -/
theorem zip_replicate_append (n : Nat) (kind : ObjectKind) (rest : List ObjectKind)
    (handles : List Nat) :
    (List.replicate n kind ++ rest).zip handles =
      (handles.take n).map (kind, ·) ++ rest.zip (handles.drop n) := by
  induction n generalizing handles with
  | zero => rfl
  | succ n ih =>
    cases handles with
    | nil => simp
    | cons handle handles => simp [List.replicate_succ, ih]

/-- The call creates objects of the kind. -/
def Creates (call : Outcome → DeviceCall) (kind : ObjectKind) : Prop :=
  ∀ handle, (call (.ok handle)).created? = some (kind, handle)

/-- Calls made in one way create objects of one kind. -/
theorem forall₂_creates_map {α : Type} (call : α → Outcome → DeviceCall) (kind : ObjectKind)
    (l : List α) (h : ∀ a, Creates (call a) kind) :
    List.Forall₂ Creates (l.map call) (List.replicate l.length kind) := by
  induction l with
  | nil => exact .nil
  | cons a l ih => exact .cons (h a) ih

/-- The calls of the plan create objects of its kinds. -/
theorem forall₂_creates_plan (d : Device) (count : Nat) (sets : List SetBindings)
    (ranges : List ConstantRange) (code : List (List UInt32)) :
    List.Forall₂ Creates (plan d count sets ranges code) (planKinds count code) := by
  have hlayouts := forall₂_creates_map (fun set => .createSetLayout (bindingsOf sets set))
    .setLayout (List.range count) fun _ _ => rfl
  have hmodules := forall₂_creates_map (fun words => .createShaderModule words) .shaderModule code
    fun _ _ => rfl
  rw [List.length_range] at hlayouts
  exact List.rel_append hlayouts (.cons (fun _ => rfl) hmodules)

/-- Calls that return handles have created one object for each.

**Proof sketch.** Induction on the calls, along with their kinds. -/
theorem map_created?_zipWith {plan : List (Outcome → DeviceCall)} {kinds : List ObjectKind}
    (h : List.Forall₂ Creates plan kinds) (handles : List Nat) :
    (List.zipWith (fun call handle => call (.ok handle)) (plan.take handles.length) handles).map
        DeviceCall.created? =
      (kinds.zip handles).map some := by
  induction h generalizing handles with
  | nil => simp
  | cons hcall _ ih =>
    cases handles with
    | nil => rfl
    | cons handle handles => simp [hcall handle, ih]

/-- The first calls of the plan have created objects of its kinds. -/
theorem map_created?_answered {k : Nat} (hk : k ≤ (plan d count sets ranges code).length) :
    (d.answered ((plan d count sets ranges code).take k)).map DeviceCall.created? =
      ((planKinds count code).zip (d.upcoming k)).map some := by
  have hcreated := map_created?_zipWith (forall₂_creates_plan d count sets ranges code)
    (d.upcoming k)
  rw [Device.length_upcoming] at hcreated
  rw [Device.answered, List.length_take_of_le hk, hcreated]

/-- Dropping parts destroys the objects whose handles they are made of.

**Proof sketch.** If no more handles are there than set layouts, these are all that is destroyed.
Otherwise the next handle, which is not zero, is that of the pipeline layout, and the modules are
those behind it. -/
theorem destroyCalls_perm (hnull : 0 ∉ handles) (hle : handles.length ≤ count + code.length + 1) :
    ((ofHandles count handles).destroyCalls.map DeviceCall.destroyed?).Perm
      (((planKinds count code).zip handles).map some) := by
  have hsplit : handles = handles.take count ++ handles.drop count :=
    (List.take_append_drop _ _).symm
  rw [planKinds, zip_replicate_append]
  unfold ofHandles destroyCalls
  cases hdrop : handles.drop count with
  | nil =>
    have hdestroyed : DeviceCall.destroyed? ∘ DeviceCall.destroySetLayout =
        some ∘ (ObjectKind.setLayout, ·) := rfl
    simp [hdestroyed]
  | cons layout modules =>
    rw [hdrop] at hsplit
    have hlayout : layout ≠ 0 := by
      rintro rfl
      exact hnull (by rw [hsplit]; simp)
    have hmodules : modules.length ≤ code.length := by
      have hlength := congrArg List.length hdrop
      rw [List.length_drop, List.length_cons] at hlength
      omega
    have hzip : (List.replicate code.length ObjectKind.shaderModule).zip modules =
        modules.map (.shaderModule, ·) := by
      have hall := zip_replicate_append code.length .shaderModule [] modules
      rwa [List.append_nil, List.zip_nil_left, List.append_nil, List.take_of_length_le hmodules]
        at hall
    rw [List.zip_cons_cons, hzip, List.headD_cons, List.tail_cons, if_neg hlayout]
    simp only [List.map_append, List.map_cons, List.map_nil, List.map_map]
    refine (List.perm_append_comm).trans (List.Perm.append_left _ ?_)
    exact List.perm_append_singleton _ _

/-- The calls destroy each object that was created once, and nothing else. In which order they do so
is left open here. -/
def Releases (destroys created : List DeviceCall) : Prop :=
  ∃ objects : List (ObjectKind × Nat), created.map DeviceCall.created? = objects.map some ∧
    objects.Nodup ∧ (destroys.map DeviceCall.destroyed?).Perm (objects.map some)

/-- Parts made of the handles that the first calls of the plan returned release what these calls
created.

**Proof sketch.** The first calls have created objects of the kinds in the plan
(`map_created?_answered`), all with different handles. What is destroyed is the same objects in
another order (`destroyCalls_perm`), as no handle is zero. -/
theorem releases_ofHandles {k : Nat} (hk : k ≤ (plan d count sets ranges code).length)
    (hnull : ∀ n, d.handle n ≠ 0) (hdistinct : Function.Injective d.handle) :
    Releases (ofHandles count (d.upcoming k)).destroyCalls
      (d.answered ((plan d count sets ranges code).take k)) := by
  have hle : (d.upcoming k).length ≤ count + code.length + 1 := by
    rw [Device.length_upcoming, ← length_plan d count sets ranges code]
    exact hk
  refine ⟨(planKinds count code).zip (d.upcoming k), map_created?_answered hk, ?_,
    destroyCalls_perm ?_ hle⟩
  · have hhandles : (((planKinds count code).zip (d.upcoming k)).map (·.2)) = d.upcoming k := by
      refine List.map_snd_zip ?_
      simp only [planKinds, List.length_append, List.length_replicate, List.length_cons]
      omega
    refine List.Nodup.of_map (·.2) ?_
    rw [hhandles]
    exact List.Nodup.map hdistinct List.nodup_range'
  · intro hmem
    obtain ⟨n, -, hn⟩ := List.mem_map.1 hmem
    exact hnull n hn

/-- On a device that returns handles of objects, each a different one, creating parts makes one call
for each set number up to the largest, one for the pipeline layout over all of these sets, and one
for each code.

* If none of them fails, nothing is destroyed; dropping the parts destroys the modules, the pipeline
  layout and the set layouts, each object once.
* If one of them fails, what was created before it is destroyed, each object once, and the failure
  is returned.

**Proof sketch.** The number of set layouts is found (`setCount_spec`), and creating is carrying out
the plan (`createOn_eq`). What the calls do is `Device.createEach_of_answered` if none fails and
`Device.createEach_of_fails` if one does, and what is destroyed is `releases_ofHandles` for the
calls that went through. -/
theorem create_spec (d : Device) (sets : List SetBindings) (ranges : List ConstantRange)
    (code : List (List UInt32)) (hsets : ∀ s ∈ sets, s.set + 1 < Word.bound)
    (hcode : d.failCode ≠ 0) (hnull : ∀ n, d.handle n ≠ 0)
    (hdistinct : Function.Injective d.handle) :
    ∃ count result d', create d sets ranges code = .ok (result, d') ∧
      (∀ n, n < count ↔ ∃ s ∈ sets, n ≤ s.set) ∧
      (∀ front s back, sets = front ++ s :: back → (∀ t ∈ front, t.set ≠ s.set) →
        bindingsOf sets s.set = s.bindings) ∧
      (∀ n, (∀ s ∈ sets, s.set ≠ n) → bindingsOf sets n = []) ∧
      let calls := plan d count sets ranges code
      ((∀ k < calls.length, d.failAt ≠ some (d.created + k + 1)) →
        ∃ parts, result = .ok parts ∧
          d'.calls.toList = d.calls.toList ++ d.answered calls ∧
          parts.destroyCalls = parts.modules.map .destroyShaderModule ++
            .destroyPipelineLayout parts.layout :: parts.setLayouts.map .destroySetLayout ∧
          Releases parts.destroyCalls (d.answered calls)) ∧
      ∀ k (hk : k < calls.length), d.failAt = some (d.created + k + 1) →
        result = .error d.failCode ∧
          ∃ destroys, d'.calls.toList = d.calls.toList ++ d.answered (calls.take k) ++
              calls[k] (.error d.failCode) :: destroys ∧
            Releases destroys (d.answered (calls.take k)) := by
  obtain ⟨count, hcount, hlt⟩ := setCount_spec hsets
  refine ⟨count, (createOn d count sets ranges code).1, (createOn d count sets ranges code).2,
    ?_, hlt, ?_, fun n => bindingsOf_of_gap, ?_, ?_⟩
  · rw [create, hcount]
    rfl
  · rintro front s back rfl
    exact bindingsOf_of_first
  · intro hall
    have hplan := length_plan d count sets ranges code
    have hreleases := releases_ofHandles (Nat.le_refl (plan d count sets ranges code).length)
      hnull hdistinct
    rw [List.take_length] at hreleases
    have hlayout : (ofHandles count (d.upcoming (plan d count sets ranges code).length)).layout ≠
        0 := by
      have hlt : count < (d.upcoming (plan d count sets ranges code).length).length := by
        rw [Device.length_upcoming]
        omega
      rw [ofHandles, List.headD_eq_head?_getD, List.head?_drop, List.getElem?_eq_getElem hlt]
      simpa [Device.upcoming] using hnull _
    rw [createOn_eq hcode, Device.createEach_of_answered hall]
    refine ⟨_, rfl, by simp [Device.extend], ?_, hreleases⟩
    rw [destroyCalls, if_neg hlayout, List.append_assoc, List.singleton_append]
  · intro k hk hfails
    rw [createOn_eq hcode, Device.createEach_of_fails hk hfails hcode]
    refine ⟨rfl, _, ?_, releases_ofHandles (Nat.le_of_lt hk) hnull hdistinct⟩
    simp [abandon, Device.record, Device.extend]

/-- Two sets out of order, with a gap between them and an entry that is not the first of its set. -/
def gappedSets : List SetBindings :=
  [{ set := 2, bindings := [{ binding := 0, type := 6, count := 1, stages := 1 }] },
    { set := 0, bindings := [{ binding := 3, type := 1, count := 4, stages := 16 }] },
    { set := 2, bindings := [] }]

/-- A device that is out of memory when a module is to be created. The creations in front of it are
those of the set layouts, the gap among them, and the pipeline layout. -/
def shortDevice : Device := { handle := fun n => 100 + n, failAt := some 5, failCode := -2 }

/-- With three set layouts and the pipeline layout created, these four objects are destroyed.

The fifth call fails, which is that for the first module. -/
theorem create_gappedSets :
    ∃ count d' destroys, create shortDevice gappedSets [] [[7], [8]] = .ok (.error (-2), d') ∧
      d'.calls.toList =
        shortDevice.answered ((plan shortDevice count gappedSets [] [[7], [8]]).take 4) ++
          .createShaderModule [7] (.error (-2)) :: destroys ∧
      destroys.length = 4 := by
  obtain ⟨count, result, d', hcreate, hcount, -, -, -, hfails⟩ :=
    create_spec shortDevice gappedSets [] [[7], [8]] (by decide) (by decide)
      (fun n => by simp [shortDevice]) (fun m n h => Nat.add_left_cancel h)
  obtain rfl : count = 3 := by
    have htwo := (hcount 2).2 (by decide)
    have hthree : ¬3 < count := fun h => absurd ((hcount 3).1 h) (by decide)
    omega
  obtain ⟨rfl, destroys, hcalls, objects, hcreated, -, hperm⟩ := hfails 4 (by decide) rfl
  refine ⟨3, d', destroys, hcreate, hcalls, ?_⟩
  have hlength := hperm.length_eq
  rw [← hcreated, List.length_map, List.length_map] at hlength
  rw [hlength]
  decide

end PipelineParts

end ShaderBindings.Vulkan
