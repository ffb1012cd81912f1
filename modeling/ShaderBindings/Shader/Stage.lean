/-!
# Pipeline stages

The stages of a pipeline that a shader module can run in, and sets of them.

## Main definitions

* `ShaderBindings.Stage` - the stages, in pipeline order in `Stage.all`.
* `ShaderBindings.StageSet` - a set of stages, with `∈`, `∪` and its bit mask.
-/

set_option autoImplicit false

namespace ShaderBindings

/-- A pipeline stage. Kernels are no stage of a pipeline; they are listed because a module can be
one, and it is then reported as unsupported. -/
inductive Stage where
  | vertex
  | tessControl
  | tessEval
  | geometry
  | fragment
  | compute
  | kernel
deriving DecidableEq, Repr

namespace Stage

/-- The stages in pipeline order. -/
def all : List Stage :=
  [vertex, tessControl, tessEval, geometry, fragment, compute, kernel]

/-- The stage in words. -/
def label : Stage → String
  | vertex => "vertex"
  | tessControl => "tessellation control"
  | tessEval => "tessellation evaluation"
  | geometry => "geometry"
  | fragment => "fragment"
  | compute => "compute"
  | kernel => "kernel"

/-- A stage is shown by its label. -/
instance : ToString Stage := ⟨label⟩

/-- The short word that tells the modules of a program apart. -/
def shortName : Stage → String
  | vertex => "vert"
  | tessControl => "tesc"
  | tessEval => "tese"
  | geometry => "geom"
  | fragment => "frag"
  | compute => "comp"
  | kernel => "krnl"

/-- The bit of the stage in a mask. -/
def bit : Stage → Nat
  | vertex => 0x1
  | tessControl => 0x2
  | tessEval => 0x4
  | geometry => 0x8
  | fragment => 0x10
  | compute => 0x20
  | kernel => 0x80000000

/-- The name of the stage's bit in the graphics interface, which knows no kernels. -/
def vkName? : Stage → Option String
  | vertex => some "VERTEX"
  | tessControl => some "TESSELLATION_CONTROL"
  | tessEval => some "TESSELLATION_EVALUATION"
  | geometry => some "GEOMETRY"
  | fragment => some "FRAGMENT"
  | compute => some "COMPUTE"
  | kernel => none

/-- Every stage is in the list of all stages. -/
theorem mem_all (s : Stage) : s ∈ all := by cases s <;> decide

end Stage

/-- A set of stages. Sets with the same members are equal, so sets are compared by their members and
not by how they came about. -/
@[ext] structure StageSet where
  /-- Whether the stage belongs to the set. -/
  has : Stage → Bool

namespace StageSet

/-- A stage is in the sets that have it. -/
instance : Membership Stage StageSet := ⟨fun t s => t.has s = true⟩

/-- Whether a stage is in a set can be computed. -/
instance (s : Stage) (t : StageSet) : Decidable (s ∈ t) :=
  inferInstanceAs (Decidable (t.has s = true))

/-- The set without stages. -/
instance : EmptyCollection StageSet := ⟨⟨fun _ => false⟩⟩

/-- The set of one stage. -/
instance : Singleton Stage StageSet := ⟨fun s => ⟨fun t => t == s⟩⟩

/-- The stages of either set. -/
instance : Union StageSet := ⟨fun a b => ⟨fun s => a.has s || b.has s⟩⟩

/-- The members in pipeline order. -/
def toList (t : StageSet) : List Stage := Stage.all.filter (· ∈ t)

/-- The list of a set has the stages of the set. -/
@[simp] theorem mem_toList {s : Stage} {t : StageSet} : s ∈ t.toList ↔ s ∈ t := by
  simp [toList, Stage.mem_all]

/-- A stage is in a union if it is in one of the two sets. -/
@[simp] theorem mem_union {s : Stage} {a b : StageSet} : s ∈ a ∪ b ↔ s ∈ a ∨ s ∈ b := by
  change (a.has s || b.has s) = true ↔ _
  rw [Bool.or_eq_true]
  exact Iff.rfl

/-- A set of one stage has no other one. -/
@[simp] theorem mem_singleton {s t : Stage} : s ∈ ({t} : StageSet) ↔ s = t := by
  change (s == t) = true ↔ _
  simp

/-- No stage is in the empty set. -/
@[simp] theorem notMem_empty (s : Stage) : s ∉ (∅ : StageSet) := by
  change ¬(false = true)
  simp

/-- Two sets with the same members are equal. -/
theorem eq_of_mem_iff {a b : StageSet} (h : ∀ s, s ∈ a ↔ s ∈ b) : a = b := by
  ext s
  have := h s
  change a.has s = true ↔ b.has s = true at this
  exact Bool.eq_iff_iff.2 this

/-- Two sets are compared stage by stage. -/
instance : DecidableEq StageSet := fun a b =>
  if h : ∀ s ∈ Stage.all, a.has s = b.has s then
    isTrue (StageSet.ext (funext fun s => h s (Stage.mem_all s)))
  else
    isFalse fun heq => h (fun _ _ => heq ▸ rfl)

/-- Whether the set has no member. -/
def isEmpty (t : StageSet) : Bool := t.toList.isEmpty

/-- A set that is not empty has a stage. -/
theorem isEmpty_eq_false_iff {t : StageSet} : t.isEmpty = false ↔ ∃ s, s ∈ t := by
  rw [isEmpty, List.isEmpty_eq_false_iff_exists_mem]
  simp only [mem_toList]

/-- The members' bits together. They are those of the graphics interface, but for that of a kernel,
which the interface does not know. -/
def bits (t : StageSet) : Nat := t.toList.foldr (fun s bits => s.bit ||| bits) 0

/-- The stages whose bit is set in the mask; other bits are ignored. -/
def ofBits (mask : Nat) : StageSet := ⟨fun s => mask / s.bit % 2 == 1⟩

end StageSet

end ShaderBindings
