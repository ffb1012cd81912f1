import Mathlib
import ShaderBindings.Proofs.Consecutive
import ShaderBindings.Proofs.Host.Alignment
import ShaderBindings.Proofs.Interface.VertexInput
/-!
# Attributes of the vertex struct

The type of a field of the vertex struct is spelled from the shape of its input, and the attributes
that feed the field are counted off one after the other. Both come to the same bytes: the attributes
of an input fill its field without a gap. Their locations ascend, and if no two inputs claim the
same one, they do so through all inputs.

## Main definitions

* `HostType.shaped` - the host type of a value that has the shape of a shader type.
* `LocatedInput.ofResource?` - a stage input, if it has a location.
* `LocatedInput.step`, `LocatedInput.locations` - the locations that an input takes.
* `LocatedInput.IsFedBy` - a field and attributes that belong to an input.

## Main results

* `HostType.footprint?_shaped` - the bytes of a spelled type.
* `LocatedInput.isFedBy_of_inputField` - what an input becomes belongs to it.
* `ShaderModule.locatedInputs_eq_of_perm` - locations that differ put the inputs in order.
* `ShaderModule.locations_ascend_of_disjoint` - the locations of all attributes, one after another.
* `ShaderModule.attributes_of_vertexInput?` - fields and attributes of a vertex struct.
-/

set_option autoImplicit false

namespace ShaderBindings

open Result

/-! ## The bytes of a spelled type -/

namespace HostType

variable {named : String → Option Footprint} {host : HostType} {f : Footprint}

/-- The type of a value that has the shape of a shader type: a vector, a matrix, arrays of these. -/
def shaped (host : HostType) (t : ShaderType) : HostType :=
  let vector := if 1 < t.components then .array host t.components else host
  let matrix := if 1 < t.columns then .array vector t.columns else vector
  matrix.wrapArrays (t.extents.map extentCount)

/-- A type is made an array only if there is more than one of it. -/
theorem footprint?_ite_array (h : host.footprint? named = some f) {n : Nat} (hn : 1 ≤ n) :
    (if 1 < n then array host n else host).footprint? named = some (f.times n) := by
  split
  · rw [footprint?, h]
    rfl
  · have hone : n = 1 := by omega
    rw [h, hone, Footprint.times, Nat.mul_one]

/-- A type of a shape takes its bytes once for each component, column and element.

**Proof sketch.** From the inside out, a column is an array of components, a matrix an array of
columns, and around it stand the extents (`footprint?_ite_array`, `footprint?_wrapArrays`). -/
theorem footprint?_shaped (h : host.footprint? named = some f) {t : ShaderType}
    (hcomponents : 1 ≤ t.components) (hcolumns : 1 ≤ t.columns) :
    (host.shaped t).footprint? named =
      some (f.times (elementCount t.extents * t.columns * t.components)) := by
  have hmatrix := footprint?_ite_array (footprint?_ite_array h hcomponents) hcolumns
  refine (footprint?_wrapArrays hmatrix (t.extents.map extentCount)).trans ?_
  simp only [Footprint.times, elementCount]
  congr 2
  ac_rfl

end HostType

/-- The spelling of a number has the shape of its type.

**Proof sketch.** Truth values have no host scalar, and all other types are spelled from theirs. -/
theorem scalarType_of_hostScalar {t : ShaderType} {s : HostScalar}
    (hs : t.base.hostScalar = .ok s) : scalarType t = .ok ((HostType.scalar s).shaped t) := by
  have hscalar : t.base.scalarIn "scalar" = .ok s := (BaseType.scalarIn_eq_ok_iff t.base).2 hs
  unfold scalarType
  cases hbase : t.base with
  | boolean => simp [hbase, BaseType.hostScalar] at hs
  | _ =>
    rw [hbase] at hscalar
    simp only [hscalar]
    rfl

/-- A format has the width and the components of its type.

**Proof sketch.** Each sort of number is looked at. The width is checked before a format is
given. -/
theorem VertexFormat.of_ofType {context : String} {t : ShaderType} {format : VertexFormat}
    (h : ofType context t = .ok format) :
    t.base.bits? = some format.width ∧ (format.width = 32 ∨ format.width = 64) ∧
      format.components = t.components := by
  have hwidth (numeric : VertexNumeric) (width : Nat)
      (h : (if width ≠ 32 ∧ width ≠ 64 then .error (.unsupportedType context (.vertexWidth width))
        else .ok { numeric, width, components := t.components } : Result VertexFormat) =
          .ok format) :
      format.width = width ∧ (width = 32 ∨ width = 64) ∧ format.components = t.components := by
    obtain ⟨hwidth, h⟩ := ite_error_eq_ok_iff.1 h
    cases h
    exact ⟨rfl, by omega, rfl⟩
  unfold ofType at h
  cases hbase : t.base with
  | float width =>
    rw [hbase] at h
    obtain ⟨heq, hrest⟩ := hwidth _ width h
    exact ⟨by rw [heq]; rfl, heq ▸ hrest⟩
  | integer width signed =>
    rw [hbase] at h
    cases signed <;>
      · obtain ⟨heq, hrest⟩ := hwidth _ width h
        exact ⟨by rw [heq]; rfl, heq ▸ hrest⟩
  | _ =>
    rw [hbase] at h
    cases h

/-! ## Inputs -/

namespace LocatedInput

variable {i : LocatedInput}

/-- The stage input, if it has a location. -/
def ofResource? (r : Resource) : Option LocatedInput :=
  r.location.map ({ location := ·, resource := r })

/-- The locations from one attribute of the input to the next: numbers of 64 bits take two if there
are more than two of them. -/
def step (i : LocatedInput) : Nat :=
  if i.resource.ty.base.bits? = some 64 ∧ 2 < i.resource.ty.components then 2 else 1

/-- The locations that the attributes of the input take. An attribute of step two takes two of
them. -/
def locations (i : LocatedInput) : Finset Nat :=
  Finset.Ico i.location (i.location + i.attributeCount * i.step)

/-- The field is that of the input, and the attributes are those that feed it. Nothing is said about
where the field stands in its struct: attributes are placed within the field. -/
structure IsFedBy (i : LocatedInput) (field : VertexField) (attributes : List VertexAttribute) :
    Prop where
  name : field.name = i.fieldName
  location : field.location = i.location
  type : scalarType i.resource.ty = .ok field.type
  /-- There is one attribute for each column of each element. -/
  count : attributes.length = elementCount i.resource.ty.extents * i.resource.ty.columns
  /-- An attribute reads a column of the type. -/
  format : ∀ a ∈ attributes, a.field = field.name ∧
    i.resource.ty.base.bits? = some a.format.width ∧
      a.format.components = i.resource.ty.components
  /-- The attributes fill the field without a gap. -/
  tiles : ∃ f, field.type.footprint? (fun _ => none) = some f ∧
    Consecutive 0 (attributes.map fun a => (a.offset, a.format.bytes)) f.size
  /-- The locations count off from that of the input. -/
  locations : ∀ k a, attributes[k]? = some a → a.location = i.location + k * i.step

/-- What an input becomes belongs to it.

**Proof sketch.** The format has the bytes of one column, so the attributes take as many bytes as
the type has columns and elements of that size. -/
theorem isFedBy_of_inputField {owner : String} {f : InputField} (h : i.inputField owner = .ok f)
    (hcomponents : 1 ≤ i.resource.ty.components) (hcolumns : 1 ≤ i.resource.ty.columns) :
    i.IsFedBy f.field f.attributes := by
  obtain ⟨format, type, hformat, -, htype, rfl⟩ := inputField_eq_ok_iff.1 h
  obtain ⟨hbits, hwidth, hformat⟩ := VertexFormat.of_ofType hformat
  obtain ⟨s, hs⟩ : ∃ s, i.resource.ty.base.hostScalar = .ok s := by
    rw [BaseType.exists_hostScalar_iff, hbits]
    simpa using hwidth
  have hsize : format.width = 8 * s.size := by
    rw [BaseType.bits?_of_hostScalar hs] at hbits
    exact (Option.some.inj hbits).symm
  have hbytes : format.bytes = s.size * i.resource.ty.components := by
    rw [VertexFormat.bytes, hsize, hformat, Nat.mul_div_cancel_left _ (by decide)]
  have hstep : format.locations = i.step := by
    simp only [VertexFormat.locations, step, hbits, hformat, Option.some.injEq]
  cases (scalarType_of_hostScalar hs).symm.trans htype
  refine ⟨rfl, rfl, htype, ?_, ?_, ?_, ?_⟩
  · simp [InputField.attributes, attributeCount]
  · intro a ha
    obtain ⟨k, -, rfl⟩ := List.mem_map.1 ha
    exact ⟨rfl, hbits, hformat⟩
  · refine ⟨_, HostType.footprint?_shaped rfl hcomponents hcolumns, ?_⟩
    have htotal : s.size * (elementCount i.resource.ty.extents * i.resource.ty.columns *
        i.resource.ty.components) = i.attributeCount * format.bytes := by
      rw [hbytes, attributeCount]
      ac_rfl
    have hpieces := Consecutive.range i.attributeCount format.bytes
    rw [← htotal] at hpieces
    rw [InputField.attributes, List.map_map]
    exact hpieces
  · intro k a ha
    rw [InputField.attributes, List.getElem?_map, Option.map_eq_some_iff] at ha
    obtain ⟨n, hn, rfl⟩ := ha
    obtain ⟨-, rfl⟩ := List.getElem?_eq_some_iff.1 hn
    rw [← hstep, List.getElem_range]
    rfl

/-- The locations of the attributes of an input ascend, and are all among its own.

**Proof sketch.** The attributes are one step apart, which is one location at least, and there are
as many of them as the input has locations for. -/
theorem IsFedBy.locations_ascend {field : VertexField} {attributes : List VertexAttribute}
    (h : i.IsFedBy field attributes) :
    (attributes.map (·.location)).Pairwise (· < ·) ∧
      ∀ a ∈ attributes, a.location ∈ i.locations := by
  have hstep : 1 ≤ i.step := by
    unfold step
    split <;> decide
  refine ⟨List.pairwise_map.2 (List.pairwise_iff_getElem.2 fun k n hk hn hlt => ?_),
    fun a ha => ?_⟩
  · rw [h.locations k _ (List.getElem?_eq_getElem hk),
      h.locations n _ (List.getElem?_eq_getElem hn)]
    have := Nat.mul_lt_mul_of_pos_right hlt hstep
    omega
  · obtain ⟨k, hk, rfl⟩ := List.mem_iff_getElem.1 ha
    rw [h.locations k _ (List.getElem?_eq_getElem hk)]
    have hlt : k < i.attributeCount := Nat.lt_of_lt_of_eq hk h.count
    have := Nat.mul_lt_mul_of_pos_right hlt hstep
    exact Finset.mem_Ico.2 ⟨by omega, by omega⟩

/-- Inputs with disjoint locations, one of them before the other, have all their attributes in this
order. -/
theorem location_lt_of_disjoint {j : LocatedInput} (hle : i.location ≤ j.location)
    (hdisjoint : Disjoint i.locations j.locations) {a b : Nat} (ha : a ∈ i.locations)
    (hb : b ∈ j.locations) : a < b := by
  by_contra hge
  have hend := (Finset.mem_Ico.1 ha).2
  have hstart := (Finset.mem_Ico.1 hb).1
  exact Finset.disjoint_left.1 hdisjoint (Finset.mem_Ico.2 ⟨by omega, by omega⟩) hb

end LocatedInput

namespace ShaderModule

variable {m m' : ShaderModule} {name : String}

/-! ## Order of the inputs -/

/-- The located inputs are those among the stage inputs, in another order. -/
theorem perm_locatedInputs (m : ShaderModule) :
    m.locatedInputs.Perm (m.resources.stageInputs.filterMap LocatedInput.ofResource?) :=
  List.mergeSort_perm _ _

/-- The inputs stand in the order of their locations.

**Proof sketch.** They are sorted by their locations. -/
theorem pairwise_locatedInputs (m : ShaderModule) :
    m.locatedInputs.Pairwise (·.location ≤ ·.location) := by
  have hsorted : m.locatedInputs.Pairwise fun a b => decide (a.location ≤ b.location) := by
    apply List.pairwise_mergeSort
    · intro a b c hab hbc
      simp only [decide_eq_true_eq] at hab hbc ⊢
      exact Nat.le_trans hab hbc
    · intro a b
      simp only [Bool.or_eq_true, decide_eq_true_eq]
      exact Nat.le_total a.location b.location
  exact hsorted.imp of_decide_eq_true

/-- A located input is one of the stage inputs, and has a location. -/
theorem mem_stageInputs_of_mem_locatedInputs {i : LocatedInput} (h : i ∈ m.locatedInputs) :
    i.resource ∈ m.resources.stageInputs ∧ i.resource.location.isSome := by
  obtain ⟨r, hr, hi⟩ := List.mem_filterMap.1 (m.perm_locatedInputs.mem_iff.1 h)
  obtain ⟨location, hlocation, rfl⟩ := Option.map_eq_some_iff.1 hi
  exact ⟨hr, by simp [hlocation]⟩

/-- If no location is repeated, the order in which the inputs are declared makes no difference.

**Proof sketch.** Both lists are sorted and hold the same inputs. They could differ only where two
locations are equal, and none are. -/
theorem locatedInputs_eq_of_perm
    (h : ((m.resources.stageInputs.filterMap LocatedInput.ofResource?).map (·.location)).Nodup)
    (hperm : m'.resources.stageInputs.Perm m.resources.stageInputs) :
    m'.locatedInputs = m.locatedInputs := by
  have hinputs : m'.locatedInputs.Perm m.locatedInputs :=
    (m'.perm_locatedInputs.trans (hperm.filterMap _)).trans m.perm_locatedInputs.symm
  -- sorted lists of the same inputs can differ only where locations are equal
  refine hinputs.eq_of_pairwise (fun a b ha hb hab hba => ?_) m'.pairwise_locatedInputs
    m.pairwise_locatedInputs
  exact List.inj_on_of_nodup_map h (m.perm_locatedInputs.mem_iff.1 (hinputs.mem_iff.1 ha))
    (m.perm_locatedInputs.mem_iff.1 hb) (Nat.le_antisymm hab hba)

/-! ## Fields and attributes -/

/-- A vertex struct has a field and attributes for each located input, in the order of their
locations.

**Proof sketch.** The located inputs are accepted one by one (`exists_inputFields`), and each
accepted one is fed by its attributes (`LocatedInput.isFedBy_of_inputField`). -/
theorem exists_isFedBy (hsized : ∀ r ∈ m.resources.stageInputs, r.location.isSome →
    1 ≤ r.ty.components ∧ 1 ≤ r.ty.columns) {v : VertexInput}
    (h : m.vertexInput? name = .ok (some v)) :
    ∃ found : List InputField, m.locatedInputs = found.map (·.input) ∧
      (∀ f ∈ found, f.input.IsFedBy f.field f.attributes) ∧
        v.fields = found.map (·.field) ∧ v.attributes = found.flatMap (·.attributes) := by
  obtain ⟨found, hfound, hfields, hattributes⟩ := exists_inputFields h
  obtain ⟨hinputs, haccepted⟩ : m.locatedInputs = found.map (·.input) ∧
      ∀ f ∈ found, f.input.inputField name = .ok f := by
    refine forall₂_eq_map_iff.1 (hfound.imp fun i f hf => ?_)
    obtain rfl := LocatedInput.input_of_inputField hf
    exact ⟨rfl, hf⟩
  refine ⟨found, hinputs, fun f hf => ?_, hfields, hattributes⟩
  have hmem : f.input ∈ m.locatedInputs := hinputs ▸ List.mem_map_of_mem hf
  obtain ⟨hresource, hlocation⟩ := mem_stageInputs_of_mem_locatedInputs hmem
  obtain ⟨hcomponents, hcolumns⟩ := hsized _ hresource hlocation
  exact LocatedInput.isFedBy_of_inputField (haccepted f hf) hcomponents hcolumns

/-- If no two inputs claim a location, the locations of all attributes ascend.

**Proof sketch.** Within one input the locations ascend (`LocatedInput.IsFedBy.locations_ascend`).
Between two of them they do because the inputs are sorted and share no location
(`LocatedInput.location_lt_of_disjoint`). -/
theorem locations_ascend_of_disjoint {found : List InputField}
    (hinputs : m.locatedInputs = found.map (·.input))
    (hfed : ∀ f ∈ found, f.input.IsFedBy f.field f.attributes)
    (hdisjoint : (m.resources.stageInputs.filterMap LocatedInput.ofResource?).Pairwise
      fun i j => Disjoint i.locations j.locations) :
    ((found.flatMap (·.attributes)).map (·.location)).Pairwise (· < ·) := by
  have hapart := (m.perm_locatedInputs.pairwise_iff fun h => Disjoint.symm h).2 hdisjoint
  have hsorted := m.pairwise_locatedInputs
  rw [hinputs, List.pairwise_map] at hapart hsorted
  rw [List.pairwise_map, List.pairwise_flatMap]
  constructor
  · intro f hf
    exact List.pairwise_map.1 (hfed f hf).locations_ascend.1
  · refine (hsorted.and hapart).imp_of_mem fun {f g} hf hg h a ha b hb => ?_
    exact LocatedInput.location_lt_of_disjoint h.1 h.2 ((hfed f hf).locations_ascend.2 a ha)
      ((hfed g hg).locations_ascend.2 b hb)

/-- **Fields and attributes of a vertex struct.** If there is one, its fields are those of the
located inputs, in the order of their locations, and its attributes are those that feed them: one
for each column of each element, which together fill the field. If no two inputs claim a location,
the locations of all attributes ascend. If the locations of the inputs differ, the order in which
the inputs are declared makes no difference.

**Proof sketch.** The fields and the attributes are those of the located inputs (`exists_isFedBy`),
and their locations ascend where the inputs are apart (`locations_ascend_of_disjoint`). Inputs with
different locations are sorted the same from any order (`locatedInputs_eq_of_perm`). -/
theorem attributes_of_vertexInput? (m : ShaderModule) (name : String)
    (hsized : ∀ r ∈ m.resources.stageInputs, r.location.isSome →
      1 ≤ r.ty.components ∧ 1 ≤ r.ty.columns) :
    (∀ v, m.vertexInput? name = .ok (some v) →
      (∃ (inputs : List LocatedInput) (parts : List (VertexField × List VertexAttribute)),
        inputs.Perm (m.resources.stageInputs.filterMap LocatedInput.ofResource?) ∧
          inputs.Pairwise (·.location ≤ ·.location) ∧
          List.Forall₂ (fun i part => i.IsFedBy part.1 part.2) inputs parts ∧
          v.fields = parts.map (·.1) ∧ v.attributes = parts.flatMap (·.2)) ∧
      ((m.resources.stageInputs.filterMap LocatedInput.ofResource?).Pairwise
          (fun i j => Disjoint i.locations j.locations) →
        (v.attributes.map (·.location)).Pairwise (· < ·))) ∧
    (((m.resources.stageInputs.filterMap LocatedInput.ofResource?).map (·.location)).Nodup →
      ∀ m' : ShaderModule, m'.resources.stageInputs.Perm m.resources.stageInputs →
        m'.vertexInput? name = m.vertexInput? name) := by
  refine ⟨fun v h => ?_, fun hnodup m' hperm => ?_⟩
  · obtain ⟨found, hinputs, hfed, hfields, hattributes⟩ := exists_isFedBy hsized h
    constructor
    · refine ⟨m.locatedInputs, found.map fun f => (f.field, f.attributes), m.perm_locatedInputs,
        m.pairwise_locatedInputs, ?_, ?_, ?_⟩
      · rw [hinputs, List.forall₂_map_left_iff, List.forall₂_map_right_iff, List.forall₂_same]
        exact hfed
      · rw [hfields, List.map_map]
        rfl
      · rw [hattributes, List.flatMap_map]
    · rw [hattributes]
      exact locations_ascend_of_disjoint hinputs hfed
  · unfold vertexInput?
    rw [locatedInputs_eq_of_perm hnodup hperm]

/-- A color, and in front of it two matrices of doubles, which are declared later. The matrices have
four columns of three components, and each takes two locations. -/
def paintedVertex : ShaderModule where
  resources := { stageInputs := [
    { ty := ShaderType.float32.vector 4, name := "color", location := some 8 },
    { ty := { base := .float 64, components := 3, columns := 2, extents := [2] },
      name := "models", location := some 0 }] }

/-- Every column of the matrices takes two locations, and the color comes last.

**Proof sketch.** The locations are computed. That they ascend, and that the order of the inputs
does not matter, are the two cases of `attributes_of_vertexInput?`. -/
theorem attributes_paintedVertex :
    ∃ v, paintedVertex.vertexInput? "Vertex" = .ok (some v) ∧
      v.attributes.map (·.location) = [0, 2, 4, 6, 8] ∧
      (v.attributes.map (·.location)).Pairwise (· < ·) ∧
      ∀ m' : ShaderModule,
        m'.resources.stageInputs = paintedVertex.resources.stageInputs.reverse →
          m'.vertexInput? "Vertex" = .ok (some v) := by
  have hrun : (paintedVertex.vertexInput? "Vertex").map
      (Option.map fun v => v.attributes.map (·.location)) = .ok (some [0, 2, 4, 6, 8]) := by cbv
  obtain ⟨hmade, horder⟩ := attributes_of_vertexInput? paintedVertex "Vertex" (by decide)
  obtain ⟨found, hfound, hsome⟩ := map_eq_ok_iff.1 hrun
  obtain ⟨v, rfl, hlocations⟩ := Option.map_eq_some_iff.1 hsome
  refine ⟨v, hfound, hlocations, (hmade v hfound).2 ?_, fun m' hm' => ?_⟩
  · change [_, _].Pairwise _
    rw [List.pairwise_pair]
    decide
  · rw [← hfound]
    exact horder (by decide) m' (hm' ▸ List.reverse_perm _)

end ShaderModule

end ShaderBindings
