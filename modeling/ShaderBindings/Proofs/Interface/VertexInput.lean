import ShaderBindings.Interface.VertexInput
import ShaderBindings.Proofs.Host.Failures
/-!
# The numbers of vertex attributes

The attributes of an input are counted off from its location and from the start of its field without
a check that the numbers stay words. This module says which numbers have to be words, and that there
are no others: an input of a type with a format is accepted exactly if they are.

## Main definitions

* `LocatedInput.FitsWords` - the numbers of the attributes of an input are words.
* `LocatedInput.IsWordSized` - they are, if the type of the input has a format.

## Main results

* `LocatedInput.inputField_eq_ok_iff` - when an input is accepted, and what becomes of it.
* `LocatedInput.failsOnly_inputField` - an input of words fails for its type only.
* `ShaderModule.attribute_lt_of_vertexInput?` - locations and offsets of attributes are words.
-/

set_option autoImplicit false

namespace ShaderBindings

open Result

namespace LocatedInput

variable {i : LocatedInput} {format : VertexFormat} {kind : Error → Prop}

/-- The number of attributes, word or not. -/
def attributeCount (i : LocatedInput) : Nat :=
  elementCount i.resource.ty.extents * i.resource.ty.columns

/-- The number of elements and that of attributes are words, and so are the location, the bytes and
the offset of every attribute. -/
structure FitsWords (i : LocatedInput) (format : VertexFormat) : Prop where
  elements : elementCount i.resource.ty.extents < Word.bound
  count : i.attributeCount < Word.bound
  location : ∀ k < i.attributeCount, i.location + k * format.locations < Word.bound
  bytes : 0 < i.attributeCount → format.bytes < Word.bound
  offset : ∀ k < i.attributeCount, k * format.bytes < Word.bound

/-- If the type of the input has a format, the numbers of its attributes are words. Without a format
none of these numbers is ever computed. -/
def IsWordSized (i : LocatedInput) : Prop :=
  ∀ context format, VertexFormat.ofType context i.resource.ty = .ok format → i.FitsWords format

/-- The attributes of an input are counted exactly if its elements and its attributes are words
many. -/
theorem count_eq_ok_iff {n : Nat} :
    i.count = .ok n ↔ elementCount i.resource.ty.extents < Word.bound ∧
      i.attributeCount < Word.bound ∧ n = i.attributeCount := by
  simp only [LocatedInput.count, bind_eq_ok_iff, Word.product_eq_ok_iff, Word.mul_eq_ok_iff]
  constructor
  · rintro ⟨_, ⟨helements, rfl⟩, hcount, rfl⟩
    exact ⟨helements, hcount, rfl⟩
  · rintro ⟨helements, hcount, rfl⟩
    exact ⟨_, ⟨helements, rfl⟩, hcount, rfl⟩

/-- The columns pass exactly if each does on its own. -/
theorem checkColumns_eq_ok_iff {count : Nat} :
    i.checkColumns format count = .ok () ↔ ∀ k < count, i.checkColumn format k = .ok () := by
  simp only [checkColumns_eq, forM_eq_ok_iff, List.mem_range]

/-- The numbers of all attributes are words exactly if the counts are and every column passes.

**Proof sketch.** A column passes its check exactly if its location, its size and its offset are
words (`checkColumn_eq_ok_iff`). The product that a location is formed from is below the
location. -/
theorem fitsWords_iff :
    i.FitsWords format ↔ elementCount i.resource.ty.extents < Word.bound ∧
      i.attributeCount < Word.bound ∧ i.checkColumns format i.attributeCount = .ok () := by
  simp only [checkColumns_eq_ok_iff, checkColumn_eq_ok_iff]
  constructor
  · intro h
    refine ⟨h.elements, h.count, fun k hk => ?_⟩
    have hlocation := h.location k hk
    exact ⟨by omega, hlocation, h.bytes (Nat.zero_lt_of_lt hk), h.offset k hk⟩
  · rintro ⟨helements, hcount, hcolumns⟩
    exact ⟨helements, hcount, fun k hk => (hcolumns k hk).2.1, fun hpos => (hcolumns 0 hpos).2.2.1,
      fun k hk => (hcolumns k hk).2.2.2⟩

/-- **When an input is accepted.** Its type has a format and a host type, and the numbers of its
attributes are words.

**Proof sketch.** The steps are read off one by one. Counting the attributes and checking the
columns come to the words of the input (`count_eq_ok_iff`, `fitsWords_iff`). -/
theorem inputField_eq_ok_iff {owner : String} {f : InputField} :
    i.inputField owner = .ok f ↔ ∃ format type,
      VertexFormat.ofType s!"{owner}.{i.fieldName}" i.resource.ty = .ok format ∧
        i.FitsWords format ∧ scalarType i.resource.ty = .ok type ∧
        f = { input := i, type, format, count := i.attributeCount } := by
  simp only [inputField, bind_eq_ok_iff, count_eq_ok_iff, fitsWords_iff]
  constructor
  · rintro ⟨format, hformat, _, ⟨helements, hcount, rfl⟩, _, hcolumns, type, htype, h⟩
    cases h
    exact ⟨format, type, hformat, ⟨helements, hcount, hcolumns⟩, htype, rfl⟩
  · rintro ⟨format, type, hformat, ⟨helements, hcount, hcolumns⟩, htype, rfl⟩
    exact ⟨format, hformat, _, ⟨helements, hcount, rfl⟩, (), hcolumns, type, htype, rfl⟩

/-- What an input becomes remembers it. -/
theorem input_of_inputField {owner : String} {f : InputField} (h : i.inputField owner = .ok f) :
    f.input = i := by
  obtain ⟨format, type, -, -, -, rfl⟩ := inputField_eq_ok_iff.1 h
  rfl

/-- Looking for the format of a type fails for the type only. -/
theorem failsOnly_ofType (htype : ∀ context cause, kind (.unsupportedType context cause))
    (context : String) (t : ShaderType) : FailsOnly kind (VertexFormat.ofType context t) := by
  have hwidth (numeric : VertexNumeric) (width : Nat) :
      FailsOnly kind (if width ≠ 32 ∧ width ≠ 64 then
        .error (.unsupportedType context (.vertexWidth width))
        else .ok { numeric, width, components := t.components : VertexFormat }) :=
    .ite (fun _ => failsOnly_error.2 (htype _ _)) fun _ => failsOnly_ok
  unfold VertexFormat.ofType
  split
  · exact hwidth _ _
  · exact hwidth _ _
  · exact hwidth _ _
  · exact failsOnly_error.2 (htype _ _)

/-- Spelling a type fails for the type only. -/
theorem failsOnly_scalarType (htype : ∀ context cause, kind (.unsupportedType context cause))
    (t : ShaderType) : FailsOnly kind (scalarType t) := by
  unfold scalarType
  cases t.base with
  | boolean => exact failsOnly_ok
  | _ => exact (BaseType.failsOnly_scalarIn fun _ _ => htype _ _).bind fun _ _ => failsOnly_ok

/-- Whatever the numbers are, no difference is formed for an input. -/
theorem failsOnly_checkColumn (hwords : ∀ op, op ≠ .subtract → kind (.overflow op)) (k : Nat) :
    FailsOnly kind (i.checkColumn format k) := by
  have hmul (a b : Nat) : FailsOnly kind (Word.mul a b) :=
    failsOnly_mul (.inr (hwords .multiply nofun))
  refine (hmul _ _).bind fun skip _ => FailsOnly.bind ?_ fun _ _ =>
    (hmul _ _).bind fun _ _ => (hmul _ _).bind fun _ _ => failsOnly_ok
  exact .ite (fun _ => failsOnly_ok) fun _ => failsOnly_error.2 (hwords .add nofun)

/-- An input whose numbers are words fails for its type only.

**Proof sketch.** If the numbers are words the count and the checks succeed. Otherwise they can fail
with sums and products, and all other steps are about the type. -/
theorem failsOnly_inputField (htype : ∀ context cause, kind (.unsupportedType context cause))
    (hwords : i.IsWordSized ∨ ∀ op, op ≠ .subtract → kind (.overflow op)) (owner : String) :
    FailsOnly kind (i.inputField owner) := by
  refine (failsOnly_ofType htype _ _).bind fun format hformat => ?_
  rcases hwords with hwords | hwords
  · obtain ⟨helements, hcount, hcolumns⟩ := fitsWords_iff.1 (hwords _ format hformat)
    rw [count_eq_ok_iff.2 ⟨helements, hcount, rfl⟩]
    change FailsOnly kind (i.checkColumns format i.attributeCount >>= _)
    rw [hcolumns]
    exact (failsOnly_scalarType htype _).bind fun _ _ => failsOnly_ok
  · have hmul (a b : Nat) : FailsOnly kind (Word.mul a b) :=
      failsOnly_mul (.inr (hwords .multiply nofun))
    refine FailsOnly.bind ?_ fun count _ => FailsOnly.bind ?_ fun _ _ =>
      (failsOnly_scalarType htype _).bind fun _ _ => failsOnly_ok
    · exact (failsOnly_product (.inr (hwords .multiply nofun))).bind fun _ _ => hmul _ _
    · exact .ite (fun _ => failsOnly_checkColumn hwords _) fun _ => failsOnly_ok

end LocatedInput

namespace ShaderModule

variable {m : ShaderModule} {kind : Error → Prop}

/-- A vertex struct fails at one of its inputs. -/
theorem failsOnly_vertexInput? (htype : ∀ context cause, kind (.unsupportedType context cause))
    (hwords : (∀ i ∈ m.locatedInputs, i.IsWordSized) ∨ ∀ op, op ≠ .subtract → kind (.overflow op))
    (name : String) : FailsOnly kind (m.vertexInput? name) := by
  unfold vertexInput?
  split
  · exact failsOnly_ok
  · refine (FailsOnly.mapM fun i hi => ?_).bind fun _ _ => failsOnly_ok
    exact LocatedInput.failsOnly_inputField htype (hwords.imp_left fun h => h i hi) name

/-- A vertex struct is made of what becomes of the located inputs.

**Proof sketch.** If there is a vertex struct no input was refused, and the fields and attributes
are collected in the order of the inputs. -/
theorem exists_inputFields {name : String} {v : VertexInput}
    (h : m.vertexInput? name = .ok (some v)) :
    ∃ found, List.Forall₂ (fun i f => i.inputField name = .ok f) m.locatedInputs found ∧
      v.fields = found.map (·.field) ∧ v.attributes = found.flatMap (·.attributes) := by
  unfold vertexInput? at h
  split at h
  · cases h
  · obtain ⟨found, hfound, h⟩ := bind_eq_ok_iff.1 h
    cases h
    exact ⟨found, mapM_eq_ok_iff.1 hfound, rfl, rfl⟩

/-- The locations and the offsets of the attributes of a vertex struct are words.

**Proof sketch.** An attribute comes from an input that was accepted, and its numbers were checked
for this (`LocatedInput.inputField_eq_ok_iff`). -/
theorem attribute_lt_of_vertexInput? {name : String} {v : VertexInput}
    (h : m.vertexInput? name = .ok (some v)) {a : VertexAttribute} (ha : a ∈ v.attributes) :
    a.location < Word.bound ∧ a.offset < Word.bound := by
  obtain ⟨found, hfound, -, hattributes⟩ := exists_inputFields h
  rw [hattributes] at ha
  obtain ⟨f, hf, ha⟩ := List.mem_flatMap.1 ha
  obtain ⟨i, -, hi⟩ := forall₂_mem_right hfound hf
  obtain ⟨format, type, -, hfits, -, rfl⟩ := LocatedInput.inputField_eq_ok_iff.1 hi
  obtain ⟨k, hk, rfl⟩ := List.mem_map.1 ha
  exact ⟨hfits.location k (List.mem_range.1 hk), hfits.offset k (List.mem_range.1 hk)⟩

end ShaderModule

end ShaderBindings
