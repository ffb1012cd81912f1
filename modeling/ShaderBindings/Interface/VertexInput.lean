import ShaderBindings.Host.Layout
import ShaderBindings.Search
/-!
# Vertex input

The inputs of a vertex shader as the fields of one interleaved vertex struct, and the attributes
that feed them. A matrix or an array takes several attributes, one per column.

## Main definitions

* `ShaderBindings.VertexFormat` - the format of one attribute.
* `ShaderBindings.VertexInput` - fields and attributes.
* `ShaderModule.vertexInput?` - the vertex struct of a module.
-/

set_option autoImplicit false

namespace ShaderBindings

/-- How the components of an attribute are read. -/
inductive VertexNumeric where
  | sfloat
  | sint
  | uint
deriving DecidableEq, Repr

/-- The name of the way of reading in a format. -/
def VertexNumeric.label : VertexNumeric → String
  | .sfloat => "SFLOAT"
  | .sint => "SINT"
  | .uint => "UINT"

/-- The format of one vertex attribute. It is that of one column of a type: a matrix takes several
attributes of the same format. -/
structure VertexFormat where
  numeric : VertexNumeric
  /-- The bits of a component. -/
  width : Nat
  components : Nat
deriving DecidableEq, Repr

namespace VertexFormat

/-- The name of the format: its channels, of which there are at most four, with their width. A type
with more components than that has no format in the graphics interface, but it is not refused. -/
def text (f : VertexFormat) : String :=
  String.join ((["R", "G", "B", "A"].take f.components).map fun c => s!"{c}{f.width}") ++
    s!"_{f.numeric.label}"

/-- The bytes of an attribute. -/
def bytes (f : VertexFormat) : Nat := f.width / 8 * f.components

/-- The bytes of an attribute, which have to be a word. -/
def size (f : VertexFormat) : Result Nat := Word.mul (f.width / 8) f.components

/-- The number of input locations an attribute takes. A location holds sixteen bytes, which is less
than three doubles. -/
def locations (f : VertexFormat) : Nat := if f.width = 64 ∧ 2 < f.components then 2 else 1

/-- The format for the columns of a type. The base type is looked at before the width, so a type
that is no number is reported by its kind. -/
def ofType (context : String) (t : ShaderType) : Result VertexFormat := do
  let (numeric, width) ← match t.base with
    | .float width => .ok (VertexNumeric.sfloat, width)
    | .integer width true => .ok (.sint, width)
    | .integer width false => .ok (.uint, width)
    | base => .error (.unsupportedType context (.vertexInput base))
  if width ≠ 32 ∧ width ≠ 64 then .error (.unsupportedType context (.vertexWidth width))
  else return { numeric, width, components := t.components }

end VertexFormat

/-- A field of the vertex struct. -/
structure VertexField where
  name : String
  type : HostType
  location : Nat := 0
deriving DecidableEq, Repr

/-- An attribute: the input location it feeds, and the bytes it reads. Where the field stands in the
vertex struct is left to the compiler of the host, so the offset counts from the field. -/
structure VertexAttribute where
  location : Nat
  format : VertexFormat
  field : String
  /-- The distance from the start of the field. -/
  offset : Nat
deriving DecidableEq, Repr

/-- The vertex struct of a shader. -/
structure VertexInput where
  name : String
  fields : List VertexField
  attributes : List VertexAttribute
deriving DecidableEq, Repr

/-- A stage input with its location. -/
structure LocatedInput where
  location : Nat
  resource : Resource
deriving DecidableEq, Repr

/-- Elements in front of the first failure make no difference to it, and those behind it are not
looked at. -/
theorem forM_append_eq_error {α ε : Type} {f : α → Except ε Unit} {front : List α} {a : α} {e : ε}
    (hfront : ∀ b ∈ front, f b = .ok ()) (ha : f a = .error e) (rest : List α) :
    forM (front ++ a :: rest) f = .error e := by
  induction front with
  | nil => simp [ha, bind, Except.bind]
  | cons b front ih =>
    rw [List.cons_append, List.forM_cons, hfront b (by simp)]
    exact ih fun x hx => hfront x (by simp [hx])

/-- If no element fails, nothing fails. -/
theorem forM_eq_ok {α ε : Type} {f : α → Except ε Unit} {l : List α} (h : ∀ a ∈ l, f a = .ok ()) :
    forM l f = .ok () := by
  induction l with
  | nil => rfl
  | cons a l ih =>
    rw [List.forM_cons, h a (by simp)]
    exact ih fun x hx => h x (by simp [hx])

namespace LocatedInput

/-- The name of the field, made from the location if the input has none. Two inputs can have the
same name, and then two fields have. -/
def fieldName (i : LocatedInput) : String :=
  if i.resource.name.isEmpty then s!"location{i.location}" else i.resource.name

/-- The number of attributes: one for each column of each array element. The product of the extents
is formed first, and it has to be a word even if there are no columns. -/
def count (i : LocatedInput) : Result Nat := do
  let elements ← Word.product (i.resource.ty.extents.map extentCount)
  Word.mul elements i.resource.ty.columns

/-- The attribute for the `k`th column. A column of three or four double components takes two
locations, see `VertexFormat.locations`, and the next column follows behind both. -/
def attributeAt (i : LocatedInput) (format : VertexFormat) (k : Nat) : VertexAttribute where
  location := i.location + k * format.locations
  format := format
  field := i.fieldName
  offset := k * format.bytes

/-! ### Numbers out of range -/

/-- Every number of the attribute for the `k`th column has to be a word. The numbers are computed in
the order in which they are checked here; the first one that is none decides the failure. -/
def checkColumn (i : LocatedInput) (format : VertexFormat) (k : Nat) : Result Unit := do
  let skip ← Word.mul k format.locations
  let _ ← Word.add i.location skip
  let size ← format.size
  let _ ← Word.mul k size
  return ()

/-- A column passes its check exactly if its location, its size and its offset are words, and so are
the products that these are formed from. -/
theorem checkColumn_eq_ok_iff {i : LocatedInput} {format : VertexFormat} {k : Nat} :
    i.checkColumn format k = .ok () ↔
      k * format.locations < Word.bound ∧ i.location + k * format.locations < Word.bound ∧
        format.bytes < Word.bound ∧ k * format.bytes < Word.bound := by
  unfold checkColumn VertexFormat.size VertexFormat.bytes Word.mul Word.add
  by_cases h₁ : k * format.locations < Word.bound <;>
    by_cases h₂ : i.location + k * format.locations < Word.bound <;>
      by_cases h₃ : format.width / 8 * format.components < Word.bound <;>
        by_cases h₄ : k * (format.width / 8 * format.components) < Word.bound <;>
          simp [h₁, h₂, h₃, h₄, bind, Except.bind, pure, Except.pure]

/-- Whether the attribute for the `k`th column has a number out of range. -/
def overflowsAt (i : LocatedInput) (format : VertexFormat) (k : Nat) : Bool :=
  !(i.checkColumn format k).isOk

/-- A column is out of range where its check fails. -/
theorem overflowsAt_eq_false_iff {i : LocatedInput} {format : VertexFormat} {k : Nat} :
    i.overflowsAt format k = false ↔ i.checkColumn format k = .ok () := by
  unfold overflowsAt
  cases i.checkColumn format k <;> simp [Except.isOk, Except.toBool]

/-- The numbers grow from column to column: once one is out of range, one stays so. -/
theorem overflowsAt_mono {i : LocatedInput} {format : VertexFormat} {j k : Nat} (hjk : j ≤ k)
    (h : i.overflowsAt format j = true) : i.overflowsAt format k = true := by
  rw [← Bool.not_eq_false, overflowsAt_eq_false_iff, checkColumn_eq_ok_iff] at h ⊢
  rintro ⟨h₁, h₂, h₃, h₄⟩
  have hL := Nat.mul_le_mul_right format.locations hjk
  have hB := Nat.mul_le_mul_right format.bytes hjk
  exact h ⟨by omega, by omega, h₃, by omega⟩

/-- Every number of the attributes for the given number of columns has to be a word. Of the columns
at fault only the first is looked at, and none in front of it. -/
def checkColumns (i : LocatedInput) (format : VertexFormat) (count : Nat) : Result Unit :=
  let k := Search.first (i.overflowsAt format) 0 count
  if k < count then i.checkColumn format k else .ok ()

/-- The check comes to the same as that of one column after the other.

**Proof sketch.** Once a column is out of range all further ones are (`overflowsAt_mono`), so a
search by halves finds the first one of them. The columns in front of it pass their checks, and the
failure of the first one is the failure of all. If there is none the search ends behind the last
column. -/
theorem checkColumns_eq (i : LocatedInput) (format : VertexFormat) (count : Nat) :
    i.checkColumns format count = forM (List.range count) (i.checkColumn format) := by
  have hmono : ∀ j k, j ≤ k → i.overflowsAt format j = true → i.overflowsAt format k = true :=
    fun _ _ => overflowsAt_mono
  generalize hk : Search.first (i.overflowsAt format) 0 count = k
  have hfront : ∀ j ∈ List.range k, i.checkColumn format j = .ok () := fun j hj =>
    overflowsAt_eq_false_iff.1
      (Search.eq_false_of_lt_first hmono (Nat.zero_le j) (hk ▸ List.mem_range.1 hj))
  simp only [checkColumns, hk]
  split
  · next hlt =>
    have hbad : i.overflowsAt format k = true := by
      rw [← hk] at hlt ⊢
      exact Search.first_spec hlt
    cases he : i.checkColumn format k with
    | ok _ => simp [overflowsAt, he, Except.isOk, Except.toBool] at hbad
    | error e =>
      have hrange : List.range count =
          List.range k ++ k :: List.range' (k + 1) (count - (k + 1)) := by
        have := @List.range'_append_1 0 k (count - (k + 1) + 1)
        rw [Nat.zero_add] at this
        rw [← List.range'_succ, List.range_eq_range', List.range_eq_range', this]
        congr 1
        omega
      rw [hrange, forM_append_eq_error hfront he]
  · next hge =>
    have hle : k ≤ count := by
      rw [← hk]
      exact Search.first_le
    have heq : k = count := by omega
    rw [heq] at hfront
    rw [forM_eq_ok hfront]

end LocatedInput

/-- What a located input becomes: a field, and attributes of one format. The attributes themselves
are not kept: `InputField.attributes` counts them off. -/
structure InputField where
  input : LocatedInput
  type : HostType
  format : VertexFormat
  /-- The number of attributes. -/
  count : Nat
deriving DecidableEq, Repr

/-- What the input becomes in the vertex struct of the given name. The name is only used to say
where a failure occurred. -/
def LocatedInput.inputField (i : LocatedInput) (owner : String) : Result InputField := do
  let format ← VertexFormat.ofType s!"{owner}.{i.fieldName}" i.resource.ty
  let count ← i.count
  i.checkColumns format count
  let type ← scalarType i.resource.ty
  return { input := i, type, format, count }

namespace InputField

/-- The field of the vertex struct. -/
def field (f : InputField) : VertexField :=
  { name := f.input.fieldName, type := f.type, location := f.input.location }

/-- The attributes, in the order of their locations. -/
def attributes (f : InputField) : List VertexAttribute :=
  (List.range f.count).map (f.input.attributeAt f.format)

end InputField

/-- The stage inputs that have a location, in the order of their locations. Inputs at one location
stay in the order of their declaration. -/
def ShaderModule.locatedInputs (m : ShaderModule) : List LocatedInput :=
  (m.resources.stageInputs.filterMap fun r => r.location.map ({ location := ·, resource := r }))
    |>.mergeSort fun a b => a.location ≤ b.location

/-- The vertex struct of a module, under the given name, if the module has inputs. Fields stand in
the order of the locations, whatever the order in which the shader declares its inputs. -/
def ShaderModule.vertexInput? (m : ShaderModule) (name : String) : Result (Option VertexInput) :=
  match m.locatedInputs with
  | [] => .ok none
  | inputs => do
    let found ← inputs.mapM (·.inputField name)
    return some { name, fields := found.map (·.field), attributes := found.flatMap (·.attributes) }

end ShaderBindings
