import ShaderBindings.Host.Type
import ShaderBindings.Shader.Resource
/-!
# Placing fields by the rules of C

A host compiler places the fields of a struct in order, each at the next multiple of its alignment,
and rounds the struct up to the largest alignment. This module states these rules for any number of
fields and says what it means that a declaration agrees with them.

## Main definitions

* `Footprint.offsets`, `Footprint.stop` - where fields come to stand, and the byte behind the last.
* `Footprint.struct` - the footprint of a struct.
* `StructDecl.IsExact` - the offsets and sizes of a declaration are those of the rules.
* `ShaderBindings.Tiles` - fields that touch one another.
* `ShaderBindings.fieldFootprints?` - the footprints of the fields of a struct.

## Main results

* `Footprint.pair_eq_struct` - a value and its filler words are placed like a struct of the two.
* `Footprint.size_struct` - a struct that ends at a multiple of all alignments is not rounded up.
-/

set_option autoImplicit false

namespace ShaderBindings

/-- A multiple of the alignment is not rounded up. -/
theorem roundUp_of_dvd {n align : Nat} (hpos : 0 < align) (h : align ∣ n) : roundUp n align = n :=
  Nat.le_antisymm (roundUp_le_of_dvd hpos h (Nat.le_refl n)) (le_roundUp hpos)

/-- The larger of two numbers is one of them. -/
theorem max_dvd {a b n : Nat} (ha : a ∣ n) (hb : b ∣ n) : max a b ∣ n := by
  rcases Nat.le_total a b with hle | hle
  · rwa [Nat.max_eq_right hle]
  · rwa [Nat.max_eq_left hle]

namespace Footprint

/-- The byte behind the last of the fields, the first one not in front of `start`. Each field stands
at the first multiple of its alignment that is left, as in C. -/
def stop (start : Nat) : List Footprint → Nat
  | [] => start
  | f :: fs => stop (roundUp start f.align + f.size) fs

/-- The bytes at which the fields start, the first one not in front of `start`. -/
def offsets (start : Nat) : List Footprint → List Nat
  | [] => []
  | f :: fs => roundUp start f.align :: offsets (roundUp start f.align + f.size) fs

/-- The largest alignment of the fields; one, if there is none. -/
def alignment (fields : List Footprint) : Nat := fields.foldr (fun f a => max f.align a) 1

/-- The footprint of a struct with the given fields. The size is rounded up, so that elements of an
array of the struct stay aligned. -/
def struct (fields : List Footprint) : Footprint :=
  { size := roundUp (stop 0 fields) (alignment fields), align := alignment fields }

/-- A value with another one behind it has the footprint of a struct of the two, so fillers behind a
value can be taken as one more field. -/
theorem pair_eq_struct {a b : Footprint} (ha : 0 < a.align) (hb : 0 < b.align) :
    a.pair b = struct [a, b] := by
  have h₀ : roundUp 0 a.align = 0 := roundUp_of_dvd ha (Nat.dvd_zero _)
  have h₁ : max b.align 1 = b.align := by omega
  simp only [pair, struct, stop, alignment, List.foldr, h₀, h₁, Nat.zero_add]

/-- No alignment is zero. -/
theorem alignment_pos (fields : List Footprint) : 0 < alignment fields := by
  induction fields with
  | nil => exact Nat.one_pos
  | cons f fs ih => exact Nat.lt_of_lt_of_le ih (Nat.le_max_right _ _)

/-- The largest alignment divides what every alignment divides. -/
theorem alignment_dvd {fields : List Footprint} {bound : Nat}
    (h : ∀ f ∈ fields, f.align ∣ bound) : alignment fields ∣ bound := by
  induction fields with
  | nil => exact Nat.one_dvd bound
  | cons f fs ih =>
    exact max_dvd (h f List.mem_cons_self) (ih fun g hg => h g (List.mem_cons_of_mem f hg))

/-- A struct that ends at a multiple of all its alignments takes no further bytes. -/
theorem size_struct {fields : List Footprint} (h : ∀ f ∈ fields, f.align ∣ stop 0 fields) :
    (struct fields).size = stop 0 fields :=
  roundUp_of_dvd (alignment_pos fields) (alignment_dvd h)

end Footprint

/-- Placed by the rules of C, fields of these footprints come to stand at the offsets of the
declaration, take up the bytes it says, and make a struct of its size. -/
structure StructDecl.IsExact (decl : StructDecl) (prints : List Footprint) : Prop where
  offsets : Footprint.offsets 0 prints = decl.fields.map (·.offset)
  sizes : prints.map (·.size) = decl.fields.map (·.size)
  size : (Footprint.struct prints).size = decl.size

/-- The fields take up the bytes from `start` to `stop`, each starting where the one before ends. No
byte is left out, so nothing is up to the compiler of the host. -/
def Tiles (start : Nat) (fields : List Field) (stop : Nat) : Prop :=
  match fields with
  | [] => start = stop
  | f :: fs => f.offset = start ∧ Tiles (start + f.size) fs stop

/-- The footprints of the fields of a struct. The fields that are no fillers stand for the given
members in order; the member decides what a name in the type of its field means. -/
def fieldFootprints? (named : Member → String → Option Footprint) (members : List Member) :
    List Field → Option (List Footprint)
  | [] => some []
  | f :: fs =>
    if f.padding then do
      let p ← f.type.footprint? fun _ => none
      return p :: (← fieldFootprints? named members fs)
    else do
      let mem ← members.head?
      let p ← f.type.footprint? (named mem)
      return p :: (← fieldFootprints? named members.tail fs)

end ShaderBindings
