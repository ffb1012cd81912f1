import ShaderBindings.Interface.Specialization
import ShaderBindings.Vulkan.Capacity
import ShaderBindings.Word
/-!
# Specialization data

Collects values for the specialization constants of one stage: their bytes one after the other, and
for each constant an entry that says which bytes are its own. A value that is set again takes the
place of the one before.

## Main definitions

* `ShaderBindings.Vulkan.SpecValue` - a value with its bytes.
* `ShaderBindings.Vulkan.Specializer` - values by constant, with `Specializer.setBytes`, `set`,
  `info`.

## Main results

* `SpecValue.length_bytes` - every value of a kind takes the same number of bytes.
* `ShaderBindings.Vulkan.length_overwrite` - overwriting bytes in place changes no length.
-/

set_option autoImplicit false

namespace ShaderBindings.Vulkan

/-! ## Values -/

/-- The lowest `n` bytes of a number, lowest first. -/
def littleEndian : Nat → Nat → List UInt8
  | 0, _ => []
  | n + 1, value => .ofNat (value % 256) :: littleEndian n (value / 256)

/-- As many bytes are written as were asked for. -/
@[simp] theorem length_littleEndian (n value : Nat) : (littleEndian n value).length = n := by
  induction n generalizing value with
  | zero => rfl
  | succ n ih => simp [littleEndian, ih]

/-- A value of a specialization constant; floats by their bits. A float is passed on and never
computed with, so its bits are all that is needed. -/
inductive SpecValue where
  | bool (b : Bool)
  | i32 (n : Int32)
  | u32 (n : UInt32)
  | f32 (bits : UInt32)
  | i64 (n : Int64)
  | u64 (n : UInt64)
  | f64 (bits : UInt64)
deriving DecidableEq

namespace SpecValue

/-- The kind of constant the value is for. -/
def kind : SpecValue → SpecKind
  | bool _ => .bool
  | i32 _ => .i32
  | u32 _ => .u32
  | f32 _ => .f32
  | i64 _ => .i64
  | u64 _ => .u64
  | f64 _ => .f64

/-- The bytes of the value. A truth value is the number one or zero. There are four bytes or eight,
by the kind of the value alone. -/
def bytes : SpecValue → List UInt8
  | bool b => littleEndian 4 b.toNat
  | i32 n => littleEndian 4 n.toUInt32.toNat
  | u32 n => littleEndian 4 n.toNat
  | f32 bits => littleEndian 4 bits.toNat
  | i64 n => littleEndian 8 n.toUInt64.toNat
  | u64 n => littleEndian 8 n.toNat
  | f64 bits => littleEndian 8 bits.toNat

end SpecValue

/-- The number of bytes of a value of the kind. -/
def valueSize : SpecKind → Nat
  | .bool | .i32 | .u32 | .f32 => 4
  | .i64 | .u64 | .f64 => 8

/-- Every value of a kind takes the same number of bytes. -/
@[simp] theorem SpecValue.length_bytes (v : SpecValue) : v.bytes.length = valueSize v.kind := by
  cases v <;> simp [bytes, kind, valueSize]

/-! ## Collecting values -/

/-- The bytes with those from `offset` on replaced. -/
def overwrite (data : List UInt8) (offset : Nat) (bytes : List UInt8) : List UInt8 :=
  data.take offset ++ bytes ++ data.drop (offset + bytes.length)

/-- Overwriting bytes in place changes no length. -/
theorem length_overwrite {data bytes : List UInt8} {offset : Nat}
    (h : offset + bytes.length ≤ data.length) :
    (overwrite data offset bytes).length = data.length := by
  simp only [overwrite, List.length_append, List.length_take, List.length_drop]
  omega

/-- Which bytes belong to a constant. -/
structure MapEntry where
  constantId : Nat
  offset : Nat
  size : Nat
deriving DecidableEq, Repr

/-- Values and the entries that say whose they are. -/
structure SpecInfo where
  entries : List MapEntry := []
  data : List UInt8 := []
deriving DecidableEq

/-- Values for the constants of a stage. An entry says where in the data the bytes of its constant
are; a constant that is set again with as many bytes gets them at the same place. -/
structure Specializer where
  /-- The bits of the stage. -/
  stage : Nat
  /-- The number of entries there is room for. -/
  capacity : Nat
  entries : List MapEntry := []
  data : List UInt8 := []
deriving DecidableEq

namespace Specializer

/-- The entry for values of the given length. -/
def entry? (s : Specializer) (constantId size : Nat) : Option MapEntry :=
  s.entries.find? fun e => e.constantId == constantId && e.size == size

/-- Sets a constant. A value of the same length is overwritten where it stands; any other takes a
new entry behind the others. -/
def setBytes (s : Specializer) (constantId : Nat) (bytes : List UInt8) :
    Except CapacityExceeded Specializer :=
  match s.entry? constantId bytes.length with
  | some e => .ok { s with data := overwrite s.data e.offset bytes }
  | none =>
    if s.capacity ≤ s.entries.length then .error { capacity := s.capacity }
    else
      let e : MapEntry :=
        { constantId, offset := s.data.length % Word.bound, size := bytes.length }
      .ok { s with entries := s.entries ++ [e], data := s.data ++ bytes }

/-- Sets a constant to a value. -/
def set (s : Specializer) (constantId : Nat) (v : SpecValue) :
    Except CapacityExceeded Specializer :=
  s.setBytes constantId v.bytes

/-- The values collected so far. -/
def info (s : Specializer) : SpecInfo := { entries := s.entries, data := s.data }

end Specializer

end ShaderBindings.Vulkan
