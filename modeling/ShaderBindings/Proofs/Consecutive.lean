import Mathlib.Data.List.Induction
/-!
# Pieces without gaps

Attributes of a vertex, and entries of specialization data, are pieces of a stretch of bytes. Each
knows where it starts and how long it is; this module says what it means that they leave no gap.

## Main definitions

* `ShaderBindings.Consecutive` - each piece starts where the one before it ends.

## Main results

* `Consecutive.concat` - a piece can be put behind the last one.
* `Consecutive.range` - pieces of one size, each at its multiple of the size.
-/

set_option autoImplicit false

namespace ShaderBindings

/-- The pieces, given by their starts and sizes, take up the numbers from `start` to `stop`: the
first starts there, and each of the others where the one before it ends. -/
def Consecutive (start : Nat) (pieces : List (Nat × Nat)) (stop : Nat) : Prop :=
  match pieces with
  | [] => start = stop
  | (first, size) :: rest => first = start ∧ Consecutive (start + size) rest stop

namespace Consecutive

variable {start stop : Nat} {pieces : List (Nat × Nat)}

/-- A piece can be put behind the last one, and the pieces then end where it ends. -/
theorem concat (h : Consecutive start pieces stop) (size : Nat) :
    Consecutive start (pieces ++ [(stop, size)]) (stop + size) := by
  induction pieces generalizing start with
  | nil =>
    obtain rfl : start = stop := h
    exact ⟨rfl, rfl⟩
  | cons piece rest ih =>
    obtain ⟨hfirst, hrest⟩ := h
    exact ⟨hfirst, ih hrest⟩

/-- Pieces of one size stand at the multiples of it. -/
theorem range (n size : Nat) :
    Consecutive 0 ((List.range n).map fun k => (k * size, size)) (n * size) := by
  induction n with
  | zero => exact (Nat.zero_mul size).symm
  | succ n ih =>
    rw [List.range_succ, List.map_append, Nat.succ_mul]
    exact ih.concat size

end Consecutive

end ShaderBindings
