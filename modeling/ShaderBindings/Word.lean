/-!
# Checked arithmetic on 32-bit words

Sizes, offsets, strides and counts are natural numbers throughout the library. Wherever a sum, a
difference or a product of them has to fit a 32-bit word, it is formed by one of the operations
below, which fail instead of leaving the range.

## Main definitions

* `ShaderBindings.Word.add?`, `mul?` - the result, if it is a word.
* `ShaderBindings.Word.add`, `sub`, `mul`, `product` - the same with the failure as an error.
* `ShaderBindings.roundUp` - the least multiple of an alignment not below a size.

## Main results

* `Word.add_eq_ok_iff`, `Word.sub_eq_ok_iff`, `Word.mul_eq_ok_iff` - an operation succeeds exactly
  when the true result is a word, and then returns it.
* `dvd_roundUp`, `le_roundUp`, `roundUp_le_of_dvd` - rounding up gives the least multiple.
-/

set_option autoImplicit false

namespace ShaderBindings

/-- The operations whose result can fall outside a 32-bit word. -/
inductive WordOp where
  | add
  | subtract
  | multiply
deriving DecidableEq, Repr

/-- Names the operation and the failure. -/
def WordOp.message : WordOp → String
  | .add => "attempt to add with overflow"
  | .subtract => "attempt to subtract with overflow"
  | .multiply => "attempt to multiply with overflow"

/-- Error types that can report a result outside the range of a word. -/
class OfWordOp (ε : Type) where
  /-- The error for a failed operation. -/
  overflow : WordOp → ε

/-- A failed operation is its own report. -/
instance : OfWordOp WordOp := ⟨id⟩

namespace Word

/-- The number of 32-bit words: every word is below it. -/
def bound : Nat := 0x100000000

/-- The sum, if it is a word. -/
def add? (a b : Nat) : Option Nat := if a + b < bound then some (a + b) else none

/-- The product, if it is a word. -/
def mul? (a b : Nat) : Option Nat := if a * b < bound then some (a * b) else none

variable {ε : Type} [OfWordOp ε]

/-- The sum, or the report that it is no word. -/
def add (a b : Nat) : Except ε Nat :=
  if a + b < bound then .ok (a + b) else .error (OfWordOp.overflow .add)

/-- The difference, or the report that it is negative. -/
def sub (a b : Nat) : Except ε Nat :=
  if b ≤ a then .ok (a - b) else .error (OfWordOp.overflow .subtract)

/-- The product, or the report that it is no word. -/
def mul (a b : Nat) : Except ε Nat :=
  if a * b < bound then .ok (a * b) else .error (OfWordOp.overflow .multiply)

/-- The product of a list, formed factor by factor from the left, starting from one. -/
def product (factors : List Nat) : Except ε Nat :=
  factors.foldlM mul 1

/-- A sum is formed exactly if it is a word, and then it is the true sum. -/
theorem add_eq_ok_iff {a b n : Nat} :
    (add a b : Except ε Nat) = .ok n ↔ a + b < bound ∧ n = a + b := by
  unfold add
  split
  · simp [*, eq_comm]
  · simp [*]

/-- A difference is formed exactly if it is not negative, and then it is the true difference. -/
theorem sub_eq_ok_iff {a b n : Nat} :
    (sub a b : Except ε Nat) = .ok n ↔ b ≤ a ∧ n = a - b := by
  unfold sub
  split
  · simp [*, eq_comm]
  · simp [*]

/-- A product is formed exactly if it is a word, and then it is the true product. -/
theorem mul_eq_ok_iff {a b n : Nat} :
    (mul a b : Except ε Nat) = .ok n ↔ a * b < bound ∧ n = a * b := by
  unfold mul
  split
  · simp [*, eq_comm]
  · simp [*]

end Word

/-! ## Rounding -/

/-- The least multiple of `align` that is not below `size`, for a positive alignment. -/
def roundUp (size align : Nat) : Nat := (size + (align - 1)) / align * align

/-- What was rounded up is a multiple of the alignment. -/
theorem dvd_roundUp (size align : Nat) : align ∣ roundUp size align :=
  ⟨_, Nat.mul_comm _ _⟩

/-- What was rounded up is not below the size.

**Proof sketch.** Of `size + (align - 1)` the multiple leaves a remainder below `align`, so the
multiple itself is not below `size`. -/
theorem le_roundUp {size align : Nat} (h : 0 < align) : size ≤ roundUp size align := by
  have h₁ := Nat.div_add_mod (size + (align - 1)) align
  have h₂ := Nat.mod_lt (size + (align - 1)) h
  rw [Nat.mul_comm] at h₁
  unfold roundUp
  omega

/-- No multiple of the alignment between the size and what was rounded up is left out: every
multiple that is not below the size is at least as large. With `dvd_roundUp` and `le_roundUp` this
says that rounding up gives the least such multiple.

**Proof sketch.** Let the multiple be `k * align`. The number of alignments in `size + (align - 1)`
is below `k + 1`, since `size` is at most `k * align`. -/
theorem roundUp_le_of_dvd {size align n : Nat} (h : 0 < align) (hn : align ∣ n) (hs : size ≤ n) :
    roundUp size align ≤ n := by
  obtain ⟨k, rfl⟩ := hn
  unfold roundUp
  rw [Nat.mul_comm align k]
  refine Nat.mul_le_mul_right _ ?_
  refine Nat.le_of_lt_succ ((Nat.div_lt_iff_lt_mul h).2 ?_)
  rw [Nat.mul_comm] at hs
  rw [Nat.succ_mul]
  omega

end ShaderBindings
