/-!
# Single precision

Rounds whole numbers to the nearest number of single precision.

## Main definitions

* `ShaderBindings.Vulkan.roundHalfEven` - a quotient, to the nearest, ties to even.
* `ShaderBindings.Vulkan.binary32` - the bits of the number of single precision nearest to a number.
-/

set_option autoImplicit false

namespace ShaderBindings.Vulkan

/-- The quotient by `unit`, rounded to the nearest; of two equally near the even one. -/
def roundHalfEven (n unit : Nat) : Nat :=
  let quotient := n / unit
  let twice := 2 * (n % unit)
  if twice < unit ∨ (twice = unit ∧ quotient % 2 = 0) then quotient else quotient + 1

/-- The bits of the number of single precision nearest to `n`, for `n` below `2 ^ 128`: eight bits
of exponent above the 23 bits after the leading one. A carry out of these raises the exponent. -/
def binary32 (n : Nat) : Nat :=
  if n = 0 then 0
  else
    let exponent := n.log2
    let significand :=
      if exponent ≤ 23 then n <<< (23 - exponent) else roundHalfEven n (1 <<< (exponent - 23))
    ((exponent + 126) <<< 23) + significand

/-- The bits of one. -/
def binary32One : Nat := 0x3f800000

example : binary32 0 = 0 ∧ binary32 1 = binary32One ∧ binary32 0xffffffff = 0x4f800000 := by
  decide +kernel

end ShaderBindings.Vulkan
