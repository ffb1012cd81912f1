import ShaderBindings.Host.Type
/-!
# Padded values

A value followed by filler words, for elements that stand further apart than they are long.

## Main definitions

* `ShaderBindings.Vulkan.Padded` - a value with its filler words.
-/

set_option autoImplicit false

namespace ShaderBindings.Vulkan

/-- A value followed by filler words, the latter by their bits. -/
structure Padded (α : Type) where
  value : α
  pad : List UInt32
deriving DecidableEq, Repr

namespace Padded

variable {α : Type}

/-- A value followed by `words` zeros. -/
def new (value : α) (words : Nat) : Padded α := { value, pad := List.replicate words 0 }

/-- The default value followed by `words` zeros. -/
def default [Inhabited α] (words : Nat) : Padded α := new Inhabited.default words

/-- Replaces the value. -/
def set (p : Padded α) (value : α) : Padded α := { p with value }

end Padded

end ShaderBindings.Vulkan
