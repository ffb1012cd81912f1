/-!
# Fixed capacity

What collects entries for the graphics interface has a capacity that is fixed in advance.
-/

set_option autoImplicit false

namespace ShaderBindings.Vulkan

/-- There is no room for a further entry. -/
structure CapacityExceeded where
  capacity : Nat
deriving DecidableEq, Repr

/-- Describes the failure. -/
def CapacityExceeded.message (e : CapacityExceeded) : String :=
  s!"capacity of {e.capacity} entries exceeded"

end ShaderBindings.Vulkan
