/-!
# Fresh names

Picking a name that is not taken, from a family of numbered candidates.

## Main definitions

* `ShaderBindings.Text.firstFree` - the number of the first candidate that is not taken.

## Main results

* `firstFree_notMem` - if the candidates differ from one another, the one picked is not taken.
-/

set_option autoImplicit false

namespace ShaderBindings.Text

/-- The first number, counting from `n`, whose name is not taken. Each name that was refused is
struck from the list, since no later candidate can meet it again. -/
def firstFree (name : Nat → String) (taken : List String) (n : Nat) : Nat :=
  if name n ∈ taken then firstFree name (taken.erase (name n)) (n + 1) else n
termination_by taken.length
decreasing_by
  rename_i h
  have := List.length_pos_of_mem h
  rw [List.length_erase_of_mem h]
  omega

/-- The candidate picked is not in front of the one the search starts with. -/
theorem le_firstFree (name : Nat → String) (taken : List String) (n : Nat) :
    n ≤ firstFree name taken n := by
  fun_induction firstFree name taken n with
  | case1 => omega
  | case2 => omega

/-- If the candidates differ from one another, the one picked is not taken.

**Proof sketch.** Induction along the search, which drops from the taken names each candidate it
passes. The one picked is not among the names that are left, and none of those dropped is equal to
it, since it comes behind them (`le_firstFree`). -/
theorem firstFree_notMem {name : Nat → String} (hinj : ∀ i j, name i = name j → i = j)
    (taken : List String) (n : Nat) : name (firstFree name taken n) ∉ taken := by
  fun_induction firstFree name taken n with
  | case1 taken n h ih =>
    intro hmem
    have hle := le_firstFree name (taken.erase (name n)) (n + 1)
    refine ih ((List.mem_erase_of_ne ?_).2 hmem)
    intro heq
    have := hinj _ _ heq
    omega
  | case2 taken n h => exact h

end ShaderBindings.Text
