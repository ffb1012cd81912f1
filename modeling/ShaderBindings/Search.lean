/-!
# Search by halving

The first of many numbers with a property that no later number loses, found in a few steps.

## Main definitions

* `ShaderBindings.Search.first` - the first number with the property.

## Main results

* `Search.first_le` - the search stays in its range.
* `Search.first_spec` - a number found has the property.
* `Search.eq_false_of_lt_first` - no number in front of it has the property.
-/

set_option autoImplicit false

namespace ShaderBindings.Search

/-- The first number from `lo` on and below `hi` with the property, or `hi`. It halves the range, so
this is right only for a property which all numbers above one that has it have too. -/
def first (p : Nat → Bool) (lo hi : Nat) : Nat :=
  if lo < hi then
    let mid := (lo + hi) / 2
    if p mid then first p lo mid else first p (mid + 1) hi
  else hi
termination_by hi - lo
decreasing_by all_goals omega

/-- The search stays within its bounds. -/
theorem first_le {p : Nat → Bool} {lo hi : Nat} : first p lo hi ≤ hi := by
  fun_induction first p lo hi with
  | case1 lo hi h mid hp ih => omega
  | case2 lo hi h mid hp ih => exact ih
  | case3 lo hi h => exact Nat.le_refl _

/-- A number found has the property.

**Proof sketch.** Induction along the search. If the middle has the property the search goes on in
front of it, and finds a number there or ends at the middle itself. -/
theorem first_spec {p : Nat → Bool} {lo hi : Nat} (h : first p lo hi < hi) :
    p (first p lo hi) = true := by
  fun_induction first p lo hi with
  | case1 lo hi hlt mid hp ih =>
    by_cases heq : first p lo mid < mid
    · exact ih heq
    · have : first p lo mid = mid := Nat.le_antisymm first_le (Nat.le_of_not_lt heq)
      rw [this]
      exact hp
  | case2 lo hi hlt mid hp ih => exact ih h
  | case3 lo hi hlt => omega

/-- No number in front of the one found has the property, if it is kept by all numbers behind one
that has it.

**Proof sketch.** Induction along the search. Where the search goes on behind the middle, the middle
does not have the property, and so none in front of it has. -/
theorem eq_false_of_lt_first {p : Nat → Bool} (hp : ∀ j k, j ≤ k → p j = true → p k = true)
    {lo hi k : Nat} (hlo : lo ≤ k) (hk : k < first p lo hi) : p k = false := by
  fun_induction first p lo hi with
  | case1 lo hi hlt mid hmid ih => exact ih hlo hk
  | case2 lo hi hlt mid hmid ih =>
    by_cases hle : mid + 1 ≤ k
    · exact ih hle hk
    · rw [Bool.eq_false_iff]
      intro hpk
      exact hmid (hp k mid (by omega) hpk)
  | case3 lo hi hlt => omega

end ShaderBindings.Search
