/-!
# Distinct values in ascending order

## Main definitions

* `ShaderBindings.Ascending.ofList` - the values of a list, each once, in ascending order.

## Main results

* `Ascending.mem_ofList` - no value is lost and none is added.
-/

set_option autoImplicit false

namespace ShaderBindings.Ascending

variable {α : Type} [LT α] [DecidableLT α] [DecidableEq α]

/-- Puts a value at its place in the order, unless it is there already. The list has to be in
ascending order before, and it is so afterwards. -/
def insert (a : α) : List α → List α
  | [] => [a]
  | b :: bs => if a < b then a :: b :: bs else if a = b then b :: bs else b :: insert a bs

/-- The values of a list, each once, in ascending order. It depends on the values only, not on the
order in which the list has them. -/
def ofList (l : List α) : List α := l.foldr insert []

/-- Inserting adds the value and loses none.

**Proof sketch.** Induction on the list, along the three places where the value can come: in front
of the first value, in its place, if the two are equal, or further behind. -/
theorem mem_insert {a b : α} {l : List α} : a ∈ insert b l ↔ a = b ∨ a ∈ l := by
  induction l with
  | nil => simp [insert]
  | cons c l ih =>
    simp only [insert]
    split
    · simp
    · split
      · next h =>
        subst h
        simp
      · simp only [List.mem_cons, ih]
        exact or_left_comm

/-- No value is lost and none is added. -/
@[simp] theorem mem_ofList {a : α} {l : List α} : a ∈ ofList l ↔ a ∈ l := by
  induction l with
  | nil => simp [ofList]
  | cons b l ih =>
    change a ∈ insert b (ofList l) ↔ _
    rw [mem_insert, ih, List.mem_cons]

end ShaderBindings.Ascending
