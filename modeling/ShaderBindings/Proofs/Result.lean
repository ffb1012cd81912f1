import Mathlib.Data.List.Forall2
import ShaderBindings.Error
/-!
# Steps that can fail

When a step that is put together from others succeeds, all of them do; when it fails, it is with the
failure of one of them. The walks over modules and the layout of structs are taken apart by these
equations.

## Main definitions

* `Result.FailsOnly` - all failures of a step are of one kind.

## Main results

* `Result.bind_eq_ok_iff`, `map_eq_ok_iff`, `ite_error_eq_ok_iff` - steps one after the other.
* `Result.mapM_eq_ok_iff`, `eq_ok_of_mapM`, `exists_mapM` - a step for each value of a list.
* `Result.FailsOnly.bind`, `FailsOnly.ite` - the failures of steps one after the other.
* `Result.forall₂_getElem?`, `forall₂_eq_map_iff` - lists whose values belong together in pairs.
-/

set_option autoImplicit false

namespace ShaderBindings.Result

variable {ε α β : Type}

/-- A step after another succeeds if both do. -/
theorem bind_eq_ok_iff {x : Except ε α} {f : α → Except ε β} {b : β} :
    x >>= f = .ok b ↔ ∃ a, x = .ok a ∧ f a = .ok b := by
  cases x with
  | error e => simp [bind, Except.bind]
  | ok a => simp [bind, Except.bind]

/-- A function of a result is there if the result is. -/
theorem map_eq_ok_iff {x : Except ε α} {f : α → β} {b : β} :
    x.map f = .ok b ↔ ∃ a, x = .ok a ∧ f a = b := by
  cases x with
  | error e => simp [Except.map]
  | ok a => simp [Except.map]

/-- A step behind a check succeeds if the check does not fail. -/
theorem ite_error_eq_ok_iff {c : Prop} [Decidable c] {e : ε} {x : Except ε α} {a : α} :
    (if c then .error e else x) = .ok a ↔ ¬c ∧ x = .ok a := by
  split
  · simp [*]
  · simp [*]

/-- A step for each value of a list succeeds if it does for each value. The results stand in the
order of the values.

**Proof sketch.** Induction on the values, by what a step after another comes to
(`bind_eq_ok_iff`). -/
theorem mapM_eq_ok_iff {f : α → Except ε β} {as : List α} {bs : List β} :
    as.mapM f = .ok bs ↔ List.Forall₂ (fun a b => f a = .ok b) as bs := by
  induction as generalizing bs with
  | nil =>
    rw [List.mapM_nil, List.forall₂_nil_left_iff]
    constructor
    · intro h
      cases h
      rfl
    · rintro rfl
      rfl
  | cons a as ih =>
    simp only [List.mapM_cons, bind_eq_ok_iff, ih, List.forall₂_cons_left_iff]
    constructor
    · rintro ⟨b, hb, bs', hbs', h⟩
      cases h
      exact ⟨b, bs', hb, hbs', rfl⟩
    · rintro ⟨b, bs', hb, hbs', rfl⟩
      exact ⟨b, hb, bs', hbs', rfl⟩

/-- There are as many results as values. -/
theorem length_of_mapM {f : α → Except ε β} {as : List α} {bs : List β} (h : as.mapM f = .ok bs) :
    bs.length = as.length :=
  (mapM_eq_ok_iff.1 h).length_eq.symm

/-- Each result is that of the value in its place. -/
theorem eq_ok_of_mapM {f : α → Except ε β} {as : List α} {bs : List β} (h : as.mapM f = .ok bs)
    {i : Nat} {a : α} {b : β} (ha : as[i]? = some a) (hb : bs[i]? = some b) : f a = .ok b := by
  obtain ⟨hi, rfl⟩ := List.getElem?_eq_some_iff.1 ha
  obtain ⟨hj, rfl⟩ := List.getElem?_eq_some_iff.1 hb
  exact (mapM_eq_ok_iff.1 h).get hi hj

/-- Steps that all succeed do so together, as no step depends on what another one gave. -/
theorem exists_mapM {f : α → Except ε β} {as : List α} (h : ∀ a ∈ as, ∃ b, f a = .ok b) :
    ∃ bs, as.mapM f = .ok bs := by
  induction as with
  | nil => exact ⟨[], rfl⟩
  | cons a as ih =>
    obtain ⟨⟨b, hb⟩, has⟩ := List.forall_mem_cons.1 h
    obtain ⟨bs, hbs⟩ := ih has
    exact ⟨b :: bs, by rw [List.mapM_cons, hb, hbs]; rfl⟩

/-- A check of each value of a list succeeds if it does for each value. -/
theorem forM_eq_ok_iff {f : α → Except ε Unit} {as : List α} :
    forM as f = .ok () ↔ ∀ a ∈ as, f a = .ok () := by
  induction as with
  | nil => simp [pure, Except.pure]
  | cons a as ih =>
    rw [List.forM_cons, bind_eq_ok_iff, List.forall_mem_cons, ← ih]
    exact ⟨fun ⟨_, ha, has⟩ => ⟨ha, has⟩, fun ⟨ha, has⟩ => ⟨(), ha, has⟩⟩

/-! ## Failures -/

/-- If the step fails, it is with a failure of the given kind. This goes through a chain of steps if
it holds for each of them, so it is proved along the definition of a function. -/
def FailsOnly (kind : ε → Prop) (x : Except ε α) : Prop := ∀ e, x = .error e → kind e

section FailsOnly

variable {kind : ε → Prop} {x : Except ε α}

/-- What succeeds does not fail. -/
@[simp] theorem failsOnly_ok {a : α} : FailsOnly kind (.ok a : Except ε α) := by
  intro e h
  cases h

/-- A failure is its only failure. -/
@[simp] theorem failsOnly_error {e : ε} : FailsOnly kind (.error e : Except ε α) ↔ kind e := by
  constructor
  · exact fun h => h e rfl
  · rintro h e ⟨⟩
    exact h

/-- What fails only in one way fails only in any wider one. -/
theorem FailsOnly.mono {kind' : ε → Prop} (h : FailsOnly kind x) (hkind : ∀ e, kind e → kind' e) :
    FailsOnly kind' x :=
  fun e he => hkind e (h e he)

/-- A step after another fails with the failure of either. The second one has to be looked at only
for what the first one gives. -/
theorem FailsOnly.bind {f : α → Except ε β} (h : FailsOnly kind x)
    (hf : ∀ a, x = .ok a → FailsOnly kind (f a)) : FailsOnly kind (x >>= f) := by
  cases x with
  | error e =>
    intro e' he'
    cases he'
    exact h e rfl
  | ok a => exact hf a rfl

/-- A function of the result adds no failure. -/
theorem FailsOnly.map {f : α → β} (h : FailsOnly kind x) : FailsOnly kind (x.map f) := by
  cases x with
  | error e =>
    intro e' he'
    cases he'
    exact h e rfl
  | ok a => exact failsOnly_ok

/-- A choice between two steps fails with the failure of the one that is taken. -/
theorem FailsOnly.ite {c : Prop} [Decidable c] {y : Except ε α} (hx : c → FailsOnly kind x)
    (hy : ¬c → FailsOnly kind y) : FailsOnly kind (if c then x else y) := by
  split
  · next h => exact hx h
  · next h => exact hy h

/-- The steps for the values of a list fail with the failure of one of them. -/
theorem FailsOnly.foldlM {f : β → α → Except ε β} (h : ∀ b a, FailsOnly kind (f b a))
    (as : List α) (b : β) : FailsOnly kind (as.foldlM f b) := by
  induction as generalizing b with
  | nil => exact failsOnly_ok
  | cons a as ih =>
    rw [List.foldlM_cons]
    exact (h b a).bind fun b' _ => ih b'

/-- A step for each value of a list fails with the failure of one of them. -/
theorem FailsOnly.mapM {f : α → Except ε β} {as : List α} (h : ∀ a ∈ as, FailsOnly kind (f a)) :
    FailsOnly kind (as.mapM f) := by
  induction as with
  | nil => exact failsOnly_ok
  | cons a as ih =>
    obtain ⟨ha, has⟩ := List.forall_mem_cons.1 h
    rw [List.mapM_cons]
    exact ha.bind fun _ _ => (ih has).bind fun _ _ => failsOnly_ok

end FailsOnly

/-! ## Values in their places -/

/-- Of two lists that go together, each value of the first one has its partner in the same place. -/
theorem forall₂_getElem? {R : α → β → Prop} {as : List α} {bs : List β} (h : List.Forall₂ R as bs)
    {i : Nat} {a : α} (ha : as[i]? = some a) : ∃ b, bs[i]? = some b ∧ R a b := by
  obtain ⟨hi, rfl⟩ := List.getElem?_eq_some_iff.1 ha
  exact ⟨_, List.getElem?_eq_getElem (h.length_eq ▸ hi), h.get hi (h.length_eq ▸ hi)⟩

/-- Of two lists that go together, each value of the second one has its partner in the same
place. -/
theorem forall₂_getElem?_right {R : α → β → Prop} {as : List α} {bs : List β}
    (h : List.Forall₂ R as bs) {i : Nat} {b : β} (hb : bs[i]? = some b) :
    ∃ a, as[i]? = some a ∧ R a b := by
  obtain ⟨hi, rfl⟩ := List.getElem?_eq_some_iff.1 hb
  exact ⟨_, List.getElem?_eq_getElem (h.length_eq ▸ hi), h.get (h.length_eq ▸ hi) hi⟩

/-- Of two lists that go together, each value of the second one has a partner. -/
theorem forall₂_mem_right {R : α → β → Prop} {as : List α} {bs : List β} (h : List.Forall₂ R as bs)
    {b : β} (hb : b ∈ bs) : ∃ a ∈ as, R a b := by
  obtain ⟨i, hi⟩ := List.mem_iff_getElem?.1 hb
  obtain ⟨a, ha, hab⟩ := forall₂_getElem?_right h hi
  exact ⟨a, List.mem_of_getElem? ha, hab⟩

/-- Values that are paired with others by a function of these are the values of the function.

**Proof sketch.** Induction on the pairs in one direction, and on the second list in the other. -/
theorem forall₂_eq_map_iff {f : β → α} {P : β → Prop} {as : List α} {bs : List β} :
    List.Forall₂ (fun a b => a = f b ∧ P b) as bs ↔ as = bs.map f ∧ ∀ b ∈ bs, P b := by
  constructor
  · intro h
    induction h with
    | nil => exact ⟨rfl, by simp⟩
    | cons hab _ ih =>
      obtain ⟨rfl, hb⟩ := hab
      exact ⟨by rw [ih.1, List.map_cons], List.forall_mem_cons.2 ⟨hb, ih.2⟩⟩
  · rintro ⟨rfl, h⟩
    induction bs with
    | nil => exact .nil
    | cons b bs ih =>
      obtain ⟨hb, hbs⟩ := List.forall_mem_cons.1 h
      exact .cons ⟨rfl, hb⟩ (ih hbs)

end ShaderBindings.Result
