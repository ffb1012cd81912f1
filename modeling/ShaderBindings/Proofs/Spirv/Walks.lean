import Mathlib
import ShaderBindings.Proofs.Result
import ShaderBindings.Spirv.Module
/-!
# Walks along the types of a binary module

A type refers to the one inside it by id, and nothing keeps it from referring to itself. The reader
follows these ids: to the type below all arrays, and to what a type is made of. Such a walk takes at
most one way from each id. So either it comes to a leaf, and has then passed every declared type at
most once, or it comes round to an id that it has passed, and never ends.

## Main definitions

* `ShaderBindings.Spirv.follow` - where a number of steps lead.
* `Ends`, `ComesRound` - the steps lead to a leaf, or come to an id that they have passed.
* `Declarations.element?`, `Declarations.inner?` - one step of either walk.
* `Declarations.IsOrdered` - types are declared once, and behind what they are made of.

## Main results

* `exists_leaf` - steps that do not come round lead to a leaf.
* `Declarations.stripArrays?_eq_none_iff`, `resolve?_eq_none_iff` - the walks that do not end.
* `Declarations.resolve?_induction` - what is kept along a walk holds of the type that it finds.
* `Declarations.IsOrdered.not_comesRound` - types that are declared in order.
-/

set_option autoImplicit false

namespace ShaderBindings.Spirv

/-! ## Following ids -/

section Follow

variable {step : Nat → Option Nat} {id : Nat}

/-- The id that lies a number of steps behind the given one, if there are as many. -/
def follow (step : Nat → Option Nat) : Nat → Nat → Option Nat
  | 0, id => some id
  | n + 1, id => (step id).bind (follow step n)

/-- The steps from the id lead to a leaf, from which there is none. -/
def Ends (step : Nat → Option Nat) (id : Nat) : Prop :=
  ∃ n leaf, follow step n id = some leaf ∧ step leaf = none

/-- The steps from the id come to an id that they have passed. From there they go round for ever, so
the walk has no end. -/
def ComesRound (step : Nat → Option Nat) (id : Nat) : Prop :=
  ∃ m n again, m < n ∧ follow step m id = some again ∧ follow step n id = some again

/-- Steps can be taken in two parts. -/
theorem follow_add (m n id : Nat) :
    follow step (m + n) id = (follow step m id).bind (follow step n) := by
  induction m generalizing id with
  | zero => rw [Nat.zero_add, follow, Option.bind_some]
  | succ m ih =>
    rw [Nat.succ_add, follow, follow]
    cases step id with
    | none => rfl
    | some next => exact ih next

/-- One more step at the end. -/
theorem follow_succ (n id : Nat) : follow step (n + 1) id = (follow step n id).bind step := by
  have hone : follow step 1 = step := funext fun next => Option.bind_fun_some (step next)
  rw [follow_add, hone]

/-- The steps in front of others can be taken. -/
theorem isSome_follow_of_le {m n : Nat} (hle : m ≤ n) (h : (follow step n id).isSome) :
    (follow step m id).isSome := by
  obtain ⟨k, rfl⟩ := Nat.exists_eq_add_of_le hle
  rw [follow_add] at h
  exact Option.isSome_of_isSome_bind h

/-- Steps that come round can be taken without end.

**Proof sketch.** Where the steps have come round, the rest of them are those that follow the first
passage, of which there are fewer. -/
theorem ComesRound.isSome_follow (h : ComesRound step id) (n : Nat) :
    (follow step n id).isSome := by
  obtain ⟨first, second, again, hlt, hfirst, hsecond⟩ := h
  induction n using Nat.strong_induction_on with
  | _ n ih =>
    rcases Nat.le_total n second with hle | hle
    · exact isSome_follow_of_le hle (by simp [hsecond])
    · obtain ⟨rest, rfl⟩ := Nat.exists_eq_add_of_le hle
      have hback : follow step (second + rest) id = follow step (first + rest) id := by
        rw [follow_add, follow_add, hfirst, hsecond]
      rw [hback]
      exact ih (first + rest) (by omega)

/-- At a leaf the steps have ended. -/
theorem Ends.of_leaf (h : step id = none) : Ends step id := ⟨0, id, rfl, h⟩

/-- If the steps from the next id end, those from this one do. -/
theorem Ends.of_next {next : Nat} (hnext : step id = some next) (h : Ends step next) :
    Ends step id := by
  obtain ⟨n, leaf, hleaf, hnone⟩ := h
  exact ⟨n + 1, leaf, by rw [follow, hnext, Option.bind_some, hleaf], hnone⟩

/-- Steps that come round lead to no leaf. -/
theorem ComesRound.not_ends (h : ComesRound step id) : ¬Ends step id := by
  rintro ⟨n, leaf, hleaf, hnone⟩
  have hsome := h.isSome_follow (n + 1)
  simp [follow_succ, hleaf, hnone] at hsome

/-- **Steps that do not come round lead to a leaf**, and pass each id at most once before it.

**Proof sketch.** If there were more steps than ids to take one from, two of them would be taken
from the same id. -/
theorem exists_leaf {ids : List Nat} (hids : ∀ id next, step id = some next → id ∈ ids)
    (h : ¬ComesRound step id) :
    ∃ n ≤ ids.length, ∃ leaf, follow step n id = some leaf ∧ step leaf = none := by
  by_contra hnone
  have hnext (n : Nat) (hn : n ≤ ids.length) (passed : Nat)
      (hpassed : follow step n id = some passed) : (step passed).isSome :=
    Option.isSome_iff_ne_none.2 fun hleaf => hnone ⟨n, hn, passed, hpassed, hleaf⟩
  have hsome (n : Nat) (hn : n ≤ ids.length) : ∃ passed, follow step n id = some passed := by
    induction n with
    | zero => exact ⟨id, rfl⟩
    | succ n ih =>
      obtain ⟨passed, hpassed⟩ := ih (by omega)
      obtain ⟨next, hstep⟩ := Option.isSome_iff_exists.1 (hnext n (by omega) passed hpassed)
      exact ⟨next, by rw [follow_succ, hpassed, Option.bind_some, hstep]⟩
  -- one passage more than there are ids
  have hmaps : Set.MapsTo (fun n => (follow step n id).getD 0) (Finset.range (ids.length + 1))
      (ids.toFinset : Set Nat) := by
    intro n hn
    have hn : n ≤ ids.length := Nat.lt_succ_iff.1 (Finset.mem_range.1 hn)
    obtain ⟨passed, hpassed⟩ := hsome n hn
    obtain ⟨next, hstep⟩ := Option.isSome_iff_exists.1 (hnext n hn passed hpassed)
    simpa [hpassed] using hids passed next hstep
  have hcard : ids.toFinset.card < (Finset.range (ids.length + 1)).card := by
    rw [Finset.card_range]
    exact Nat.lt_succ_of_le ids.toFinset_card_le
  obtain ⟨m, hm, n, hn, hne, heq⟩ := Finset.exists_ne_map_eq_of_card_lt_of_maps_to hcard hmaps
  obtain ⟨passed, hpassed⟩ := hsome m (Nat.lt_succ_iff.1 (Finset.mem_range.1 hm))
  obtain ⟨passed', hpassed'⟩ := hsome n (Nat.lt_succ_iff.1 (Finset.mem_range.1 hn))
  simp only [hpassed, hpassed', Option.getD_some] at heq
  subst heq
  rcases Nat.lt_or_gt_of_ne hne with hlt | hlt
  · exact h ⟨m, n, passed, hlt, hpassed, hpassed'⟩
  · exact h ⟨n, m, passed, hlt, hpassed', hpassed⟩

/-- Steps do not come round where they lead further and further down.

**Proof sketch.** Strong induction on the rank shows that the steps end, and then they do not come
round (`ComesRound.not_ends`). The last step before a leaf need not lead down, so two steps are
looked at. -/
theorem not_comesRound_of_rank (rank : Nat → Nat)
    (h : ∀ id next further, step id = some next → step next = some further → rank next < rank id) :
    ¬ComesRound step id := by
  refine fun hround => hround.not_ends ?_
  clear hround
  induction hrank : rank id using Nat.strong_induction_on generalizing id with
  | _ r ih =>
    cases hnext : step id with
    | none => exact .of_leaf hnext
    | some next =>
      refine .of_next hnext ?_
      cases hfurther : step next with
      | none => exact .of_leaf hfurther
      | some further => exact ih _ (hrank ▸ h id next further hnext hfurther) rfl

/-- Steps that are among others come round only where these do.

**Proof sketch.** What is reached in some number of steps is reached in that number of the other
steps. -/
theorem ComesRound.mono {step' : Nat → Option Nat}
    (hstep : ∀ id next, step id = some next → step' id = some next) (h : ComesRound step id) :
    ComesRound step' id := by
  have hfollow (n id stop : Nat) (hstop : follow step n id = some stop) :
      follow step' n id = some stop := by
    induction n generalizing id with
    | zero => exact hstop
    | succ n ih =>
      obtain ⟨next, hnext, hrest⟩ := Option.bind_eq_some_iff.1 hstop
      rw [follow, hstep id next hnext, Option.bind_some]
      exact ih next hrest
  obtain ⟨m, n, again, hlt, hm, hn⟩ := h
  exact ⟨m, n, again, hlt, hfollow m id again hm, hfollow n id again hn⟩

/-- A walk by the steps: it is done at a leaf, and elsewhere if the walk from the next id is. This
is all that is used of the walk to say when it ends. -/
structure IsWalk {α : Type} (step : Nat → Option Nat) (walk : Nat → Option α) : Prop where
  leaf : ∀ id, step id = none → (walk id).isSome
  next : ∀ id next, step id = some next → (walk next).isSome → (walk id).isSome
  ends : ∀ id a, walk id = some a → Ends step id

/-- **A walk goes on without end exactly if its steps come round.**

**Proof sketch.** Without coming round there is a leaf (`exists_leaf`). From there, going back step
by step, the walk has a result. If there is one, the steps end, so they do not come round. -/
theorem IsWalk.eq_none_iff {α : Type} {walk : Nat → Option α} (h : IsWalk step walk)
    {ids : List Nat} (hids : ∀ id next, step id = some next → id ∈ ids) :
    walk id = none ↔ ComesRound step id := by
  constructor
  · intro hnone
    by_contra hround
    obtain ⟨n, -, leaf, hleaf, hlast⟩ := exists_leaf hids hround
    -- back from the leaf, step by step
    have hsome (n : Nat) : ∀ id, follow step n id = some leaf → (walk id).isSome := by
      induction n with
      | zero =>
        rintro id hid
        obtain rfl : id = leaf := Option.some.inj hid
        exact h.leaf id hlast
      | succ n ih =>
        intro id hid
        obtain ⟨next, hnext, hrest⟩ := Option.bind_eq_some_iff.1 hid
        exact h.next id next hnext (ih next hrest)
    simpa [hnone] using hsome n id hleaf
  · intro hround
    cases hwalk : walk id with
    | none => rfl
    | some a => exact absurd (h.ends id a hwalk) hround.not_ends

end Follow

/-! ## Walks along types -/

/-- The type of the elements of an array type. -/
def TypeDecl.element? : TypeDecl → Option Nat
  | .array element _ | .runtimeArray element => some element
  | _ => none

/-- The type that a type is made of, or that it points to. Structs are left out: a walk does not go
into their members. -/
def TypeDecl.inner? : TypeDecl → Option Nat
  | .vector inner _ | .matrix inner _ | .array inner _ | .runtimeArray inner | .pointer inner =>
    some inner
  | _ => none

namespace Declarations

variable {d : Declarations} {id : Nat}

/-- The type of the elements of the array type with the given id. -/
def element? (d : Declarations) (id : Nat) : Option Nat := (d.typeDecl? id).bind (·.element?)

/-- The type inside the type with the given id. -/
def inner? (d : Declarations) (id : Nat) : Option Nat := (d.typeDecl? id).bind (·.inner?)

/-- The step to the elements of an array is read off the declaration. -/
theorem element?_of_decl {decl : TypeDecl} (h : d.typeDecl? id = some decl) :
    d.element? id = decl.element? := by
  rw [element?, h, Option.bind_some]

/-- The step to what a type is made of is read off the declaration. -/
theorem inner?_of_decl {decl : TypeDecl} (h : d.typeDecl? id = some decl) :
    d.inner? id = decl.inner? := by
  rw [inner?, h, Option.bind_some]

/-- A step to an element is one to what the type is made of. -/
theorem inner?_of_element? (id next : Nat) (h : d.element? id = some next) :
    d.inner? id = some next := by
  obtain ⟨decl, hdecl, h⟩ := Option.bind_eq_some_iff.1 h
  rw [inner?_of_decl hdecl]
  cases decl with
  | array | runtimeArray => exact h
  | _ => cases h

/-- The types that are declared, with their ids. -/
def typeDecls (d : Declarations) : List (Nat × TypeDecl) :=
  d.statements.filterMap fun
    | .type id decl => some (id, decl)
    | _ => none

/-- The ids that are declared as types, as often as they are. -/
def typeIds (d : Declarations) : List Nat := d.typeDecls.map (·.1)

/-- A declaration that is found is one of those stated. -/
theorem mem_typeDecls {decl : TypeDecl} (h : d.typeDecl? id = some decl) :
    (id, decl) ∈ d.typeDecls :=
  List.mem_filterMap.2 ⟨_, type_mem_statements h, rfl⟩

/-- What has a type inside is declared. -/
theorem mem_typeIds_of_inner? (id next : Nat) (h : d.inner? id = some next) : id ∈ d.typeIds := by
  obtain ⟨decl, hdecl, -⟩ := Option.bind_eq_some_iff.1 h
  exact List.mem_map_of_mem (mem_typeDecls hdecl)

/-- What is no array is below all arrays. -/
theorem stripArrays?_of_leaf (h : d.element? id = none) : d.stripArrays? id = some id := by
  rw [stripArrays?]
  split
  · next hdecl => cases (element?_of_decl hdecl).symm.trans h
  · next hdecl => cases (element?_of_decl hdecl).symm.trans h
  · rfl

/-- Below all arrays of an array type is what is below those of its elements.

**Proof sketch.** Both kinds of arrays go on with the type of their elements, and nothing else has
elements. -/
theorem stripArrays?_of_element? {next : Nat} (h : d.element? id = some next) :
    d.stripArrays? id = d.stripArrays? next := by
  obtain ⟨decl, hdecl, h⟩ := Option.bind_eq_some_iff.1 h
  rw [stripArrays?, hdecl]
  cases decl with
  | array | runtimeArray =>
    cases h
    rfl
  | _ => cases h

/-- The walk to the type below all arrays finds the leaf.

**Proof sketch.** Induction on the steps (`stripArrays?_of_element?`), down to the leaf. -/
theorem stripArrays?_of_follow {n base : Nat} (hbase : follow d.element? n id = some base)
    (hleaf : d.element? base = none) : d.stripArrays? id = some base := by
  induction n generalizing id with
  | zero =>
    obtain rfl : id = base := Option.some.inj hbase
    exact stripArrays?_of_leaf hleaf
  | succ n ih =>
    obtain ⟨next, hnext, hrest⟩ := Option.bind_eq_some_iff.1 hbase
    rw [stripArrays?_of_element? hnext, ih hrest]

/-- Stripping arrays is a walk along elements: it has a result at a leaf and where it goes on to
one, and where it has a result the steps end.

**Proof sketch.** The last part is by partial correctness, since the function is defined without a
bound on its steps. -/
theorem isWalk_stripArrays? : IsWalk d.element? d.stripArrays? where
  leaf id h := by rw [stripArrays?_of_leaf h, Option.isSome_some]
  next id next h hnext := by rwa [stripArrays?_of_element? h]
  ends id base h := by
    refine stripArrays?.partial_correctness d (fun id _ => Ends d.element? id) ?_ id base h
    intro walk ih id base hbase
    split at hbase
    · next hdecl => exact .of_next (element?_of_decl hdecl) (ih _ _ hbase)
    · next hdecl => exact .of_next (element?_of_decl hdecl) (ih _ _ hbase)
    · next harray hruntime =>
      refine .of_leaf ?_
      cases hdecl : d.typeDecl? id with
      | none => rw [element?, hdecl, Option.bind_none]
      | some decl =>
        rw [element?_of_decl hdecl]
        cases decl with
        | array element length => exact absurd hdecl (harray element length)
        | runtimeArray element => exact absurd hdecl (hruntime element)
        | _ => rfl

/-- Resolving a type is a walk along what types are made of.

**Proof sketch.** As for arrays. The declaration of a type tells a leaf from a step, and so does the
case of the function. -/
theorem isWalk_resolve? : IsWalk d.inner? d.resolve? where
  leaf id h := by
    rw [resolve?]
    split
    case h_6 hdecl | h_7 hdecl | h_8 hdecl | h_9 hdecl | h_14 hdecl =>
      cases (inner?_of_decl hdecl).symm.trans h
    all_goals rfl
  next id next h hnext := by
    obtain ⟨r, hr⟩ := Option.isSome_iff_exists.1 hnext
    obtain ⟨decl, hdecl, h⟩ := Option.bind_eq_some_iff.1 h
    rw [resolve?, hdecl]
    cases decl with
    | vector | matrix | array | runtimeArray | pointer =>
      cases h
      simp only [hr]
      rfl
    | _ => cases h
  ends id r h := by
    refine resolve?.partial_correctness d (fun id _ => Ends d.inner? id) ?_ id r h
    intro walk ih id r hr
    split at hr
    case h_6 hdecl | h_7 hdecl | h_8 hdecl | h_9 hdecl =>
      obtain ⟨inner, hinner, -⟩ := Option.bind_eq_some_iff.1 hr
      exact .of_next (inner?_of_decl hdecl) (ih _ _ hinner)
    case h_14 hdecl => exact .of_next (inner?_of_decl hdecl) (ih _ _ hr)
    case h_1 hdecl => exact .of_leaf (by rw [inner?, hdecl, Option.bind_none])
    all_goals exact .of_leaf (inner?_of_decl (by assumption))

/-- What holds of the leaves of walks along types, and is kept by what is put around a type, holds
of every walk that ends.

**Proof sketch.** The steps of a walk that has a result end (`isWalk_resolve?`). Induction on their
number: the result at each step is made from that of the next one. -/
theorem resolve?_induction {motive : Nat → Parse ShaderType → Prop}
    (leaf : ∀ id r, d.inner? id = none → d.resolve? id = some r → motive id r)
    (around : ∀ id inner t (f : ShaderType → ShaderType), d.inner? id = some inner →
      (∀ t, (f t).base = t.base) → motive inner t → motive id (t.map f))
    (array : ∀ id inner length t, d.inner? id = some inner → motive inner t →
      motive id (do return (← t).arrayOf (← d.arrayLength length)))
    (pointer : ∀ id inner t, d.inner? id = some inner → motive inner t → motive id t)
    {r : Parse ShaderType} (h : d.resolve? id = some r) : motive id r := by
  obtain ⟨n, last, hlast, hnone⟩ := isWalk_resolve?.ends id r h
  induction n generalizing id r with
  | zero =>
    obtain rfl : id = last := Option.some.inj hlast
    exact leaf id r hnone h
  | succ n ih =>
    obtain ⟨inner, hinner, hrest⟩ := Option.bind_eq_some_iff.1 hlast
    obtain ⟨decl, hdecl, hdeclared⟩ := Option.bind_eq_some_iff.1 hinner
    rw [resolve?, hdecl] at h
    cases decl with
    | vector | matrix | runtimeArray =>
      cases hdeclared
      obtain ⟨t, ht, h⟩ := Option.bind_eq_some_iff.1 h
      cases h
      exact around id inner t _ hinner (fun _ => rfl) (ih ht hrest)
    | array element length =>
      cases hdeclared
      obtain ⟨t, ht, h⟩ := Option.bind_eq_some_iff.1 h
      cases h
      exact array id inner length t hinner (ih ht hrest)
    | pointer =>
      cases hdeclared
      exact pointer id inner r hinner (ih h hrest)
    | _ => cases hdeclared

/-- The walk to the type below all arrays goes on without end exactly if it comes round. -/
theorem stripArrays?_eq_none_iff : d.stripArrays? id = none ↔ ComesRound d.element? id :=
  isWalk_stripArrays?.eq_none_iff fun id next h =>
    mem_typeIds_of_inner? id next (inner?_of_element? id next h)

/-- The walk along a type goes on without end exactly if it comes round. -/
theorem resolve?_eq_none_iff : d.resolve? id = none ↔ ComesRound d.inner? id :=
  isWalk_resolve?.eq_none_iff mem_typeIds_of_inner?

/-! ## Types in order -/

/-- No id is declared as a type twice, and no type has itself or a later one inside. In a module
written by a compiler it is so: a type stands behind those that it is made of. -/
structure IsOrdered (d : Declarations) : Prop where
  once : d.typeIds.Nodup
  self : ∀ t ∈ d.typeDecls, t.2.inner? ≠ some t.1
  later : d.typeDecls.Pairwise fun early late => early.2.inner? ≠ some late.1

/-- Where types are declared in order, no walk along them comes round: each step leads to a type
that is declared earlier.

**Proof sketch.** The rank of an id is the place of its declaration. It goes down at each step but
the last (`not_comesRound_of_rank`), as types in order are made of earlier ones. -/
theorem IsOrdered.not_comesRound (h : d.IsOrdered) : ¬ComesRound d.inner? id := by
  have hplace {i : Nat} {t : Nat × TypeDecl} (ht : d.typeDecls[i]? = some t) :
      d.typeIds.idxOf t.1 = i := by
    obtain ⟨hi, rfl⟩ := List.getElem?_eq_some_iff.1 ht
    have hi' : i < d.typeIds.length := by simpa [typeIds] using hi
    simpa [typeIds] using h.once.idxOf_getElem i hi'
  refine not_comesRound_of_rank d.typeIds.idxOf fun id next further hnext hfurther => ?_
  obtain ⟨decl, hdecl, hinner⟩ := Option.bind_eq_some_iff.1 hnext
  obtain ⟨decl', hdecl', -⟩ := Option.bind_eq_some_iff.1 hfurther
  obtain ⟨i, hi⟩ := List.mem_iff_getElem?.1 (mem_typeDecls hdecl)
  obtain ⟨j, hj⟩ := List.mem_iff_getElem?.1 (mem_typeDecls hdecl')
  rw [show d.typeIds.idxOf id = i from hplace hi, show d.typeIds.idxOf next = j from hplace hj]
  rcases Nat.lt_trichotomy j i with hlt | rfl | hlt
  · exact hlt
  · cases hi.symm.trans hj
    exact absurd hinner (h.self _ (List.mem_of_getElem? hi))
  · obtain ⟨hi', hieq⟩ := List.getElem?_eq_some_iff.1 hi
    obtain ⟨hj', hjeq⟩ := List.getElem?_eq_some_iff.1 hj
    have hne := List.pairwise_iff_getElem.1 h.later i j hi' hj' hlt
    rw [hieq, hjeq] at hne
    exact absurd hinner hne

end Declarations

end ShaderBindings.Spirv
