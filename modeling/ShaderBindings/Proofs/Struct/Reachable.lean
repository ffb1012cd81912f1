import ShaderBindings.Proofs.Result
import ShaderBindings.Proofs.Struct.Containment
/-!
# What the walk lists

The walk from the buffer blocks lists every struct found inside them once, each after the structs it
contains, unless these contain it in turn.

## Main definitions

* `Visit.left?`, `ShaderBindings.opened` - the structs that are entered and not yet left.
* `ShaderModule.OnStack` - the invariant of the walk: what may stand on its stack.
* `ShaderModule.Walked` - what a walk has done in the end.

## Main results

* `ShaderModule.walked_of_walk` - a walk lists what it enters, contained structs first.
* `ShaderModule.mem_of_reachable` - the list holds the reachable structs.
* `ShaderModule.nodup_of_reachable` - it holds each of them once.
* `ShaderModule.child_of_reachable` - children stand in front, except on a cycle.
* `ShaderModule.exists_reachable_iff` - the walk fails only where a struct is missing.
-/

set_option autoImplicit false

namespace ShaderBindings

/-- The struct of a stack entry. -/
def Visit.id : Visit → Nat
  | .enter id => id
  | .leave id => id

/-- The struct that is left with a stack entry. -/
def Visit.left? : Visit → Option Nat
  | .enter _ => none
  | .leave id => some id

/-- The structs that were entered and are still to be left. -/
def opened (stack : List Visit) : List Nat := stack.filterMap Visit.left?

/-- No struct is open on the empty stack. -/
@[simp] theorem opened_nil : opened [] = [] := rfl

/-- A struct to be entered is not open. -/
@[simp] theorem opened_enter (id : Nat) (stack : List Visit) :
    opened (.enter id :: stack) = opened stack := rfl

/-- A struct to be left is open. -/
@[simp] theorem opened_leave (id : Nat) (stack : List Visit) :
    opened (.leave id :: stack) = id :: opened stack := rfl

/-- The open structs of two parts of a stack. -/
@[simp] theorem opened_append (stack stack' : List Visit) :
    opened (stack ++ stack') = opened stack ++ opened stack' :=
  List.filterMap_append

/-- Among structs to be entered none is open. -/
@[simp] theorem opened_map_enter (ids : List Nat) : opened (ids.map .enter) = [] := by
  induction ids with
  | nil => rfl
  | cons id ids ih => exact ih

/-- The open structs are those to be left. -/
theorem mem_opened_iff {id : Nat} {stack : List Visit} : id ∈ opened stack ↔ .leave id ∈ stack := by
  simp only [opened, List.mem_filterMap]
  constructor
  · rintro ⟨v, hv, h⟩
    cases v with
    | enter => cases h
    | leave => cases h; exact hv
  · exact fun h => ⟨_, h, rfl⟩

namespace ShaderModule

variable {m : ShaderModule} {seen seen' : List Nat} {stack : List Visit} {order : List Nat}

/-- What stands on the stack of a walk: a struct that is entered is left once, everything above it
is found inside it, and its children were seen or are still to be entered, above it. -/
structure OnStack (m : ShaderModule) (seen : List Nat) (stack : List Visit) : Prop where
  nodup : (opened stack).Nodup
  opened_seen : ∀ id ∈ opened stack, id ∈ seen
  within : stack.Pairwise fun above below => ∀ id, below = .leave id → m.Within id above.id
  children : ∀ above id below, stack = above ++ .leave id :: below →
    ∃ st, m.struct? id = some st ∧ ∀ child ∈ st.children, child ∈ seen ∨ .enter child ∈ above

/-- What a walk has done: it lists the structs that were open and those it entered, each once and
after its children, if they do not contain it. -/
structure Walked (m : ShaderModule) (seen : List Nat) (stack : List Visit)
    (order seen' : List Nat) : Prop where
  nodup : order.Nodup
  mem_order : ∀ id, id ∈ order ↔ id ∈ opened stack ∨ id ∈ seen' ∧ id ∉ seen
  subset : seen ⊆ seen'
  entered : ∀ id, .enter id ∈ stack → id ∈ seen'
  within : ∀ id ∈ seen', id ∈ seen ∨ ∃ root, .enter root ∈ stack ∧ m.Within root id
  children : ∀ id ∈ order, ∃ st, m.struct? id = some st ∧ ∀ child ∈ st.children, child ∈ seen'
  before : ∀ id ∈ order, ∀ st, m.struct? id = some st → ∀ child ∈ st.children,
    [child, id].Sublist order ∨ (child ∈ seen ∧ child ∉ opened stack) ∨ m.Within child id

/-! ## One step -/

/-- What is left on the stack behind its first entry, once its struct was seen.

**Proof sketch.** The first entry is of no use to the others: its struct was seen, and that is all
that a child has to be. -/
theorem OnStack.tail {v : Visit} (h : m.OnStack seen (v :: stack)) (hv : v.id ∈ seen) :
    m.OnStack seen stack where
  nodup := by
    cases v with
    | enter id => exact h.nodup
    | leave id => exact (List.nodup_cons.1 h.nodup).2
  opened_seen := by
    cases v with
    | enter id => exact h.opened_seen
    | leave id => exact fun x hx => h.opened_seen x (List.mem_cons_of_mem id hx)
  within := (List.pairwise_cons.1 h.within).2
  children := by
    rintro above id below rfl
    obtain ⟨st, hst, hchildren⟩ := h.children (v :: above) id below rfl
    refine ⟨st, hst, fun child hchild => ?_⟩
    rcases hchildren child hchild with hseen | hmem
    · exact .inl hseen
    · rcases List.mem_cons.1 hmem with rfl | hmem
      · exact .inl hv
      · exact .inr hmem

/-- A struct that is left below structs to be entered is the first one there or stands below it.

**Proof sketch.** Induction on the structs to be entered. None of them is to be left. -/
theorem eq_of_map_enter_append {ids : List Nat} {id outer : Nat} {above below : List Visit}
    (h : ids.map .enter ++ .leave id :: stack = above ++ .leave outer :: below) :
    (outer = id ∧ above = ids.map .enter) ∨
      ∃ mid, above = ids.map .enter ++ .leave id :: mid ∧ stack = mid ++ .leave outer :: below := by
  induction ids generalizing above with
  | nil =>
    rcases List.cons_eq_append_iff.1 h with ⟨rfl, hcons⟩ | ⟨mid, rfl, hstack⟩
    · cases hcons
      exact .inl ⟨rfl, rfl⟩
    · exact .inr ⟨mid, rfl, hstack⟩
  | cons x ids ih =>
    rcases List.cons_eq_append_iff.1 h with ⟨rfl, hcons⟩ | ⟨above, rfl, htail⟩
    · cases hcons
    · rcases ih htail with ⟨rfl, rfl⟩ | ⟨mid, rfl, hstack⟩
      · exact .inl ⟨rfl, rfl⟩
      · exact .inr ⟨mid, rfl, hstack⟩

/-- Entering a struct puts its unseen children above it.

**Proof sketch.** The struct is open now, and was not before since it was not seen. What is below it
on the stack contains it, so it contains its children too. All children were seen or have just been
put on the stack. For the structs below, the entry that is gone was that of this struct, and it was
seen (`eq_of_map_enter_append`). -/
theorem OnStack.enter {id : Nat} {st : StructType} (h : m.OnStack seen (.enter id :: stack))
    (hid : id ∉ seen) (hst : m.struct? id = some st) :
    m.OnStack (id :: seen)
      ((st.children.filter fun child => !(id :: seen).contains child).map .enter ++
        .leave id :: stack) where
  nodup := by
    rw [opened_append, opened_map_enter, List.nil_append, opened_leave]
    exact List.nodup_cons.2 ⟨fun hmem => hid (h.opened_seen id hmem), h.nodup⟩
  opened_seen := by
    rw [opened_append, opened_map_enter, List.nil_append, opened_leave]
    exact List.forall_mem_cons.2
      ⟨List.mem_cons_self, fun x hx => List.mem_cons_of_mem id (h.opened_seen x hx)⟩
  within := by
    obtain ⟨habove, hstack⟩ := List.pairwise_cons.1 h.within
    rw [List.pairwise_append, List.pairwise_cons]
    refine ⟨?_, ⟨habove, hstack⟩, ?_⟩
    · rw [List.pairwise_map]
      exact List.pairwise_of_forall fun _ _ _ hne => by cases hne
    · intro above habove' below hbelow outer hleave
      obtain ⟨child, hchild, rfl⟩ := List.mem_map.1 habove'
      have hinner : m.Within id child := Within.refl.child hst (List.mem_filter.1 hchild).1
      rcases List.mem_cons.1 hbelow with rfl | hbelow
      · cases hleave
        exact hinner
      · exact (habove below hbelow outer hleave).trans hinner
  children := by
    intro above outer below heq
    rcases eq_of_map_enter_append heq with ⟨rfl, rfl⟩ | ⟨mid, rfl, hstack⟩
    · refine ⟨st, hst, fun child hchild => ?_⟩
      by_cases hseen : child ∈ outer :: seen
      · exact .inl hseen
      · refine .inr (List.mem_map_of_mem (List.mem_filter.2 ⟨hchild, ?_⟩))
        simpa using hseen
    · obtain ⟨st', hst', hchildren⟩ := h.children (.enter id :: mid) outer below
        (by rw [hstack]; rfl)
      refine ⟨st', hst', fun child hchild => ?_⟩
      rcases hchildren child hchild with hseen | hmem
      · exact .inl (List.mem_cons_of_mem id hseen)
      · rcases List.mem_cons.1 hmem with heq' | hmem
        · cases heq'
          exact .inl List.mem_cons_self
        · exact .inr (List.mem_append_right _ (List.mem_cons_of_mem _ hmem))

/-- From the empty stack nothing is listed. -/
theorem Walked.done : m.Walked seen [] [] seen where
  nodup := List.nodup_nil
  mem_order := by simp
  subset := List.Subset.refl seen
  entered := by simp
  within := fun id hid => .inl hid
  children := by simp
  before := by simp

/-- A struct is left behind what was above it, so it is listed before what is below.

**Proof sketch.** The struct is listed in front of all that is below, and it is none of that, as no
struct is open twice. All of its children have been seen: those that are open contain it, by the
order on the stack, and all others have been left, so they are listed before. -/
theorem Walked.leave {id : Nat} (h : m.Walked seen stack order seen')
    (hstack : m.OnStack seen (.leave id :: stack)) :
    m.Walked seen (.leave id :: stack) (id :: order) seen' := by
  have hid : id ∈ seen := hstack.opened_seen id List.mem_cons_self
  have hopened : id ∉ opened stack := (List.nodup_cons.1 hstack.nodup).1
  obtain ⟨st, hst, hchildren⟩ := hstack.children [] id stack rfl
  have hseen : ∀ child ∈ st.children, child ∈ seen := by
    intro child hchild
    rcases hchildren child hchild with hseen | hmem
    · exact hseen
    · cases hmem
  refine ⟨?_, ?_, h.subset, ?_, ?_, ?_, ?_⟩
  · refine List.nodup_cons.2 ⟨fun hmem => ?_, h.nodup⟩
    rcases (h.mem_order id).1 hmem with hmem | ⟨-, hnew⟩
    · exact hopened hmem
    · exact hnew hid
  · intro x
    rw [List.mem_cons, h.mem_order, opened_leave, List.mem_cons, or_assoc]
  · intro x hx
    rcases List.mem_cons.1 hx with hx | hx
    · cases hx
    · exact h.entered x hx
  · intro x hx
    rcases h.within x hx with hx | ⟨root, hroot, hwithin⟩
    · exact .inl hx
    · exact .inr ⟨root, List.mem_cons_of_mem _ hroot, hwithin⟩
  · exact List.forall_mem_cons.2
      ⟨⟨st, hst, fun child hchild => h.subset (hseen child hchild)⟩, h.children⟩
  · intro x hx st' hst' child hchild
    rcases List.mem_cons.1 hx with rfl | hx
    · cases hst.symm.trans hst'
      by_cases hopen : child ∈ opened (.leave x :: stack)
      · -- a child that is open contains the struct, or is the struct itself
        refine .inr (.inr ?_)
        rcases List.mem_cons.1 hopen with rfl | hopen
        · exact Within.refl
        · exact (List.pairwise_cons.1 hstack.within).1 _ (mem_opened_iff.1 hopen) child rfl
      · exact .inr (.inl ⟨hseen child hchild, hopen⟩)
    · rcases h.before x hx st' hst' child hchild with hbefore | ⟨hold, hclosed⟩ | hw
      · exact .inl (hbefore.cons id)
      · by_cases heq' : child = id
        · exact .inl (heq' ▸ (List.singleton_sublist.2 hx).cons_cons child)
        · refine .inr (.inl ⟨hold, fun hmem => ?_⟩)
          rcases List.mem_cons.1 hmem with hmem | hmem
          · exact heq' hmem
          · exact hclosed hmem
      · exact .inr (.inr hw)

/-- A struct that was seen is passed over.

**Proof sketch.** Nothing is listed for it, and it was seen, which is all that an entry asks for. -/
theorem Walked.skip {id : Nat} (h : m.Walked seen stack order seen') (hid : id ∈ seen) :
    m.Walked seen (.enter id :: stack) order seen' where
  nodup := h.nodup
  mem_order := h.mem_order
  subset := h.subset
  entered := by
    intro x hx
    rcases List.mem_cons.1 hx with hx | hx
    · cases hx
      exact h.subset hid
    · exact h.entered x hx
  within := by
    intro x hx
    rcases h.within x hx with hx | ⟨root, hroot, hwithin⟩
    · exact .inl hx
    · exact .inr ⟨root, List.mem_cons_of_mem _ hroot, hwithin⟩
  children := h.children
  before := h.before

/-- A struct that is entered makes room for its children.

**Proof sketch.** The walk goes on with the struct to be left below its children. What is found
inside a child is found inside the struct, and the struct itself is now listed, once it is left. -/
theorem Walked.enter {id : Nat} {st : StructType} {ids : List Nat}
    (h : m.Walked (id :: seen) (ids.map .enter ++ .leave id :: stack) order seen')
    (hid : id ∉ seen) (hst : m.struct? id = some st) (hids : ids ⊆ st.children) :
    m.Walked seen (.enter id :: stack) order seen' := by
  have hopened : opened (ids.map .enter ++ .leave id :: stack) = id :: opened stack := by
    rw [opened_append, opened_map_enter, List.nil_append, opened_leave]
  have hseen : id ∈ seen' := h.subset List.mem_cons_self
  refine ⟨h.nodup, ?_, ?_, ?_, ?_, h.children, ?_⟩
  · intro x
    rw [h.mem_order, hopened, opened_enter, List.mem_cons, List.mem_cons]
    by_cases hx : x = id
    · simp [hx, hid, hseen]
    · simp [hx]
  · exact fun x hx => h.subset (List.mem_cons_of_mem id hx)
  · intro x hx
    rcases List.mem_cons.1 hx with hx | hx
    · cases hx
      exact hseen
    · exact h.entered x (List.mem_append_right _ (List.mem_cons_of_mem _ hx))
  · intro x hx
    rcases h.within x hx with hx | ⟨root, hroot, hwithin⟩
    · rcases List.mem_cons.1 hx with rfl | hx
      · exact .inr ⟨x, List.mem_cons_self, Within.refl⟩
      · exact .inl hx
    · rcases List.mem_append.1 hroot with hroot | hroot
      · obtain ⟨child, hchild, heq⟩ := List.mem_map.1 hroot
        cases heq
        exact .inr ⟨id, List.mem_cons_self, (Within.refl.child hst (hids hchild)).trans hwithin⟩
      · rcases List.mem_cons.1 hroot with hroot | hroot
        · cases hroot
        · exact .inr ⟨root, List.mem_cons_of_mem _ hroot, hwithin⟩
  · intro x hx st' hst' child hchild
    rcases h.before x hx st' hst' child hchild with hbefore | ⟨hold, hclosed⟩ | hw
    · exact .inl hbefore
    · rw [hopened, List.mem_cons, not_or] at hclosed
      rcases List.mem_cons.1 hold with hold | hold
      · exact absurd hold hclosed.1
      · exact .inr (.inl ⟨hold, hclosed.2⟩)
    · exact .inr (.inr hw)

/-! ## Walks -/

/-- A struct to be left is listed before what is below. -/
theorem walk_leave (id : Nat) :
    m.walk seen (.leave id :: stack) = (m.walk seen stack).map fun r => (id :: r.1, r.2) := by
  rw [walk]
  cases m.walk seen stack <;> rfl

/-- A struct that was seen is not entered again. -/
theorem walk_enter_of_mem {id : Nat} (hid : id ∈ seen) :
    m.walk seen (.enter id :: stack) = m.walk seen stack := by
  rw [walk, dif_pos hid]

/-- A struct that was not seen makes room for its children, above itself. -/
theorem walk_enter_of_notMem {id : Nat} {st : StructType} (hid : id ∉ seen)
    (hst : m.struct? id = some st) :
    m.walk seen (.enter id :: stack) = m.walk (id :: seen)
      ((st.children.filter fun child => !(id :: seen).contains child).map .enter ++
        .leave id :: stack) := by
  rw [walk, dif_neg hid]
  split
  · next hnone => simp [hst] at hnone
  · next st' hst' =>
    cases hst.symm.trans hst'
    rfl

/-- A struct that is missing is reported. -/
theorem walk_enter_of_none {id : Nat} (hid : id ∉ seen) (hst : m.struct? id = none) :
    m.walk seen (.enter id :: stack) = .error (m.missingStruct id) := by
  rw [walk, dif_neg hid]
  split
  · rfl
  · next st hst' => simp [hst] at hst'

/-- A walk lists the structs that are open on its stack and those it enters, contained ones first.

**Proof sketch.** By the recursion of the walk. Each step keeps what stands on the stack as it has
to be, and what the rest of the walk has done is seen from the stack before the step. -/
theorem walked_of_walk {seen seen' : List Nat} {stack : List Visit} {order : List Nat}
    (h : m.walk seen stack = .ok (order, seen')) (hstack : m.OnStack seen stack) :
    m.Walked seen stack order seen' := by
  match stack with
  | [] =>
    rw [walk] at h
    cases h
    exact .done
  | .leave id :: stack =>
    rw [walk_leave, Result.map_eq_ok_iff] at h
    obtain ⟨⟨order, seen⟩, hwalk, heq⟩ := h
    cases heq
    have hid := hstack.opened_seen id List.mem_cons_self
    exact (walked_of_walk hwalk (hstack.tail hid)).leave hstack
  | .enter id :: stack =>
    by_cases hid : id ∈ seen
    · rw [walk_enter_of_mem hid] at h
      exact (walked_of_walk h (hstack.tail hid)).skip hid
    · cases hst : m.struct? id with
      | none =>
        rw [walk_enter_of_none hid hst] at h
        cases h
      | some st =>
        have hlt := remaining_cons_lt hst hid
        rw [walk_enter_of_notMem hid hst] at h
        exact (walked_of_walk h (hstack.enter hid hst)).enter hid hst (List.filter_subset_self _)
termination_by (m.remaining seen, stack.length)
decreasing_by
  · exact Prod.Lex.right _ (by simp)
  · exact Prod.Lex.right _ (by simp)
  · exact Prod.Lex.left _ _ (by assumption)

/-- A walk fails only where it comes to a struct that is missing.

**Proof sketch.** By recursion as in `walk`. What is found inside a child is found inside its
struct, so nothing is missing there either. -/
theorem exists_walk {seen : List Nat} {stack : List Visit}
    (h : ∀ root, .enter root ∈ stack → ∀ id, m.Within root id → (m.struct? id).isSome) :
    ∃ r, m.walk seen stack = .ok r := by
  match stack with
  | [] => exact ⟨_, by rw [walk]⟩
  | .leave id :: stack =>
    obtain ⟨r, hr⟩ : ∃ r, m.walk seen stack = .ok r :=
      exists_walk fun root hroot => h root (List.mem_cons_of_mem _ hroot)
    exact ⟨_, by rw [walk_leave, hr]; rfl⟩
  | .enter id :: stack =>
    by_cases hid : id ∈ seen
    · rw [walk_enter_of_mem hid]
      exact exists_walk fun root hroot => h root (List.mem_cons_of_mem _ hroot)
    · have hwithin := h id List.mem_cons_self
      obtain ⟨st, hst⟩ := Option.isSome_iff_exists.1 (hwithin id Within.refl)
      have hlt := remaining_cons_lt hst hid
      rw [walk_enter_of_notMem hid hst]
      refine exists_walk fun root hroot => ?_
      rcases List.mem_append.1 hroot with hroot | hroot
      · obtain ⟨child, hchild, heq⟩ := List.mem_map.1 hroot
        cases heq
        have hinner : m.Within id root := Within.refl.child hst (List.mem_filter.1 hchild).1
        exact fun x hx => hwithin x (hinner.trans hx)
      · rcases List.mem_cons.1 hroot with hroot | hroot
        · cases hroot
        · exact h root (List.mem_cons_of_mem _ hroot)
termination_by (m.remaining seen, stack.length)
decreasing_by
  · exact Prod.Lex.right _ (by simp)
  · exact Prod.Lex.right _ (by simp)
  · exact Prod.Lex.left _ _ (by assumption)

/-! ## Blocks -/

/-- What the walks from blocks list, the structs in `seen` left out. The last clause is about
cycles: a struct may stand in front of one that it contains only if it is found inside that one. -/
structure Listed (m : ShaderModule) (seen : List Nat) (blocks : List Resource)
    (order : List Nat) : Prop where
  nodup : order.Nodup
  unseen : ∀ id ∈ order, id ∉ seen
  within : ∀ id ∈ order, ∃ block ∈ blocks, ∃ root, block.ty.base.structId? = some root ∧
    m.Within root id
  roots : ∀ block ∈ blocks, ∃ root, block.ty.base.structId? = some root ∧
    (root ∈ seen ∨ root ∈ order)
  children : ∀ id ∈ order, ∃ st, m.struct? id = some st ∧ ∀ child ∈ st.children,
    child ∈ seen ∨ child ∈ order
  before : ∀ id ∈ order, ∀ st, m.struct? id = some st → ∀ child ∈ st.children,
    [child, id].Sublist order ∨ child ∈ seen ∨ m.Within child id

/-- A walk starts with one struct to be entered. -/
theorem onStack_enter (root : Nat) : m.OnStack seen [.enter root] where
  nodup := List.nodup_nil
  opened_seen := by simp
  within := List.pairwise_singleton _ _
  children := by
    intro above id below heq
    rcases List.cons_eq_append_iff.1 heq with ⟨-, hcons⟩ | ⟨above, -, hnil⟩
    · cases hcons
    · simp at hnil

/-- Without blocks nothing is listed. -/
theorem Listed.nil : m.Listed seen [] [] :=
  ⟨List.nodup_nil, by simp, by simp, by simp, by simp, by simp⟩

/-- A walk from one block lists the structs seen behind it that were not seen before. -/
theorem mem_of_walked_enter {root id : Nat} {seen' first : List Nat}
    (h : m.Walked seen [.enter root] first seen') : id ∈ first ↔ id ∈ seen' ∧ id ∉ seen := by
  have := h.mem_order id
  simpa using this

/-- What is seen behind the first block, or listed for the others, was seen before or is listed.

**Proof sketch.** What was seen behind the first block was listed for it or seen before
(`mem_of_walked_enter`). -/
theorem mem_or_mem_append_of_walked {root id : Nat} {seen' first rest : List Nat}
    (h : m.Walked seen [.enter root] first seen') (hid : id ∈ seen' ∨ id ∈ rest) :
    id ∈ seen ∨ id ∈ first ++ rest := by
  by_cases hold : id ∈ seen
  · exact .inl hold
  · rcases hid with hid | hid
    · exact .inr (List.mem_append_left _ ((mem_of_walked_enter h).2 ⟨hid, hold⟩))
    · exact .inr (List.mem_append_right _ hid)

/-- What is listed for a block and for the others behind it.

**Proof sketch.** Field by field, from the walk of the first block and from what is listed for the
others. Nothing is listed twice, because what the first walk lists has been seen by the others. -/
theorem Listed.cons {block : Resource} {blocks : List Resource} {root : Nat}
    {seen' first rest : List Nat} (hroot : block.ty.base.structId? = some root)
    (hfirst : m.Walked seen [.enter root] first seen') (hrest : m.Listed seen' blocks rest) :
    m.Listed seen (block :: blocks) (first ++ rest) where
  nodup := by
    refine List.nodup_append.2 ⟨hfirst.nodup, hrest.nodup, ?_⟩
    rintro x hx _ hx' rfl
    exact hrest.unseen x hx' ((mem_of_walked_enter hfirst).1 hx).1
  unseen := by
    intro x hx
    rcases List.mem_append.1 hx with hx | hx
    · exact ((mem_of_walked_enter hfirst).1 hx).2
    · exact fun hold => hrest.unseen x hx (hfirst.subset hold)
  within := by
    intro x hx
    rcases List.mem_append.1 hx with hx | hx
    · obtain ⟨hnew, hold⟩ := (mem_of_walked_enter hfirst).1 hx
      rcases hfirst.within x hnew with hmem | ⟨r, hr, hwithin⟩
      · exact absurd hmem hold
      · cases List.mem_singleton.1 hr
        exact ⟨block, List.mem_cons_self, root, hroot, hwithin⟩
    · obtain ⟨b, hb, hwithin⟩ := hrest.within x hx
      exact ⟨b, List.mem_cons_of_mem _ hb, hwithin⟩
  roots := by
    refine List.forall_mem_cons.2 ⟨⟨root, hroot, ?_⟩, fun b hb => ?_⟩
    · have hentered := hfirst.entered root List.mem_cons_self
      exact mem_or_mem_append_of_walked hfirst (.inl hentered)
    · obtain ⟨r, hr, hmem⟩ := hrest.roots b hb
      exact ⟨r, hr, mem_or_mem_append_of_walked hfirst hmem⟩
  children := by
    intro x hx
    rcases List.mem_append.1 hx with hx | hx
    · obtain ⟨st, hst, hchildren⟩ := hfirst.children x hx
      exact ⟨st, hst, fun child hchild =>
        mem_or_mem_append_of_walked hfirst (.inl (hchildren child hchild))⟩
    · obtain ⟨st, hst, hchildren⟩ := hrest.children x hx
      exact ⟨st, hst, fun child hchild =>
        mem_or_mem_append_of_walked hfirst (hchildren child hchild)⟩
  before := by
    intro x hx st hst child hchild
    rcases List.mem_append.1 hx with hx | hx
    · rcases hfirst.before x hx st hst child hchild with hbefore | ⟨hold, -⟩ | hw
      · exact .inl (hbefore.trans (List.sublist_append_left first rest))
      · exact .inr (.inl hold)
      · exact .inr (.inr hw)
    · rcases hrest.before x hx st hst child hchild with hbefore | hold | hw
      · exact .inl (hbefore.trans (List.sublist_append_right first rest))
      · by_cases hnew : child ∈ seen
        · exact .inr (.inl hnew)
        · have hfound := (mem_of_walked_enter hfirst).2 ⟨hold, hnew⟩
          have hlast := (List.singleton_sublist.2 hfound).append (List.singleton_sublist.2 hx)
          exact .inl hlast
      · exact .inr (.inr hw)

/-- Walking from the blocks in turn lists what is found inside them.

**Proof sketch.** Induction on the blocks, with the walk of each (`walked_of_walk`) in front of what
is listed for the others (`Listed.cons`). -/
theorem listed_of_walkBlocks {blocks : List Resource}
    (h : m.walkBlocks seen blocks = .ok order) : m.Listed seen blocks order := by
  induction blocks generalizing seen order with
  | nil =>
    cases h
    exact .nil
  | cons block blocks ih =>
    simp only [walkBlocks] at h
    split at h
    · cases h
    · next root hroot =>
      simp only [Result.bind_eq_ok_iff] at h
      obtain ⟨⟨first, seen'⟩, hwalk, rest, hrest, heq⟩ := h
      cases heq
      exact .cons hroot (walked_of_walk hwalk (onStack_enter root)) (ih hrest)

/-! ## Reachable structs -/

/-- The list of the reachable structs is what is listed for the buffer blocks. -/
theorem listed_of_reachable (h : m.reachable = .ok order) :
    m.Listed [] m.resources.bufferBlocks order :=
  listed_of_walkBlocks h

/-- No struct is listed twice. -/
theorem nodup_of_reachable (h : m.reachable = .ok order) : order.Nodup :=
  (listed_of_reachable h).nodup

/-- The structs in the list are those found inside buffer blocks.

**Proof sketch.** What is listed is found inside a block. The other way round, the struct of a block
is listed and so are the children of listed structs, hence all that is found inside. -/
theorem mem_of_reachable (h : m.reachable = .ok order) (id : Nat) :
    id ∈ order ↔ m.IsReachable id := by
  have hlisted := listed_of_reachable h
  constructor
  · exact hlisted.within id
  · rintro ⟨block, hblock, root, hroot, hwithin⟩
    obtain ⟨root', hroot', hmem⟩ := hlisted.roots block hblock
    cases hroot.symm.trans hroot'
    -- from the struct of the block, every child of a listed struct is listed
    induction hwithin with
    | refl => simpa using hmem
    | tail _ hcontains ih =>
      obtain ⟨st, hst, hchild⟩ := hcontains
      obtain ⟨st', hst', hchildren⟩ := hlisted.children _ ih
      cases hst.symm.trans hst'
      simpa using hchildren _ hchild

/-- A struct in the list stands behind its children, unless these contain it. -/
theorem child_of_reachable (h : m.reachable = .ok order) {id child : Nat} {st : StructType}
    (hid : id ∈ order) (hst : m.struct? id = some st) (hchild : child ∈ st.children) :
    [child, id].Sublist order ∨ m.Within child id := by
  rcases (listed_of_reachable h).before id hid st hst child hchild with hbefore | hold | hw
  · exact .inl hbefore
  · cases hold
  · exact .inr hw

/-- Blocks with nothing missing inside them can be walked.

**Proof sketch.** Induction on the blocks. Each of them can be walked (`exists_walk`), whatever was
seen before. -/
theorem exists_walkBlocks {blocks : List Resource}
    (h : ∀ block ∈ blocks, ∃ root, block.ty.base.structId? = some root ∧
      ∀ id, m.Within root id → (m.struct? id).isSome) :
    ∃ order, m.walkBlocks seen blocks = .ok order := by
  induction blocks generalizing seen with
  | nil => exact ⟨[], rfl⟩
  | cons block blocks ih =>
    obtain ⟨⟨root, hroot, hwithin⟩, hblocks⟩ := List.forall_mem_cons.1 h
    have hstack : ∀ r, Visit.enter r ∈ [Visit.enter root] → ∀ id, m.Within r id →
        (m.struct? id).isSome := by
      intro r hr
      cases List.mem_singleton.1 hr
      exact hwithin
    obtain ⟨⟨first, seen'⟩, hwalk⟩ : ∃ r, m.walk seen [.enter root] = .ok r := exists_walk hstack
    obtain ⟨rest, hrest⟩ : ∃ rest, m.walkBlocks seen' blocks = .ok rest := ih hblocks
    refine ⟨first ++ rest, ?_⟩
    simp only [walkBlocks, hroot, hwalk]
    change (m.walkBlocks seen' blocks).map (first ++ ·) = _
    rw [hrest]
    rfl

/-- The reachable structs can be listed exactly if none of them is missing.

**Proof sketch.** If there is a list, all blocks are structs and the listed structs are there. If
nothing is missing the blocks can be walked (`exists_walkBlocks`). -/
theorem exists_reachable_iff : (∃ order, m.reachable = .ok order) ↔ m.IsClosed := by
  constructor
  · rintro ⟨order, h⟩
    have hlisted := listed_of_reachable h
    refine ⟨fun block hblock => ?_, fun id hid => ?_⟩
    · obtain ⟨root, hroot, -⟩ := hlisted.roots block hblock
      rw [hroot]
      rfl
    · obtain ⟨st, hst, -⟩ := hlisted.children id ((mem_of_reachable h id).2 hid)
      rw [hst]
      rfl
  · rintro ⟨hblocks, hstructs⟩
    refine exists_walkBlocks fun block hblock => ?_
    obtain ⟨root, hroot⟩ := Option.isSome_iff_exists.1 (hblocks block hblock)
    exact ⟨root, hroot, fun id hid => hstructs id ⟨block, hblock, root, hroot, hid⟩⟩

end ShaderModule

end ShaderBindings
