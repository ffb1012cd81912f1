import ShaderBindings.Proofs.Sorted
import ShaderBindings.Proofs.Struct.Reachable
/-!
# The postorder of the structs

The walk from the buffer blocks keeps a stack of its own and puts children on it before it looks at
them, so a struct can stand on the stack several times. What it lists is the postorder of the plain
recursive search, which enters a struct when it comes to it, and the children of a struct before it
leaves the struct.

## Main definitions

* `ShaderBindings.Searched` - what a search has listed, and what it has visited in the end.
* `ShaderModule.search` - the recursive depth-first search.
* `ShaderModule.blockRoots` - the structs of the buffer blocks.

## Main results

* `ShaderModule.walk_append` - a walk deals with the entries of its stack one after the other.
* `ShaderModule.walk_map_enter` - a walk comes to the same as a search.
* `ShaderModule.before_of_transGen` - without cycles a struct stands behind all it contains.
* `ShaderModule.reachable_isPostorder` - what the list of the reachable structs is, if there is one.

## Implementation notes

The search hands the structs it has visited on from one child to the next. That they never become
fewer is a part of its result, since the search of the next child ends for this reason.
-/

set_option autoImplicit false

namespace ShaderBindings

/-- What a search has done: the structs it has left, in this order, and those visited in the end,
which are the ones visited before and more. -/
structure Searched (seen : List Nat) where
  order : List Nat
  visited : List Nat
  grows : seen ⊆ visited

namespace ShaderModule

variable {m : ShaderModule} {seen seen' : List Nat} {stack stack' : List Visit} {ids : List Nat}

/-! ## The recursive search -/

/-- The more structs were seen, the fewer are left to enter. -/
theorem remaining_le_of_subset (m : ShaderModule) (h : seen ⊆ seen') :
    m.remaining seen' ≤ m.remaining seen := by
  unfold remaining
  apply List.countP_mono_left
  intro st _ hst
  simp only [Bool.not_eq_true', List.contains_eq_mem, decide_eq_false_iff_not] at hst ⊢
  exact fun hmem => hst (h hmem)

/-- Visits structs one after the other, leaving out those that were seen. A struct that is visited
is entered, then the structs its members refer to are visited in the order of the members, and then
it is left. -/
def search (m : ShaderModule) (seen : List Nat) (ids : List Nat) : Result (Searched seen) :=
  match ids with
  | [] => .ok { order := [], visited := seen, grows := List.Subset.refl seen }
  | id :: rest =>
    if _hs : id ∈ seen then m.search seen rest
    else
      match _h : m.struct? id with
      | none => .error (m.missingStruct id)
      | some st => do
        let inner ← m.search (id :: seen) st.children
        let others ← m.search inner.visited rest
        return { order := inner.order ++ id :: others.order
                 visited := others.visited
                 grows := List.Subset.trans (List.subset_cons_self id seen)
                   (List.Subset.trans inner.grows others.grows) }
termination_by (m.remaining seen, ids.length)
decreasing_by
  · exact Prod.Lex.right _ (by simp)
  · exact Prod.Lex.left _ _ (remaining_cons_lt _h _hs)
  · exact Prod.Lex.left _ _ (Nat.lt_of_le_of_lt (m.remaining_le_of_subset inner.grows)
      (remaining_cons_lt _h _hs))

/-- A search from no structs lists none. -/
theorem search_nil :
    m.search seen [] = .ok { order := [], visited := seen, grows := List.Subset.refl seen } := by
  rw [search]

/-- A struct that was seen is passed over. -/
theorem search_cons_of_mem {id : Nat} (hid : id ∈ seen) :
    m.search seen (id :: ids) = m.search seen ids := by
  rw [search, dif_pos hid]

/-- A missing struct is reported. -/
theorem search_cons_of_none {id : Nat} (hid : id ∉ seen) (hst : m.struct? id = none) :
    m.search seen (id :: ids) = .error (m.missingStruct id) := by
  rw [search, dif_neg hid]
  split
  · rfl
  · next st hst' => simp [hst] at hst'

/-- A new struct is listed behind all that is found from its children, and then the search goes
on. -/
theorem search_cons_of_notMem {id : Nat} {st : StructType} (hid : id ∉ seen)
    (hst : m.struct? id = some st) :
    m.search seen (id :: ids) = m.search (id :: seen) st.children >>= fun inner =>
      (m.search inner.visited ids).map fun others =>
        { order := inner.order ++ id :: others.order
          visited := others.visited
          grows := List.Subset.trans (List.subset_cons_self id seen)
            (List.Subset.trans inner.grows others.grows) } := by
  rw [search, dif_neg hid]
  split
  · next hnone => simp [hst] at hnone
  · next st' hst' =>
    cases hst.symm.trans hst'
    rfl

/-- What was seen before can be left out of the structs to visit.

**Proof sketch.** Induction on the structs. What was seen before is passed over anyway, and a search
only adds to what was seen. -/
theorem search_filter {old : List Nat} (h : old ⊆ seen) (ids : List Nat) :
    m.search seen (ids.filter fun id => !old.contains id) = m.search seen ids := by
  induction ids generalizing seen with
  | nil => rfl
  | cons id rest ih =>
    by_cases hold : id ∈ old
    · rw [List.filter_cons_of_neg (by simpa using hold), search_cons_of_mem (h hold), ih h]
    · rw [List.filter_cons_of_pos (by simpa using hold)]
      by_cases hid : id ∈ seen
      · rw [search_cons_of_mem hid, search_cons_of_mem hid, ih h]
      · cases hst : m.struct? id with
        | none => rw [search_cons_of_none hid hst, search_cons_of_none hid hst]
        | some st =>
          rw [search_cons_of_notMem hid hst, search_cons_of_notMem hid hst]
          congr 1
          funext inner
          have hinner : old ⊆ inner.visited :=
            List.Subset.trans h (List.Subset.trans (List.subset_cons_self id seen) inner.grows)
          rw [ih hinner]

/-! ## Walks with a stack -/

/-- A walk first deals with what stands at the top of its stack, and then with the rest.

**Proof sketch.** By recursion as in `walk`, where each step either takes an entry off the stack or
leaves fewer structs to enter. -/
theorem walk_append (m : ShaderModule) (seen : List Nat) (stack stack' : List Visit) :
    m.walk seen (stack ++ stack') = m.walk seen stack >>= fun r =>
      (m.walk r.2 stack').map fun r' => (r.1 ++ r'.1, r'.2) := by
  match stack with
  | [] =>
    rw [List.nil_append, walk.eq_def m seen []]
    change m.walk seen stack' = (m.walk seen stack').map fun r' => ([] ++ r'.1, r'.2)
    cases m.walk seen stack' <;> rfl
  | .leave id :: stack =>
    rw [List.cons_append, walk_leave, walk_leave, walk_append m seen stack stack']
    cases m.walk seen stack with
    | error e => rfl
    | ok r =>
      change ((m.walk r.2 stack').map _).map _ = (m.walk r.2 stack').map _
      cases m.walk r.2 stack' <;> rfl
  | .enter id :: stack =>
    by_cases hid : id ∈ seen
    · rw [List.cons_append, walk_enter_of_mem hid, walk_enter_of_mem hid,
        walk_append m seen stack stack']
    · cases hst : m.struct? id with
      | none =>
        rw [List.cons_append, walk_enter_of_none hid hst, walk_enter_of_none hid hst]
        rfl
      | some st =>
        -- the stack grows by the children here, but fewer structs are left to enter
        have hlt := remaining_cons_lt hst hid
        rw [List.cons_append, walk_enter_of_notMem hid hst, walk_enter_of_notMem hid hst,
          ← List.cons_append, ← List.append_assoc, walk_append m (id :: seen) _ stack']
termination_by (m.remaining seen, stack.length)
decreasing_by
  · exact Prod.Lex.right _ (by simp)
  · exact Prod.Lex.right _ (by simp)
  · exact Prod.Lex.left _ _ (by assumption)

/-- A walk that has structs to enter on its stack, and nothing else, comes to the same as a search.

**Proof sketch.** By the recursion of the search. The walk leaves out the children that were seen
when their struct was entered, and a search passes over them later on. -/
theorem walk_map_enter (m : ShaderModule) (seen ids : List Nat) :
    m.walk seen (ids.map .enter) = (m.search seen ids).map fun s => (s.order, s.visited) := by
  match ids with
  | [] =>
    rw [search_nil, List.map_nil, walk]
    rfl
  | id :: rest =>
    rw [List.map_cons]
    by_cases hid : id ∈ seen
    · rw [walk_enter_of_mem hid, search_cons_of_mem hid, walk_map_enter m seen rest]
    · cases hst : m.struct? id with
      | none =>
        rw [walk_enter_of_none hid hst, search_cons_of_none hid hst]
        rfl
      | some st =>
        have hlt := remaining_cons_lt hst hid
        -- the children come off the stack before the struct is left, and then the others
        rw [walk_enter_of_notMem hid hst, walk_append, walk_map_enter m (id :: seen),
          search_filter (List.Subset.refl _), search_cons_of_notMem hid hst]
        cases m.search (id :: seen) st.children with
        | error e => rfl
        | ok inner =>
          have hle := m.remaining_le_of_subset inner.grows
          change (m.walk inner.visited (.leave id :: rest.map .enter)).map _ =
            ((m.search inner.visited rest).map _).map _
          rw [walk_leave, walk_map_enter m inner.visited rest]
          cases m.search inner.visited rest <;> rfl
termination_by (m.remaining seen, ids.length)
decreasing_by
  · exact Prod.Lex.right _ (by simp)
  · exact Prod.Lex.left _ _ (by assumption)
  · exact Prod.Lex.left _ _ (by omega)

/-! ## Blocks -/

/-- The structs of the buffer blocks: those of uniform buffers, storage buffers and push-constant
blocks, in this order. -/
def blockRoots (m : ShaderModule) : List Nat :=
  m.resources.bufferBlocks.filterMap (·.ty.base.structId?)

/-- Blocks that are all structs are walked as if these stood on one stack.

**Proof sketch.** Induction on the blocks. The walk from the first one, and then from the others, is
the walk from both (`walk_append`). -/
theorem walkBlocks_eq_walk {blocks : List Resource}
    (h : ∀ block ∈ blocks, block.ty.base.structId?.isSome) :
    m.walkBlocks seen blocks =
      (m.walk seen ((blocks.filterMap (·.ty.base.structId?)).map .enter)).map (·.1) := by
  induction blocks generalizing seen with
  | nil =>
    rw [walkBlocks, List.filterMap_nil, List.map_nil, walk]
    rfl
  | cons block blocks ih =>
    obtain ⟨hblock, hblocks⟩ := List.forall_mem_cons.1 h
    obtain ⟨root, hroot⟩ := Option.isSome_iff_exists.1 hblock
    have hroots : (block :: blocks).filterMap (·.ty.base.structId?) =
        root :: blocks.filterMap (·.ty.base.structId?) := List.filterMap_cons_some hroot
    have hwalk := m.walk_append seen [.enter root]
      ((blocks.filterMap (·.ty.base.structId?)).map .enter)
    rw [List.singleton_append] at hwalk
    rw [hroots, List.map_cons, hwalk]
    simp only [walkBlocks, hroot]
    cases m.walk seen [.enter root] with
    | error e => rfl
    | ok r =>
      change (m.walkBlocks r.2 blocks).map (r.1 ++ ·) = ((m.walk r.2 _).map _).map _
      rw [ih hblocks]
      cases m.walk r.2 ((blocks.filterMap (·.ty.base.structId?)).map .enter) <;> rfl

/-- If all buffer blocks are structs, the list of the reachable structs is what a search from these
lists. -/
theorem reachable_eq_search
    (h : ∀ block ∈ m.resources.bufferBlocks, block.ty.base.structId?.isSome) :
    m.reachable = (m.search [] m.blockRoots).map (·.order) := by
  rw [reachable, walkBlocks_eq_walk h, walk_map_enter, blockRoots]
  cases m.search [] (m.resources.bufferBlocks.filterMap (·.ty.base.structId?)) <;> rfl

/-! ## Order of the list -/

/-- If no reachable struct contains itself, a struct stands behind all structs it contains, at any
depth.

**Proof sketch.** Induction on the containment. A child stands in front of its struct, or contains
it in turn (`child_of_reachable`), and that is excluded. Pairs in order are put together by
`pair_sublist_trans`, as no struct is listed twice. -/
theorem before_of_transGen {order : List Nat} (h : m.reachable = .ok order)
    (hacyclic : ∀ id, m.IsReachable id → ¬Relation.TransGen m.Contains id id) {id inner : Nat}
    (hid : id ∈ order) (hinner : Relation.TransGen m.Contains id inner) :
    [inner, id].Sublist order := by
  have hchild (outer child : Nat) (houter : outer ∈ order) (hcontains : m.Contains outer child) :
      [child, outer].Sublist order := by
    obtain ⟨st, hst, hmem⟩ := hcontains
    rcases child_of_reachable h houter hst hmem with hbefore | hwithin
    · exact hbefore
    · -- otherwise the struct is found inside its own child
      refine absurd ?_ (hacyclic outer ((mem_of_reachable h outer).1 houter))
      exact Relation.TransGen.head' ⟨st, hst, hmem⟩ hwithin
  induction hinner with
  | single hcontains => exact hchild id _ hid hcontains
  | tail _ hcontains ih =>
    have houter := ih.subset List.mem_cons_self
    exact pair_sublist_trans (nodup_of_reachable h) (hchild _ _ houter hcontains) ih

/-- **The list of the reachable structs.** There is none exactly if a buffer block is no struct or a
struct found inside one is missing. Otherwise it holds the structs found inside the buffer blocks,
each once, in the postorder of the depth-first search, and if no reachable struct contains itself,
each stands behind all structs it contains.

**Proof sketch.** The list is there exactly if the module is closed (`exists_reachable_iff`). Then
it is `nodup_of_reachable`, `mem_of_reachable`, `reachable_eq_search` and `before_of_transGen`. -/
theorem reachable_isPostorder (m : ShaderModule) :
    ((∃ e, m.reachable = .error e) ↔
      (∃ block ∈ m.resources.bufferBlocks, block.ty.base.structId? = none) ∨
        ∃ id, m.IsReachable id ∧ m.struct? id = none) ∧
    ∀ order, m.reachable = .ok order →
      order.Nodup ∧ (∀ id, id ∈ order ↔ m.IsReachable id) ∧
        (m.search [] m.blockRoots).map (·.order) = .ok order ∧
        ((∀ id, m.IsReachable id → ¬Relation.TransGen m.Contains id id) → ∀ id ∈ order, ∀ inner,
          Relation.TransGen m.Contains id inner → [inner, id].Sublist order) := by
  constructor
  · have hopen : ¬m.IsClosed ↔
        (∃ block ∈ m.resources.bufferBlocks, block.ty.base.structId? = none) ∨
          ∃ id, m.IsReachable id ∧ m.struct? id = none := by
      simp only [IsClosed, not_and_or, not_forall, Option.not_isSome_iff_eq_none, exists_prop]
    rw [← hopen, ← exists_reachable_iff]
    cases m.reachable with
    | error e => simp
    | ok order => simp
  · intro order h
    obtain ⟨hblocks, -⟩ := exists_reachable_iff.1 ⟨order, h⟩
    refine ⟨nodup_of_reachable h, mem_of_reachable h, ?_, fun hacyclic id hid inner hinner => ?_⟩
    · rw [← reachable_eq_search hblocks, h]
    · exact before_of_transGen h hacyclic hid hinner

end ShaderModule

end ShaderBindings
