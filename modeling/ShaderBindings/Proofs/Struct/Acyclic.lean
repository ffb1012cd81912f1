import ShaderBindings.Host.Layout
import ShaderBindings.Proofs.Struct.Outline
import ShaderBindings.Proofs.Struct.Reachable
/-!
# Modules without gaps and cycles

In a module in which no struct is missing and none contains itself, the walks over the structs have
nothing to trip over: a host alignment fails at a type without a counterpart only, the reachable
structs can be listed, and a signature marks no struct that comes round again.

## Main definitions

* `ShaderModule.IsComplete` - the structs that members and resources refer to are there.
* `ShaderModule.IsAcyclic` - no struct contains itself, at any depth.
* `Outline.IsTree` - no struct comes round again.

## Main results

* `ShaderModule.HasOutline.isTree` - without cycles inside the members their outline is a tree.
* `ShaderModule.failsOnly_alignWithin` - how a host alignment can fail.
* `ShaderModule.IsComplete.failsOnly_reachable` - how the list of reachable structs can fail.
* `ShaderModule.exists_signature` - every struct has a signature, and no struct comes round in it.
-/

set_option autoImplicit false

namespace ShaderBindings

/-- No struct comes round again. The path, which cuts a struct off that comes round, has cut off
nothing then. -/
def Outline.IsTree : Outline → Prop
  | done => True
  | plain _ rest => rest.IsTree
  | nested _ _ _ inner rest => inner.IsTree ∧ rest.IsTree
  | again .. => False

/-- Buffer blocks are resources. -/
theorem Resources.mem_ofClass_of_mem_bufferBlocks {r : Resources}
    {block : Resource} (h : block ∈ r.bufferBlocks) : ∃ c, block ∈ r.ofClass c := by
  simp only [Resources.bufferBlocks, List.mem_append] at h
  rcases h with (h | h) | h
  · exact ⟨.uniformBuffer, h⟩
  · exact ⟨.storageBuffer, h⟩
  · exact ⟨.pushConstantBlock, h⟩

namespace ShaderModule

/-- Every struct is found under its id, and so are the structs that its members refer to and those
that resources refer to. -/
structure IsComplete (m : ShaderModule) : Prop where
  found : ∀ st ∈ m.structs, m.struct? st.id = some st
  members : ∀ st ∈ m.structs, ∀ mem ∈ st.members, ∀ child, mem.ty.base = .struct child →
    (m.struct? child).isSome
  resources : ∀ c, ∀ r ∈ m.resources.ofClass c, ∀ id, r.ty.base = .struct id →
    (m.struct? id).isSome

/-- No struct contains itself, at any depth. -/
def IsAcyclic (m : ShaderModule) : Prop := ∀ id, ¬Relation.TransGen m.Contains id id

variable {m : ShaderModule}

/-- What is found inside a struct of a complete module is in the module.

**Proof sketch.** Induction on the containment: a child comes from a member, whose struct is
there. -/
theorem IsComplete.within (h : m.IsComplete) {root id : Nat} (hroot : (m.struct? root).isSome)
    (hid : m.Within root id) : (m.struct? id).isSome := by
  induction hid with
  | refl => exact hroot
  | tail _ hcontains _ =>
    obtain ⟨st, hst, hchild⟩ := hcontains
    obtain ⟨mem, hmem, hbase⟩ := StructType.mem_children_iff.1 hchild
    exact h.members st (mem_of_struct?_eq_some hst) mem hmem _ hbase

/-- The members of a struct of a complete module have an outline. -/
theorem IsComplete.exists_hasOutline (h : m.IsComplete) {st : StructType} (hst : st ∈ m.structs)
    (path : List Nat) : ∃ o, m.HasOutline path st.members o :=
  ShaderModule.exists_hasOutline fun mem hmem child hbase _ hid =>
    h.within (h.members st hst mem hmem child hbase) hid

/-! ## Outlines -/

/-- If nothing inside the members contains itself, their outline is a tree.

**Proof sketch.** Every struct of the path contains the structs of all members. A struct that comes
round again is one of the path, so it would contain itself. -/
theorem HasOutline.isTree {path : List Nat} {members : List Member} {o : Outline}
    (h : m.HasOutline path members o)
    (hm : ∀ mem ∈ members, ∀ child, mem.ty.base = .struct child → ∀ id, m.Within child id →
      ¬Relation.TransGen m.Contains id id)
    (hpath : ∀ outer ∈ path, ∀ mem ∈ members, ∀ child, mem.ty.base = .struct child →
      Relation.TransGen m.Contains outer child) : o.IsTree := by
  induction h with
  | done => trivial
  | plain _ _ ih =>
    exact ih (List.forall_mem_cons.1 hm).2
      fun outer houter mem hmem => hpath outer houter mem (List.mem_cons_of_mem _ hmem)
  | @nested path mem rest id st inner o hbase hst hid hinner _ ihi ihr =>
    have hcontains (mem' : Member) (hmem' : mem' ∈ st.members) (child : Nat)
        (hchild : mem'.ty.base = .struct child) : m.Contains id child :=
      ⟨st, hst, StructType.mem_children_iff.2 ⟨mem', hmem', hchild⟩⟩
    obtain ⟨hmem, hrest⟩ := List.forall_mem_cons.1 hm
    refine ⟨ihi ?_ ?_, ihr hrest fun outer houter mem' hmem' =>
      hpath outer houter mem' (List.mem_cons_of_mem _ hmem')⟩
    · intro mem' hmem' child hchild x hx
      exact hmem id hbase x ((Within.of_member hst hmem' hchild).trans hx)
    · intro outer houter mem' hmem' child hchild
      rcases List.mem_cons.1 houter with rfl | houter
      · exact .single (hcontains mem' hmem' child hchild)
      · exact .tail (hpath outer houter mem List.mem_cons_self id hbase)
          (hcontains mem' hmem' child hchild)
  | @again path mem rest id st o hbase hst hid _ _ =>
    exact hm mem List.mem_cons_self id hbase id Within.refl
      (hpath id hid mem List.mem_cons_self id hbase)

/-- The outline of a struct is a tree if nothing inside the struct contains itself. -/
theorem HasOutline.isTree_of_struct {id : Nat} {st : StructType} {o : Outline}
    (h : m.HasOutline [id] st.members o) (hst : m.struct? id = some st)
    (hm : ∀ inner, m.Within id inner → ¬Relation.TransGen m.Contains inner inner) : o.IsTree := by
  refine h.isTree (fun mem hmem child hbase x hx => ?_) fun outer houter mem hmem child hbase => ?_
  · exact hm x ((Within.of_member hst hmem hbase).trans hx)
  · obtain rfl := List.mem_singleton.1 houter
    exact .single ⟨st, hst, StructType.mem_children_iff.2 ⟨mem, hmem, hbase⟩⟩

/-! ## Host alignment -/

/-- Members whose outline is a tree have a host alignment, unless one of their types has no
counterpart on the host.

**Proof sketch.** Induction on the outline. A plain member has a scalar or none, a nested struct is
aligned by its own members, and a struct that comes round again is excluded. -/
theorem HasOutline.failsOnly_alignMembers {path : List Nat} {members : List Member} {o : Outline}
    (h : m.HasOutline path members o) (ho : o.IsTree) (owner : String) (least : Nat) :
    Result.FailsOnly (fun e => e.isUnsupportedType) (m.alignMembers path owner least members) := by
  induction h generalizing owner least with
  | done =>
    simp [ShaderModule.alignMembers]
  | plain hbase _ ih =>
    rw [alignMembers_cons_plain hbase]
    exact (BaseType.failsOnly_scalarIn fun _ _ => rfl).bind fun s _ => ih ho owner _
  | nested hbase hst hid _ _ ihi ihr =>
    rw [alignMembers_cons_struct hbase, alignWithin_of_notMem hst hid]
    exact (ihi ho.1 _ _).bind fun align _ => ihr ho.2 owner _
  | again => exact ho.elim

/-- In a complete module without cycles every struct has a host alignment, unless a type inside it
has no counterpart on the host.

**Proof sketch.** A struct that is there has an outline, and the outline is a tree
(`HasOutline.isTree_of_struct`), so `HasOutline.failsOnly_alignMembers` applies. -/
theorem failsOnly_alignWithin (hcomplete : m.IsComplete) (hacyclic : m.IsAcyclic) (id : Nat) :
    Result.FailsOnly (fun e => e = m.missingStruct id ∨ e.isUnsupportedType)
      (m.alignWithin [] id) := by
  cases hst : m.struct? id with
  | none =>
    rw [alignWithin]
    split
    · exact Result.failsOnly_error.2 (.inl rfl)
    · next st hst' => simp [hst] at hst'
  | some st =>
    obtain rfl := id_of_struct?_eq_some hst
    obtain ⟨o, ho⟩ := hcomplete.exists_hasOutline (mem_of_struct?_eq_some hst) [st.id]
    rw [alignWithin_of_notMem hst List.not_mem_nil]
    exact (ho.failsOnly_alignMembers (ho.isTree_of_struct hst fun x _ => hacyclic x) _ _).mono
      fun _ => Or.inr

/-! ## Reachable structs -/

/-- In a complete module the list of the structs reachable from blocks fails at a block that is no
struct, and nowhere else.

**Proof sketch.** Induction on the blocks. The walk from a block that is a struct goes through,
since everything inside is there (`IsComplete.within`, `exists_walk`). -/
theorem IsComplete.failsOnly_walkBlocks (h : m.IsComplete) {blocks : List Resource}
    (hblocks : ∀ block ∈ blocks, ∀ id, block.ty.base = .struct id → (m.struct? id).isSome)
    (seen : List Nat) :
    Result.FailsOnly (fun e => ∃ block ∈ blocks, block.ty.base.structId? = none ∧
      e = .invalidModule (.blockNotStruct block.name)) (m.walkBlocks seen blocks) := by
  induction blocks generalizing seen with
  | nil => simp [walkBlocks]
  | cons block blocks ih =>
    obtain ⟨hblock, hblocks⟩ := List.forall_mem_cons.1 hblocks
    simp only [walkBlocks]
    split
    · next hnone =>
      exact Result.failsOnly_error.2 ⟨block, List.mem_cons_self, hnone, rfl⟩
    · next root hroot =>
      rw [BaseType.structId?_eq_some_iff] at hroot
      have hstack : ∀ r, Visit.enter r ∈ [Visit.enter root] → ∀ id, m.Within r id →
          (m.struct? id).isSome := by
        intro r hr id hid
        cases List.mem_singleton.1 hr
        exact h.within (hblock root hroot) hid
      obtain ⟨⟨order, seen'⟩, hwalk⟩ : ∃ r, m.walk seen [.enter root] = .ok r := exists_walk hstack
      rw [hwalk]
      change Result.FailsOnly _ ((m.walkBlocks seen' blocks).map (order ++ ·))
      refine ((ih hblocks seen').mono ?_).map
      rintro e ⟨b, hb, hrest⟩
      exact ⟨b, List.mem_cons_of_mem _ hb, hrest⟩

/-- In a complete module the list of the reachable structs fails at a buffer block that is no
struct, and nowhere else. -/
theorem IsComplete.failsOnly_reachable (h : m.IsComplete) :
    Result.FailsOnly (fun e => ∃ block ∈ m.resources.bufferBlocks,
      block.ty.base.structId? = none ∧ e = .invalidModule (.blockNotStruct block.name))
      m.reachable :=
  h.failsOnly_walkBlocks (fun _ hblock =>
    have ⟨c, hc⟩ := Resources.mem_ofClass_of_mem_bufferBlocks hblock
    h.resources c _ hc) []

/-! ## Signatures -/

/-- In a complete module without cycles every struct has a signature, in which no struct comes round
again.

**Proof sketch.** The signature is the heading and the text of the outline (`signature_eq_ok_iff`),
and the outline is a tree. -/
theorem exists_signature (hcomplete : m.IsComplete) (hacyclic : m.IsAcyclic) {st : StructType}
    (hst : st ∈ m.structs) :
    ∃ o text, m.HasOutline [st.id] st.members o ∧ o.IsTree ∧ m.signature st = .ok text ∧
      text.toList = Outline.heading st.name st.size ++ o.text := by
  obtain ⟨o, ho⟩ := hcomplete.exists_hasOutline hst [st.id]
  refine ⟨o, String.ofList (Outline.heading st.name st.size ++ o.text), ho,
    ho.isTree_of_struct (hcomplete.found st hst) fun x _ => hacyclic x, ?_, String.toList_ofList⟩
  exact signature_eq_ok_iff.2 ⟨o, ho, String.toList_ofList⟩

end ShaderModule

end ShaderBindings
