import Mathlib.Logic.Relation
import ShaderBindings.Struct.Reachable
/-!
# Structs inside structs

Which structs of a module a walk can come to: from a struct to those its members refer to, and from
the buffer blocks to what they are made of.

## Main definitions

* `ShaderModule.Within` - a struct is found inside another one, at any depth.
* `ShaderModule.IsReachable` - a struct is found inside a buffer block.
* `ShaderModule.IsClosed` - the buffer blocks are structs, and nothing inside them is missing.
-/

set_option autoImplicit false

namespace ShaderBindings

/-- A type that refers to a struct is the type of that struct. -/
theorem BaseType.structId?_eq_some_iff {base : BaseType} {id : Nat} :
    base.structId? = some id ↔ base = .struct id := by
  cases base <;> simp [structId?]

/-- A member that refers to a struct makes it a child. -/
theorem StructType.mem_children_iff {st : StructType} {id : Nat} :
    id ∈ st.children ↔ ∃ mem ∈ st.members, mem.ty.base = .struct id := by
  simp only [children, List.mem_filterMap, BaseType.structId?_eq_some_iff]

namespace ShaderModule

/-- A member of the one struct refers to the other. -/
def Contains (m : ShaderModule) (id child : Nat) : Prop :=
  ∃ st, m.struct? id = some st ∧ child ∈ st.children

/-- The struct is `root` or found inside it. It is not asked whether there is such a struct: an id
that is referred to counts, and none is found inside it. -/
def Within (m : ShaderModule) (root id : Nat) : Prop := Relation.ReflTransGen m.Contains root id

/-- The struct is that of a buffer block or found inside it. Blocks of push constants count as
buffer blocks here. -/
def IsReachable (m : ShaderModule) (id : Nat) : Prop :=
  ∃ block ∈ m.resources.bufferBlocks, ∃ root, block.ty.base.structId? = some root ∧
    m.Within root id

/-- Every buffer block is a struct, and every struct found inside one is in the module. This is all
that the walk needs in order to succeed; that structs contain themselves does not matter to it. -/
def IsClosed (m : ShaderModule) : Prop :=
  (∀ block ∈ m.resources.bufferBlocks, block.ty.base.structId?.isSome) ∧
    ∀ id, m.IsReachable id → (m.struct? id).isSome

variable {m : ShaderModule} {root id inner : Nat}

/-- A struct is found inside itself, at depth zero. -/
theorem Within.refl : m.Within root root := Relation.ReflTransGen.refl

/-- What is found inside something inside is found inside. -/
theorem Within.trans {mid : Nat} (h : m.Within root mid) (h' : m.Within mid id) :
    m.Within root id :=
  Relation.ReflTransGen.trans h h'

/-- A child of a struct that is found inside is found inside too. -/
theorem Within.child {st : StructType} (h : m.Within root id) (hst : m.struct? id = some st)
    (hinner : inner ∈ st.children) : m.Within root inner :=
  Relation.ReflTransGen.tail h ⟨st, hst, hinner⟩

/-- The struct of a member is found inside. -/
theorem Within.of_member {st : StructType} {mem : Member} (hst : m.struct? root = some st)
    (hmem : mem ∈ st.members) (hbase : mem.ty.base = .struct inner) : m.Within root inner :=
  Within.refl.child hst (StructType.mem_children_iff.2 ⟨mem, hmem, hbase⟩)

/-- A struct can be looked up if it is there. -/
theorem struct_eq_ok_iff {st : StructType} : m.struct id = .ok st ↔ m.struct? id = some st := by
  unfold struct
  cases m.struct? id <;> simp

/-- What is found inside a reachable struct is reachable. -/
theorem IsReachable.within (h : m.IsReachable id) (h' : m.Within id inner) :
    m.IsReachable inner := by
  obtain ⟨block, hblock, root, hroot, hwithin⟩ := h
  exact ⟨block, hblock, root, hroot, hwithin.trans h'⟩

end ShaderModule

end ShaderBindings
