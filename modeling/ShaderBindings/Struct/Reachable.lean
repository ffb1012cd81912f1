import ShaderBindings.Shader.Module
/-!
# Structs reachable from buffer blocks

The structs whose layout matters are those of buffer blocks and everything they contain. They are
listed so that each struct follows the structs it contains.

## Main definitions

* `StructType.children` - the structs that members of a struct refer to.
* `ShaderModule.walk` - a depth-first walk with an explicit stack.
* `ShaderModule.reachable` - the structs reachable from the buffer blocks, contained ones first.

## Implementation notes

The walk keeps the ids it has entered. Each step either takes an entry off the stack or enters one
more struct of the module, so it ends on any module, cyclic or not.
-/

set_option autoImplicit false

namespace ShaderBindings

/-- The ids of the structs that the members refer to, in the order of the members. -/
def StructType.children (st : StructType) : List Nat :=
  st.members.filterMap (·.ty.base.structId?)

/-- What is left to do with a struct on the stack of a walk. The structs it contains are entered
between its two visits, so they are listed in front of it. -/
inductive Visit where
  /-- The struct has not been looked at. -/
  | enter (id : Nat)
  /-- The structs it contains have been listed; it is its own turn. -/
  | leave (id : Nat)
deriving DecidableEq, Repr

namespace ShaderModule

/-- Walks what is on the stack, leaving out the structs that were seen. Returns the ids in the order
in which the structs are left, and the ids seen in the end. -/
def walk (m : ShaderModule) (seen : List Nat) (stack : List Visit) :
    Result (List Nat × List Nat) :=
  match stack with
  | [] => .ok ([], seen)
  | .leave id :: stack => do
    let (order, seen) ← m.walk seen stack
    return (id :: order, seen)
  | .enter id :: stack =>
    if _hs : id ∈ seen then m.walk seen stack
    else
      match _h : m.struct? id with
      | none => .error (m.missingStruct id)
      | some st =>
        let unseen := st.children.filter fun child => !(id :: seen).contains child
        m.walk (id :: seen) (unseen.map .enter ++ .leave id :: stack)
termination_by (m.remaining seen, stack.length)
decreasing_by
  · exact Prod.Lex.right _ (by simp)
  · exact Prod.Lex.right _ (by simp)
  · exact Prod.Lex.left _ _ (remaining_cons_lt _h _hs)

/-- Walks from each block in turn, leaving out what was seen. So a struct is listed at the first
block from which it can be reached, behind the structs that it contains. -/
def walkBlocks (m : ShaderModule) (seen : List Nat) : List Resource → Result (List Nat)
  | [] => .ok []
  | block :: blocks =>
    match block.ty.base.structId? with
    | none => .error (.invalidModule (.blockNotStruct block.name))
    | some root => do
      let (order, seen) ← m.walk seen [.enter root]
      let rest ← m.walkBlocks seen blocks
      return order ++ rest

/-- The structs reachable from the buffer blocks, each after the structs it contains. For structs
that contain themselves this cannot be; they are listed all the same. -/
def reachable (m : ShaderModule) : Result (List Nat) :=
  m.walkBlocks [] m.resources.bufferBlocks

end ShaderModule

end ShaderBindings
