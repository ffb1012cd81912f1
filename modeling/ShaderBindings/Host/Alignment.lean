import ShaderBindings.Host.Type
import ShaderBindings.Shader.Module
/-!
# Host alignment

A host aligns a number to its size and a struct to the largest alignment among its members.

## Main definitions

* `BaseType.hostScalar` - the host scalar of a base type.
* `ShaderModule.alignWithin` - the host alignment of a struct.

## Implementation notes

The walk down the members remembers the structs it is inside of (`path`). Every step down enters a
struct that is not on the path, so `ShaderModule.remaining` falls and the walk ends on any module.
It ends with the first failure: what stands behind it is not looked at.
-/

set_option autoImplicit false

namespace ShaderBindings

/-! ## Scalars -/

/-- The host scalar of a base type; only 32-bit and 64-bit numbers have one. A boolean has none: in
a buffer it is no type of its own, although a settable constant can be one, see `SpecKind`. -/
def BaseType.hostScalar : BaseType → Except UnsupportedCause HostScalar
  | .float 32 => .ok .f32
  | .float 64 => .ok .f64
  | .integer 32 true => .ok .i32
  | .integer 32 false => .ok .u32
  | .integer 64 true => .ok .i64
  | .integer 64 false => .ok .u64
  | .float width => .error (.floatWidth width)
  | .integer width _ => .error (.integerWidth width)
  | .boolean => .error .boolean
  | .struct _ => .error .structAsScalar
  | .image dim _ => .error (.image dim)
  | .sampledImage dim => .error (.image dim)
  | .sampler => .error .sampler
  | .foreign name => .error (.foreign name)

/-- The host scalar of a base type, or the report that it has none. The context says where the type
stands, by the names of a struct and its member. -/
def BaseType.scalarIn (context : String) (base : BaseType) : Result HostScalar :=
  base.hostScalar.mapError (.unsupportedType context)

/-! ## Structs -/

namespace ShaderModule

mutual

/-- The host alignment of the struct with the given id, inside the structs of the path.

It is that of the largest number inside, and at least that of a word. The struct is looked up before
it is compared with the path, so a struct that is missing is reported as such. The path never
repeats an id, and all its ids are those of structs of the module, which is why this ends. -/
def alignWithin (m : ShaderModule) (path : List Nat) (id : Nat) : Result Nat :=
  match _h : m.struct? id with
  | none => .error (m.missingStruct id)
  | some st =>
    if _hp : path.contains id then .error (.layout st.name .containsItself)
    else m.alignMembers (id :: path) st.name wordSize st.members
termination_by (m.remaining path, 0)
decreasing_by
  exact Prod.Lex.left _ _ (remaining_cons_lt _h (by simpa using _hp))

/-- The largest of `least` and the host alignments of members of the struct of the given name, the
path ending with that struct. -/
def alignMembers (m : ShaderModule) (path : List Nat) (owner : String) (least : Nat)
    (members : List Member) : Result Nat :=
  match members with
  | [] => .ok least
  | mem :: rest => do
    let align ← match mem.ty.base with
      | .struct child => m.alignWithin path child
      | base => (base.scalarIn s!"{owner}.{mem.name}").map (·.size)
    m.alignMembers path owner (max least align) rest
termination_by (m.remaining path, members.length + 1)
decreasing_by
  all_goals
    apply Prod.Lex.right
    simp only [List.length_cons]
    omega

end

end ShaderModule

end ShaderBindings
