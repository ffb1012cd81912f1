import ShaderBindings.Proofs.Host.Failures
import ShaderBindings.Proofs.Struct.Naming
/-!
# How the naming of structs can fail

The walk from the buffer blocks and the signatures of the structs that it comes to meet blocks that
are no structs and structs that are missing. Either way the module is inconsistent, and naming fails
for nothing else.

## Main results

* `ShaderModule.failsOnly_reachable` - the failures of the list of reachable structs.
* `ShaderModule.failsOnly_signature` - the failures of a signature.
* `ShaderBindings.failsOnly_nameStructs` - the failures of naming.
-/

set_option autoImplicit false

namespace ShaderBindings

open Result

variable {kind : Error → Prop}

namespace ShaderModule

variable {m : ShaderModule}

/-- A walk fails at a missing struct.

**Proof sketch.** By recursion as in `walk`: leaving a struct cannot fail, entering one fails if it
is missing, and then the walk goes on with fewer structs to enter. -/
theorem failsOnly_walk (hinvalid : ∀ cause, kind (.invalidModule cause)) {seen : List Nat}
    {stack : List Visit} : FailsOnly kind (m.walk seen stack) := by
  match stack with
  | [] =>
    rw [walk]
    exact failsOnly_ok
  | .leave id :: stack =>
    rw [walk_leave]
    exact (failsOnly_walk hinvalid).map
  | .enter id :: stack =>
    by_cases hid : id ∈ seen
    · rw [walk_enter_of_mem hid]
      exact failsOnly_walk hinvalid
    · cases hst : m.struct? id with
      | none =>
        rw [walk_enter_of_none hid hst]
        exact failsOnly_error.2 (kind_missingStruct hinvalid m id)
      | some st =>
        have hlt := remaining_cons_lt hst hid
        rw [walk_enter_of_notMem hid hst]
        exact failsOnly_walk hinvalid
termination_by (m.remaining seen, stack.length)
decreasing_by
  · exact Prod.Lex.right _ (by simp)
  · exact Prod.Lex.right _ (by simp)
  · exact Prod.Lex.left _ _ (by assumption)

/-- The walk from all blocks fails at a block that is no struct or at a missing struct. -/
theorem failsOnly_walkBlocks (hinvalid : ∀ cause, kind (.invalidModule cause))
    (blocks : List Resource) (seen : List Nat) : FailsOnly kind (m.walkBlocks seen blocks) := by
  induction blocks generalizing seen with
  | nil => exact failsOnly_ok
  | cons block blocks ih =>
    unfold walkBlocks
    split
    · exact failsOnly_error.2 (hinvalid _)
    · exact (failsOnly_walk hinvalid).bind fun walked _ =>
        (ih walked.2).bind fun _ _ => failsOnly_ok

/-- The reachable structs are listed unless a block is no struct or a struct is missing. -/
theorem failsOnly_reachable (hinvalid : ∀ cause, kind (.invalidModule cause)) :
    FailsOnly kind m.reachable :=
  failsOnly_walkBlocks hinvalid _ _

mutual

/-- The text for a struct fails at a missing one.

**Proof sketch.** By the recursion of the writer, together with the same for members. -/
theorem failsOnly_writeStruct (hinvalid : ∀ cause, kind (.invalidModule cause)) {path : List Nat}
    {id : Nat} {out : String} : FailsOnly kind (m.writeStruct path id out) := by
  cases hst : m.struct? id with
  | none =>
    rw [writeStruct]
    split
    · exact failsOnly_error.2 (kind_missingStruct hinvalid m id)
    · next st hst' => simp [hst] at hst'
  | some st =>
    by_cases hid : id ∈ path
    · rw [writeStruct_of_mem out hst hid]
      exact failsOnly_ok
    · have hlt : m.remaining (id :: path) < m.remaining path := remaining_cons_lt hst hid
      rw [writeStruct_of_notMem out hst hid]
      exact (failsOnly_writeMembers hinvalid).map
termination_by (m.remaining path, 0)
decreasing_by
  exact Prod.Lex.left _ _ (by assumption)

/-- The text for members fails at a missing struct.

**Proof sketch.** By recursion as in `writeMembers`. A member without a struct only adds text, and
the text for a struct fails if it is missing, or if the text for its members does. -/
theorem failsOnly_writeMembers (hinvalid : ∀ cause, kind (.invalidModule cause)) {path : List Nat}
    {members : List Member} {out : String} : FailsOnly kind (m.writeMembers path members out) := by
  match members with
  | [] =>
    rw [writeMembers]
    exact failsOnly_ok
  | mem :: rest =>
    cases hbase : mem.ty.base.structId? with
    | none =>
      rw [writeMembers_cons_plain out hbase]
      exact failsOnly_writeMembers hinvalid
    | some id =>
      rw [writeMembers_cons_struct out (BaseType.structId?_eq_some_iff.1 hbase)]
      exact (failsOnly_writeStruct hinvalid).bind fun _ _ => failsOnly_writeMembers hinvalid
termination_by (m.remaining path, members.length + 1)
decreasing_by
  all_goals
    apply Prod.Lex.right
    simp only [List.length_cons]
    omega

end

/-- A struct has a signature unless a struct inside it is missing. -/
theorem failsOnly_signature (hinvalid : ∀ cause, kind (.invalidModule cause)) (st : StructType) :
    FailsOnly kind (m.signature st) :=
  failsOnly_writeMembers hinvalid

end ShaderModule

/-- Naming fails only for a module that is inconsistent.

**Proof sketch.** The steps are to list the reachable structs of each module, to look them up and to
write their signatures. Giving names cannot fail. -/
theorem failsOnly_nameStructs (hinvalid : ∀ cause, kind (.invalidModule cause))
    (modules : List (String × ShaderModule)) (reserved : List String) :
    FailsOnly kind (nameStructs modules reserved) := by
  refine FailsOnly.bind (FailsOnly.mapM fun x _ => ?_) fun _ _ => failsOnly_ok
  refine (ShaderModule.failsOnly_reachable hinvalid).bind fun order _ => .mapM fun id _ => ?_
  have hstruct : FailsOnly kind (x.1.2.struct id) :=
    ShaderModule.failsOnly_struct fun _ => ShaderModule.kind_missingStruct hinvalid _ id
  exact hstruct.bind fun st _ =>
    (ShaderModule.failsOnly_signature hinvalid st).bind fun _ _ => failsOnly_ok

end ShaderBindings
