import ShaderBindings.Proofs.Result
import ShaderBindings.Spirv.Declarations
/-!
# Annotations of a binary module

Names and decorations stand in instructions of their own, apart from what they are about. The reader
looks them up when it has all of them: for each id and each kind of annotation, the last instruction
counts. This module says so of every look-up.

## Main definitions

* `Statement.annotation?` - the instruction that states an annotation.
* `IsLast` - what the last instruction of a form says.
* `Declarations.IsAnnotated` - the look-ups find the last annotations.

## Main results

* `Statement.mem_statements_iff_of_annotation?` - just one instruction states an annotation.
* `Declarations.isAnnotated_ofInstructions` - the last instruction counts.
-/

set_option autoImplicit false

namespace ShaderBindings.Spirv

/-! ## Instructions that annotate -/

/-- The operands of a decoration of an id. `Decoration.of?` reads the decoration back from them. -/
def Decoration.operands : Decoration → List Operand
  | .location n => [.value .decoration 30, .integer n]
  | .binding n => [.value .decoration 33, .integer n]
  | .set n => [.value .decoration 34, .integer n]
  | .specId n => [.value .decoration 1, .integer n]
  | .arrayStride n => [.value .decoration 6, .integer n]
  | .builtIn n => [.value .decoration 11, .value .builtIn n]
  | .block => [.value .decoration 2]
  | .bufferBlock => [.value .decoration 3]

/-- The operands of a decoration of a member. -/
def MemberDecoration.operands : MemberDecoration → List Operand
  | .offset n => [.value .decoration 35, .integer n]
  | .matrixStride n => [.value .decoration 7, .integer n]
  | .rowMajor yes => [.value .decoration (if yes then 4 else 5)]

/-- Just these operands say this about an id.

**Proof sketch.** One direction goes through the forms that `of?` knows, the other one through the
decorations. -/
theorem Decoration.of?_eq_some_iff {operands : List Operand} {a : Decoration} :
    of? operands = some a ↔ operands = a.operands := by
  constructor
  · intro h
    unfold of? at h
    split at h <;> cases h <;> rfl
  · rintro rfl
    cases a <;> rfl

/-- Just these operands say this about a member.

**Proof sketch.** As for ids. The two orders of a matrix are decorations of their own. -/
theorem MemberDecoration.of?_eq_some_iff {operands : List Operand} {a : MemberDecoration} :
    of? operands = some a ↔ operands = a.operands := by
  constructor
  · intro h
    unfold of? at h
    split at h <;> cases h <;> rfl
  · rintro rfl
    cases a with
    | rowMajor yes => cases yes <;> rfl
    | _ => rfl

/-- The instruction that states an annotation. Other statements have none. There is only one for
each annotation, so the statements can be looked for among the instructions. -/
def Statement.annotation? : Statement → Option Instruction
  | .name target text => some ⟨.name, [.id target, .text text]⟩
  | .memberName target member text =>
    some ⟨.memberName, [.id target, .integer member, .text text]⟩
  | .decoration target a => some ⟨.decorate, .id target :: a.operands⟩
  | .memberDecoration target member a =>
    some ⟨.memberDecorate, .id target :: .integer member :: a.operands⟩
  | _ => none

/-- Just one instruction states an annotation.

**Proof sketch.** The instruction is looked at as `statements` does. Names state what they say;
decorations are known by their operands (`Decoration.of?_eq_some_iff`,
`MemberDecoration.of?_eq_some_iff`); all others state no annotation. -/
theorem Statement.mem_statements_iff_of_annotation? {s : Statement} {a i : Instruction}
    (h : s.annotation? = some a) : s ∈ i.statements ↔ i = a := by
  constructor
  · obtain ⟨opcode, operands⟩ := i
    intro hs
    unfold Instruction.statements at hs
    split at hs
    case h_1 | h_2 =>
      next hopcode hoperands =>
        cases hopcode
        cases hoperands
        obtain rfl := List.mem_singleton.1 hs
        exact Option.some.inj h
    case h_3 target operands hopcode hoperands =>
      cases hopcode
      cases hoperands
      obtain ⟨b, hb, rfl⟩ : ∃ b, Decoration.of? operands = some b ∧ .decoration target b = s := by
        simpa using hs
      rw [Decoration.of?_eq_some_iff.1 hb]
      exact Option.some.inj h
    case h_4 target member operands hopcode hoperands =>
      cases hopcode
      cases hoperands
      obtain ⟨b, hb, rfl⟩ : ∃ b, MemberDecoration.of? operands = some b ∧
        .memberDecoration target member b = s := by simpa using hs
      rw [MemberDecoration.of?_eq_some_iff.1 hb]
      exact Option.some.inj h
    all_goals cases s <;> simp [annotation?] at h hs
  · rintro rfl
    cases s with
    | name | memberName =>
      cases h
      simp [Instruction.statements]
    | decoration target b =>
      cases h
      simp [Instruction.statements, Decoration.of?_eq_some_iff.2 rfl]
    | memberDecoration target member b =>
      cases h
      simp [Instruction.statements, MemberDecoration.of?_eq_some_iff.2 rfl]
    | _ => cases h

/-! ## The last instruction -/

/-- This is what the last instruction of the form says, or there is none. The list is split at this
instruction, and none behind it has the form. -/
def IsLast {α : Type} (is : List Instruction) (form : α → Instruction) : Option α → Prop
  | some a => ∃ before after, is = before ++ form a :: after ∧ ∀ b, form b ∉ after
  | none => ∀ a, form a ∉ is

/-- The last thing that is said is what the last instruction says.

**Proof sketch.** Induction on the instructions: what is said later comes last, and only where
nothing is said later the first instruction counts. -/
theorem isLast_getLast? {α : Type} {said : Instruction → List α} {form : α → Instruction}
    (h : ∀ i a, a ∈ said i ↔ i = form a) (is : List Instruction) :
    IsLast is form (is.flatMap said).getLast? := by
  induction is with
  | nil => exact fun a => List.not_mem_nil
  | cons i is ih =>
    rw [List.flatMap_cons, List.getLast?_append]
    cases hlast : (is.flatMap said).getLast? with
    | some a =>
      rw [hlast] at ih
      obtain ⟨before, after, rfl, hafter⟩ := ih
      exact ⟨i :: before, after, rfl, hafter⟩
    | none =>
      rw [hlast] at ih
      rw [Option.none_or]
      cases hfirst : (said i).getLast? with
      | some a => exact ⟨[], is, by rw [(h i a).1 (List.mem_of_getLast? hfirst)]; rfl, ih⟩
      | none =>
        rintro a ha
        rcases List.mem_cons.1 ha with heq | ha
        · have hmem := (h i a).2 heq.symm
          rw [List.getLast?_eq_none_iff.1 hfirst] at hmem
          cases hmem
        · exact ih a ha

/-- A form that leaves nothing open is found exactly if an instruction has it. -/
theorem IsLast.isSome_iff {is : List Instruction} {form : Unit → Instruction}
    {found : Option Unit} (h : IsLast is form found) : found.isSome ↔ form () ∈ is := by
  cases found with
  | some a =>
    obtain ⟨before, after, rfl, -⟩ := h
    simp
  | none => simpa using h ()

namespace Declarations

/-- A look-up of an annotation finds what the last instruction says. It is given by the statements
that it takes notice of.

**Proof sketch.** An instruction says something about the id that the look-up takes notice of
exactly if it has the form (`Statement.mem_statements_iff_of_annotation?`). The last statement of a
list that is put together instruction by instruction is that of the last such instruction
(`isLast_getLast?`). -/
theorem isLast_last? {α : Type} {is : List Instruction} {id : Nat} {f : Statement → Option α}
    {form : α → Instruction} (stated : α → Statement)
    (hform : ∀ a, (stated a).annotation? = some (form a))
    (htarget : ∀ a, (stated a).target? = some id)
    (hf : ∀ s a, s.target? = some id → (f s = some a ↔ s = stated a)) :
    IsLast is form ((ofInstructions is).last? id f) := by
  have hsaid (i : Instruction) (a : α) :
      a ∈ (i.statements.filter (·.target? == some id)).filterMap f ↔ i = form a := by
    rw [← Statement.mem_statements_iff_of_annotation? (hform a)]
    simp only [List.mem_filterMap, List.mem_filter, beq_iff_eq]
    constructor
    · rintro ⟨s, ⟨hs, hid⟩, ha⟩
      exact (hf s a hid).1 ha ▸ hs
    · exact fun hs => ⟨stated a, ⟨hs, htarget a⟩, (hf _ a (htarget a)).2 rfl⟩
  rw [last?_eq, ofInstructions, List.filter_flatMap, List.filterMap_flatMap]
  exact isLast_getLast? hsaid is

/-- A look-up among the decorations of an id finds what the last instruction says.

**Proof sketch.** This is `isLast_last?` for the statement with the decoration: no other statement
with this target is taken notice of. -/
theorem isLast_decorated? {α : Type} {is : List Instruction} {id : Nat}
    {f : Decoration → Option α} (decoration : α → Decoration)
    (hf : ∀ a x, f a = some x ↔ a = decoration x) :
    IsLast is (fun x => ⟨.decorate, .id id :: (decoration x).operands⟩)
      ((ofInstructions is).decorated? id f) := by
  refine isLast_last? (fun x => .decoration id (decoration x)) (fun _ => rfl) (fun _ => rfl) ?_
  intro s x hid
  cases s with
  | decoration target a =>
    obtain rfl : target = id := Option.some.inj hid
    simp [hf]
  | _ => simp

/-- A look-up among the decorations of a member finds what the last instruction says.

**Proof sketch.** As for ids, with the number of the member compared too. -/
theorem isLast_memberDecorated? {α : Type} {is : List Instruction} {id member : Nat}
    {f : MemberDecoration → Option α} (decoration : α → MemberDecoration)
    (hf : ∀ a x, f a = some x ↔ a = decoration x) :
    IsLast is (fun x => ⟨.memberDecorate, .id id :: .integer member :: (decoration x).operands⟩)
      ((ofInstructions is).memberDecorated? id member f) := by
  refine isLast_last? (fun x => .memberDecoration id member (decoration x)) (fun _ => rfl)
    (fun _ => rfl) ?_
  intro s x hid
  cases s with
  | memberDecoration target m a =>
    obtain rfl : target = id := Option.some.inj hid
    simp [hf]
  | _ => simp

/-- Every look-up of an annotation finds what the last instruction says that says such a thing about
the id, or about the member. -/
structure IsAnnotated (d : Declarations) (is : List Instruction) : Prop where
  name (id : Nat) : IsLast is (fun text => ⟨.name, [.id id, .text text]⟩) (d.name? id)
  memberName (id member : Nat) :
    IsLast is (fun text => ⟨.memberName, [.id id, .integer member, .text text]⟩)
      (d.memberName? id member)
  location (id : Nat) :
    IsLast is (fun n => ⟨.decorate, [.id id, .value .decoration 30, .integer n]⟩) (d.location? id)
  binding (id : Nat) :
    IsLast is (fun n => ⟨.decorate, [.id id, .value .decoration 33, .integer n]⟩) (d.binding? id)
  set (id : Nat) :
    IsLast is (fun n => ⟨.decorate, [.id id, .value .decoration 34, .integer n]⟩) (d.set? id)
  specId (id : Nat) :
    IsLast is (fun n => ⟨.decorate, [.id id, .value .decoration 1, .integer n]⟩) (d.specId? id)
  arrayStride (id : Nat) :
    IsLast is (fun n => ⟨.decorate, [.id id, .value .decoration 6, .integer n]⟩)
      (d.arrayStride? id)
  builtIn (id : Nat) :
    IsLast is (fun n => ⟨.decorate, [.id id, .value .decoration 11, .value .builtIn n]⟩)
      (d.builtIn? id)
  block (id : Nat) : d.isBlock id ↔ ⟨.decorate, [.id id, .value .decoration 2]⟩ ∈ is
  bufferBlock (id : Nat) : d.isBufferBlock id ↔ ⟨.decorate, [.id id, .value .decoration 3]⟩ ∈ is
  offset (id member : Nat) :
    IsLast is (fun n => ⟨.memberDecorate, [.id id, .integer member, .value .decoration 35,
      .integer n]⟩) (d.offset? id member)
  matrixStride (id member : Nat) :
    IsLast is (fun n => ⟨.memberDecorate, [.id id, .integer member, .value .decoration 7,
      .integer n]⟩) (d.matrixStride? id member)
  /-- Rows and columns are decorations of one kind: the last of either counts. -/
  rowMajor (id member : Nat) :
    IsLast is (fun yes => ⟨.memberDecorate, [.id id, .integer member,
      .value .decoration (if yes then 4 else 5)]⟩) (d.rowMajor? id member)

/-- **The last annotation counts.**

Every look-up of the reader finds what the last instruction of its form says, and nothing if there
is no such instruction.

**Proof sketch.** Names are looked up by `isLast_last?`, decorations by `isLast_decorated?` and
`isLast_memberDecorated?`. In each case it remains to see which decorations a look-up takes notice
of. -/
theorem isAnnotated_ofInstructions (is : List Instruction) :
    (ofInstructions is).IsAnnotated is where
  name id := by
    refine isLast_last? (.name id) (fun _ => rfl) (fun _ => rfl) fun s text hid => ?_
    cases s with
    | name target text' =>
      obtain rfl : target = id := Option.some.inj hid
      simp
    | _ => simp
  memberName id member := by
    refine isLast_last? (.memberName id member) (fun _ => rfl) (fun _ => rfl) fun s text hid => ?_
    cases s with
    | memberName target m text' =>
      obtain rfl : target = id := Option.some.inj hid
      simp
    | _ => simp
  location id := isLast_decorated? .location fun a n => by cases a <;> simp
  binding id := isLast_decorated? .binding fun a n => by cases a <;> simp
  set id := isLast_decorated? .set fun a n => by cases a <;> simp
  specId id := isLast_decorated? .specId fun a n => by cases a <;> simp
  arrayStride id := isLast_decorated? .arrayStride fun a n => by cases a <;> simp
  builtIn id := isLast_decorated? .builtIn fun a n => by cases a <;> simp
  block id := (isLast_decorated? (fun _ => .block) fun a _ => by cases a <;> simp).isSome_iff
  bufferBlock id :=
    (isLast_decorated? (fun _ => .bufferBlock) fun a _ => by cases a <;> simp).isSome_iff
  offset id member := isLast_memberDecorated? .offset fun a n => by cases a <;> simp
  matrixStride id member := isLast_memberDecorated? .matrixStride fun a n => by cases a <;> simp
  rowMajor id member := isLast_memberDecorated? .rowMajor fun a yes => by cases a <;> simp

end Declarations

end ShaderBindings.Spirv
