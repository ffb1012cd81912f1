import ShaderBindings.Shader.Module
import ShaderBindings.Text.Quoted
/-!
# Struct signatures

A text for the shape of a struct: what matters for its layout, down to the innermost members,
without the ids under which the structs happen to be known in one module. Structs of different
modules share one declaration when they have the same name and the same signature.

## Main definitions

* `BaseType.token` - the text for a base type.
* `ShaderModule.writeStruct`, `writeMembers` - write the text for a struct inside others, and for
  members, behind a text that is there already.
* `ShaderModule.signature` - the text for a struct of a module.

## Main results

* `ShaderModule.writeStruct_append`, `writeMembers_append` - what is there already makes no
  difference to what is written behind it.

## Implementation notes

The walk down the members remembers the structs it is inside of (`path`). Every step down enters a
struct that is not on the path, so `ShaderModule.remaining` falls and the walk ends on any module; a
struct that comes round again is only marked.
-/

set_option autoImplicit false

namespace ShaderBindings

/-- The text for a base type. A foreign type is written by its bare name, so that name can read like
the text of another type. -/
def BaseType.token : BaseType → String
  | .boolean => "b"
  | .integer width true => s!"i{width}"
  | .integer width false => s!"u{width}"
  | .float width => s!"f{width}"
  | .struct id => s!"s{id}"
  | .image dim sampled => s!"img{dim.label}{sampled}"
  | .sampledImage dim => s!"simg{dim.label}"
  | .sampler => "smp"
  | .foreign name => name

/-- What follows the base type of a member: vector size, columns and offset, then the strides and
the extents it has, then the order of its rows. -/
def Member.suffix (mem : Member) : String :=
  s!"x{mem.ty.components}x{mem.ty.columns},{mem.offset}" ++
    (match mem.matrixStride with
      | some stride => s!";m{stride}"
      | none => "") ++
    (match mem.arrayStride with
      | some stride => s!";a{stride}"
      | none => "") ++
    String.join (mem.ty.extents.map fun n => s!"[{n}]") ++
    (if mem.rowMajor then ";r" else "") ++ ":"

/-- A size in at least nine digits. -/
def sizeDigits (size : Nat) : String :=
  String.ofList (Text.zeroPad 9 (Nat.toDigits 10 size))

/-- What stands in front of the members of a struct: its name and its size. -/
def StructType.heading (st : StructType) : String := s!"{st.name},{sizeDigits st.size}:"

namespace ShaderModule

mutual

/-- Writes the text for the struct with the given id, inside the structs of the path, behind `out`:
braces around it, or a mark if it comes round again. -/
def writeStruct (m : ShaderModule) (path : List Nat) (id : Nat) (out : String) : Result String :=
  match _h : m.struct? id with
  | none => .error (m.missingStruct id)
  | some st =>
    if _hp : path.contains id then .ok (out ++ "@" ++ st.name)
    else do
      let out ← m.writeMembers (id :: path) st.members (out ++ "\x7b" ++ st.heading)
      return out ++ "\x7d"
termination_by (m.remaining path, 0)
decreasing_by
  exact Prod.Lex.left _ _ (remaining_cons_lt _h (by simpa using _hp))

/-- Writes the texts for members of a struct, the path ending with that struct, behind `out`.

Names are written as they are, commas and braces included. What has been written is handed on, so
the text grows at its end only. -/
def writeMembers (m : ShaderModule) (path : List Nat) (members : List Member) (out : String) :
    Result String :=
  match members with
  | [] => .ok out
  | mem :: rest => do
    let out := out ++ mem.name ++ ","
    let out ← match mem.ty.base with
      | .struct child => m.writeStruct path child out
      | base => .ok (out ++ base.token)
    m.writeMembers path rest (out ++ mem.suffix)
termination_by (m.remaining path, members.length + 1)
decreasing_by
  all_goals
    apply Prod.Lex.right
    simp only [List.length_cons]
    omega

end

mutual

/-- A text in front of `out` stays in front, so what is written for a struct does not depend on what
was written before it.

**Proof sketch.** Induction along the two functions that write structs and members, which call each
other. Everything is appended to `out`, and a failure does not depend on it. -/
theorem writeStruct_append (m : ShaderModule) (path : List Nat) (id : Nat) (text out : String) :
    m.writeStruct path id (text ++ out) = (m.writeStruct path id out).map (text ++ ·) := by
  rw [writeStruct, writeStruct]
  split
  · rfl
  · next st h =>
    split
    · simp [Except.map, String.append_assoc]
    · next hp =>
      have hlt : m.remaining (id :: path) < m.remaining path :=
        remaining_cons_lt h (by simpa using hp)
      simp only [String.append_assoc, writeMembers_append m (id :: path) st.members text]
      cases m.writeMembers (id :: path) st.members (out ++ ("\x7b" ++ st.heading)) with
      | error e => rfl
      | ok s => simp [Except.map, bind, Except.bind, pure, Except.pure, String.append_assoc]
termination_by (m.remaining path, 0)
decreasing_by
  exact Prod.Lex.left _ _ (by assumption)

/-- A text in front of `out` stays in front, so what is written for members does not depend on what
was written before them. The proof is one with that of `writeStruct_append`. -/
theorem writeMembers_append (m : ShaderModule) (path : List Nat) (members : List Member)
    (text out : String) :
    m.writeMembers path members (text ++ out) =
      (m.writeMembers path members out).map (text ++ ·) := by
  match members with
  | [] => simp [writeMembers, Except.map]
  | mem :: rest =>
    rw [writeMembers, writeMembers]
    simp only [String.append_assoc]
    cases mem.ty.base with
    | struct child =>
      simp only [writeStruct_append m path child text]
      cases m.writeStruct path child (out ++ (mem.name ++ ",")) with
      | error e => rfl
      | ok s =>
        simp only [Except.map, bind, Except.bind, String.append_assoc]
        exact writeMembers_append m path rest text _
    | _ =>
      simp only [bind, Except.bind, String.append_assoc]
      exact writeMembers_append m path rest text _
termination_by (m.remaining path, members.length + 1)
decreasing_by
  all_goals
    apply Prod.Lex.right
    simp only [List.length_cons]
    omega

end
/-- The signature of a struct of the module. The struct itself counts as one that is being written,
so a reference back to it ends there. -/
def signature (m : ShaderModule) (st : StructType) : Result String :=
  m.writeMembers [st.id] st.members st.heading

end ShaderModule

end ShaderBindings
