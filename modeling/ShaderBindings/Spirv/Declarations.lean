import ShaderBindings.Spirv.ParseError
import ShaderBindings.Spirv.Statement
import Std.Data.TreeMap
/-!
# Declarations of a module

All statements of a module, with look-ups by id. Decorations may stand anywhere; where statements
about one id differ, the last one holds.

## Main definitions

* `ShaderBindings.Spirv.Declarations` - the statements of a module, with an index by id.
* `Declarations.typeDecl?`, `constant?`, `composite?`, `name?` and the decorations by id.
* `Declarations.resolve?`, `resolve` - the type an id stands for.
* `Declarations.stripArrays?`, `stripArrays` - the type below all arrays.

## Main results

* `Declarations.last?_eq` - a look-up finds the last statement about the id that says something.

## Implementation notes

Types refer to one another by id, in any order, so nothing rules out a type that is made of itself.
The walk along such a type never comes to an end. In the logic it has the value `none`, and what
waits for it the value `.error (.endlessType id)`; the program that runs does not return.
-/

set_option autoImplicit false

namespace ShaderBindings.Spirv

/-! ## Statements by id -/

/-- The statements about an id, the last one first. -/
abbrev StatementIndex := Std.TreeMap Nat (List Statement)

/-- The index with one more statement. -/
def StatementIndex.add (index : StatementIndex) (s : Statement) : StatementIndex :=
  match s.target? with
  | none => index
  | some id => index.insert id (s :: index.getD id [])

/-- The index of statements. -/
def StatementIndex.of (statements : List Statement) : StatementIndex :=
  statements.foldl .add ∅

/-- Adding statements to an index puts those about an id in front of those it has, the last one
first.

**Proof sketch.** Induction on the statements. A statement about no id, or about another one, leaves
what the index has for this id. -/
theorem StatementIndex.getD_foldl_add (statements : List Statement) (index : StatementIndex)
    (id : Nat) :
    (statements.foldl .add index).getD id [] =
      (statements.filter (·.target? == some id)).reverse ++ index.getD id [] := by
  induction statements generalizing index with
  | nil => rfl
  | cons s statements ih =>
    rw [List.foldl_cons, ih, StatementIndex.add]
    cases h : s.target? with
    | none => simp [h]
    | some i =>
      by_cases hi : i = id
      · subst hi
        simp [h]
      · simp [h, hi, Std.TreeMap.getD_insert]

/-- The index holds the statements about an id, and no others. -/
theorem StatementIndex.getD_of (statements : List Statement) (id : Nat) :
    (StatementIndex.of statements).getD id [] =
      (statements.filter (·.target? == some id)).reverse := by
  rw [StatementIndex.of, getD_foldl_add]
  simp

/-- The statements of a module, in order. What is known of an id is the last thing said about it, so
the index keeps the statements about an id with the last one in front. -/
structure Declarations where
  statements : List Statement
  index : StatementIndex
  /-- The index is that of the statements. -/
  getD_index : ∀ id, index.getD id [] = (statements.filter (·.target? == some id)).reverse

namespace Declarations

/-- The statements of instructions. -/
def ofInstructions (is : List Instruction) : Declarations :=
  let statements := is.flatMap (·.statements)
  { statements, index := .of statements, getD_index := StatementIndex.getD_of statements }

/-! ## Look-ups -/

/-- What the last statement about an id says that says something. The index has the statements of an
id in reverse order, so this is the first one found there. -/
def last? {α : Type} (d : Declarations) (id : Nat) (f : Statement → Option α) : Option α :=
  (d.index.getD id []).findSome? f

/-- The last statement holds, of all that are about the id and say something. Look-ups go through an
index, and this is what they find in terms of the statements alone. -/
theorem last?_eq {α : Type} (d : Declarations) (id : Nat) (f : Statement → Option α) :
    d.last? id f = ((d.statements.filter (·.target? == some id)).filterMap f).getLast? := by
  rw [last?, d.getD_index, List.getLast?_filterMap]

/-- The type with the given id. -/
def typeDecl? (d : Declarations) (id : Nat) : Option TypeDecl :=
  d.last? id fun
    | .type _ decl => some decl
    | _ => none

/-- The integer value of a constant. -/
def constant? (d : Declarations) (id : Nat) : Option Nat :=
  d.last? id fun
    | .constant _ value => some value
    | _ => none

/-- The parts of a composite constant. -/
def composite? (d : Declarations) (id : Nat) : Option (List Nat) :=
  d.last? id fun
    | .composite _ parts => some parts
    | _ => none

/-- The name of an id. -/
def name? (d : Declarations) (id : Nat) : Option String :=
  d.last? id fun
    | .name _ text => some text
    | _ => none

/-- The name of a member. -/
def memberName? (d : Declarations) (id member : Nat) : Option String :=
  d.last? id fun
    | .memberName _ m text => if m = member then some text else none
    | _ => none

/-- What the last decoration of an id says that says something. -/
def decorated? {α : Type} (d : Declarations) (id : Nat) (f : Decoration → Option α) : Option α :=
  d.last? id fun
    | .decoration _ a => f a
    | _ => none

/-- What the last decoration of a member says that says something. Decorations that say nothing to
`f` are passed over, so each property of a member has a last statement of its own. -/
def memberDecorated? {α : Type} (d : Declarations) (id member : Nat)
    (f : MemberDecoration → Option α) : Option α :=
  d.last? id fun
    | .memberDecoration _ m a => if m = member then f a else none
    | _ => none

/-- The location of a variable. -/
def location? (d : Declarations) (id : Nat) : Option Nat :=
  d.decorated? id fun | .location n => some n | _ => none

/-- The binding of a variable. -/
def binding? (d : Declarations) (id : Nat) : Option Nat :=
  d.decorated? id fun | .binding n => some n | _ => none

/-- The descriptor set of a variable. -/
def set? (d : Declarations) (id : Nat) : Option Nat :=
  d.decorated? id fun | .set n => some n | _ => none

/-- The id under which a constant can be set. -/
def specId? (d : Declarations) (id : Nat) : Option Nat :=
  d.decorated? id fun | .specId n => some n | _ => none

/-- The distance between the elements of an array type. -/
def arrayStride? (d : Declarations) (id : Nat) : Option Nat :=
  d.decorated? id fun | .arrayStride n => some n | _ => none

/-- What an id is built into the interface as. -/
def builtIn? (d : Declarations) (id : Nat) : Option Nat :=
  d.decorated? id fun | .builtIn n => some n | _ => none

/-- Whether a struct is a block. -/
def isBlock (d : Declarations) (id : Nat) : Bool :=
  (d.decorated? id fun | .block => some () | _ => none).isSome

/-- Whether a struct is a block that can be written to. -/
def isBufferBlock (d : Declarations) (id : Nat) : Bool :=
  (d.decorated? id fun | .bufferBlock => some () | _ => none).isSome

/-- The offset of a member. -/
def offset? (d : Declarations) (id member : Nat) : Option Nat :=
  d.memberDecorated? id member fun | .offset n => some n | _ => none

/-- The distance between the columns of a member. -/
def matrixStride? (d : Declarations) (id member : Nat) : Option Nat :=
  d.memberDecorated? id member fun | .matrixStride n => some n | _ => none

/-- Whether the rows of a member follow one another. -/
def rowMajor? (d : Declarations) (id member : Nat) : Option Bool :=
  d.memberDecorated? id member fun | .rowMajor yes => some yes | _ => none

/-! ## Walks along types -/

/-- A type that is found is declared by a statement about its own id.

**Proof sketch.** The look-up is the last of the statements about the id that declare a type
(`last?_eq`), so it comes from one of them. -/
theorem type_mem_statements {d : Declarations} {id : Nat} {decl : TypeDecl}
    (h : d.typeDecl? id = some decl) : .type id decl ∈ d.statements := by
  rw [typeDecl?, last?_eq] at h
  obtain ⟨s, hs, hf⟩ := List.mem_filterMap.1 (List.mem_of_getLast? h)
  obtain ⟨hs, ht⟩ := List.mem_filter.1 hs
  split at hf
  · cases hf
    simp only [Statement.target?, beq_iff_eq, Option.some.injEq] at ht
    exact ht ▸ hs
  · cases hf

/-- The number of elements of an array whose length is the given constant. A settable constant
counts with the value that the module gives it. -/
def arrayLength (d : Declarations) (id : Nat) : Parse Nat :=
  match d.constant? id with
  | none => .error (.lengthNotConstant id)
  | some value => if value < Word.bound then .ok value else .error (.lengthTooLarge value)

/-- The image that a sampled image wraps. Only its shape is kept: whether it is read through a
sampler makes no difference here. -/
def wrappedImage (d : Declarations) (id image : Nat) : Parse ShaderType :=
  match d.typeDecl? image with
  | none => .error (.undefinedType image)
  | some (.image dim _) => .ok { base := .sampledImage dim }
  | some _ => .error (.notImage id)

/-- The type an id stands for, if the walk along it ends. A pointer stands for the type it points
to. -/
def resolve? (d : Declarations) (id : Nat) : Option (Parse ShaderType) :=
  match d.typeDecl? id with
  | none => some (.error (.undefinedType id))
  | some .void => some (.ok { base := .foreign "void" })
  | some .bool => some (.ok { base := .boolean })
  | some (.int width signed) => some (.ok { base := .integer width signed })
  | some (.float width) => some (.ok { base := .float width })
  | some (.vector component count) => do
    let t ← d |>.resolve? component
    return t.map (·.vector count)
  | some (.matrix column count) => do
    let t ← d |>.resolve? column
    return t.map fun t => t.matrix count t.components
  | some (.array element length) => do
    let t ← d |>.resolve? element
    return do return (← t).arrayOf (← d.arrayLength length)
  | some (.runtimeArray element) => do
    let t ← d |>.resolve? element
    return t.map (·.arrayOf 0)
  | some (.struct _) => some (.ok (.struct id))
  | some (.image dim sampled) => some (.ok { base := .image dim (sampled != 2) })
  | some .sampler => some (.ok { base := .sampler })
  | some (.sampledImage image) => some (d.wrappedImage id image)
  | some (.pointer pointee) => d |>.resolve? pointee
partial_fixpoint

/-- The type an id stands for. Where the walk does not end there is a cause of its own, which no run
comes to report. -/
def resolve (d : Declarations) (id : Nat) : Parse ShaderType :=
  (d.resolve? id).getD (.error (.endlessType id))

/-- A type is resolved where the walk along it ends well. -/
theorem resolve_eq_ok_iff {d : Declarations} {id : Nat} {t : ShaderType} :
    d.resolve id = .ok t ↔ d.resolve? id = some (.ok t) := by
  unfold resolve
  cases d.resolve? id with
  | none => simp
  | some r => simp

/-- The type below all arrays, if the walk along them ends. A type can be an array of itself, for
nothing asks the ids of a module to stand for types that come before. -/
def stripArrays? (d : Declarations) (id : Nat) : Option Nat :=
  match d.typeDecl? id with
  | some (.array element _) => d |>.stripArrays? element
  | some (.runtimeArray element) => d |>.stripArrays? element
  | _ => some id
partial_fixpoint

/-- The type below all arrays. -/
def stripArrays (d : Declarations) (id : Nat) : Parse Nat :=
  (d.stripArrays? id).elim (.error (.endlessType id)) .ok

end Declarations

end ShaderBindings.Spirv
