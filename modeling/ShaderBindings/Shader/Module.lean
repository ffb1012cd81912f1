import ShaderBindings.Error
import ShaderBindings.Table
/-!
# Shader modules

One compiled shader as the library sees it: its entry point, its structs and resources, its
specialization constants and its words.

## Main definitions

* `ShaderBindings.ShaderModule` - a reflected module.
* `ShaderModule.struct`, `ShaderModule.entryPoint` - look-ups that report what is missing.
* `ShaderBindings.NameMap` - final names of structs by id.
-/

set_option autoImplicit false

namespace ShaderBindings

/-- Where the reflected data of a module comes from. It only decides the words in which a missing
struct is reported. -/
inductive Origin where
  /-- The data was given field by field. -/
  | given
  /-- The data was read from a binary module. -/
  | binary
deriving DecidableEq, Repr

/-- An entry point as a module declares it. A stage that no pipeline has is kept by its words, which
is what a failure shows of it. -/
structure DeclaredEntry where
  name : String
  /-- The declared way of execution, in words. -/
  model : String
  /-- The stage it runs in, if it is one of the known stages. -/
  stage : Option Stage
deriving DecidableEq, Repr

/-- An entry point of a known stage. It is what is left of a declared entry point once its stage has
been found to be known. -/
structure EntryPoint where
  name : String
  stage : Stage
deriving DecidableEq, Repr

/-- A reflected shader module. Nothing is asked of the parts: two structs may have one id, a struct
may contain itself, and an id may stand for no struct. -/
structure ShaderModule where
  origin : Origin := .given
  /-- The entry point to use. -/
  entry : Option DeclaredEntry := none
  structs : List StructType := []
  resources : Resources := {}
  specConstants : List SpecConstant := []
  workGroupSize : WorkGroupSize := {}
  /-- The words of the module, to be embedded. -/
  code : List UInt32 := []
deriving DecidableEq, Repr

/-- The final names of a module's structs, by id. -/
abbrev NameMap := Table String

/-- The structs in the order of their ids; of several with one id the last holds. -/
def structTable (structs : List StructType) : List StructType :=
  (Table.ofList (structs.map fun st => (st.id, st))).values

namespace ShaderModule

/-- The struct with the given id. If several structs have it the first one counts; a table of
structs by their ids has only one for each, see `structTable`. -/
def struct? (m : ShaderModule) (id : Nat) : Option StructType :=
  m.structs.find? (·.id == id)

/-- The failure to find a struct, worded for the origin of the module. It is the same failure in all
places where a struct is looked for. -/
def missingStruct (m : ShaderModule) (id : Nat) : Error :=
  match m.origin with
  | .given => .invalidModule (.noStruct id)
  | .binary => .invalidModule (.notStructType id)

/-- The struct with the given id, or the failure to find it. -/
def struct (m : ShaderModule) (id : Nat) : Result StructType :=
  match m.struct? id with
  | some st => .ok st
  | none => .error (m.missingStruct id)

/-- The declared size of the struct with the given id. -/
def declaredSize (m : ShaderModule) (id : Nat) : Result Nat :=
  (m.struct id).map (·.size)

/-- The entry point with its stage. The failure to find one names module zero; whoever knows the
place of the module puts it in. -/
def entryPoint (m : ShaderModule) : Result EntryPoint :=
  match m.entry with
  | none => .error (.missingEntryPoint 0)
  | some e =>
    match e.stage with
    | none => .error (.unsupportedStage e.model)
    | some stage => .ok { name := e.name, stage }

/-- Every struct under its own declared name. -/
def declaredNames (m : ShaderModule) : NameMap :=
  .ofList (m.structs.map fun st => (st.id, st.name))

/-- The struct found for an id has this id. -/
theorem id_of_struct?_eq_some {m : ShaderModule} {id : Nat} {st : StructType}
    (h : m.struct? id = some st) : st.id = id := by
  simpa using List.find?_some h

/-- A struct that is found is one of the module. -/
theorem mem_of_struct?_eq_some {m : ShaderModule} {id : Nat} {st : StructType}
    (h : m.struct? id = some st) : st ∈ m.structs :=
  List.mem_of_find?_eq_some h

/-- The structs of the module whose id is not in the list: what a walk that never enters a struct of
the list twice can still enter. -/
def remaining (m : ShaderModule) (seen : List Nat) : Nat :=
  m.structs.countP fun st => !seen.contains st.id

/-- Entering a struct leaves fewer structs to enter. Walks that enter no struct twice end for this
reason.

**Proof sketch.** The structs that can still be entered are counted. Entering one takes it out of
the count, and no struct comes into it: induction on the structs of the module, up to the one that
was entered. -/
theorem remaining_cons_lt {m : ShaderModule} {id : Nat} {st : StructType} {seen : List Nat}
    (h : m.struct? id = some st) (hseen : id ∉ seen) :
    m.remaining (id :: seen) < m.remaining seen := by
  have hid := id_of_struct?_eq_some h
  have hmem := mem_of_struct?_eq_some h
  unfold remaining
  generalize m.structs = l at hmem
  clear h
  induction l with
  | nil => simp at hmem
  | cons a l ih =>
    have hle : l.countP (fun s => !(id :: seen).contains s.id) ≤
        l.countP (fun s => !seen.contains s.id) := by
      apply List.countP_mono_left
      intro x _ hx
      simp only [List.contains_cons, Bool.not_or, Bool.and_eq_true] at hx
      exact hx.2
    rcases List.mem_cons.1 hmem with rfl | hmem
    · subst hid
      simp only [List.countP_cons, List.contains_cons, beq_self_eq_true, Bool.true_or]
      have : seen.contains st.id = false := by simpa using hseen
      simp only [this]
      simp only [Bool.not_true, Bool.false_eq_true, if_false, Bool.not_false, if_true]
      simp only [List.contains_cons] at hle
      omega
    · have := ih hmem
      simp only [List.countP_cons, List.contains_cons] at this ⊢
      by_cases ha : (a.id == id) = true
      · simp only [ha, Bool.true_or, Bool.not_true, Bool.false_eq_true, if_false]
        omega
      · simp only [Bool.not_eq_true] at ha
        simp only [ha, Bool.false_or]
        omega

end ShaderModule

end ShaderBindings
