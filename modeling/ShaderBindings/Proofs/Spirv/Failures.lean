import ShaderBindings.Proofs.Spirv.Walks
import ShaderBindings.Proofs.Spirv.Words
/-!
# How the reading of a binary module can fail

The reader reports what it finds wrong with a module: types that are not declared, members without a
size, lengths that are too large. Twice it makes no report. Where a declared size is no word, the
operation fails that forms it, and where a type is made of itself, the reader does not come back
from the walk along it.

## Main definitions

* `ParseError.isReport` - the failures that are reported.
* `Declarations.IsWalked` - the types that the reader walks along.

## Main results

* `Declarations.failsOnly_toModule` - the failures of the reader, for any kind that takes them in.
* `toModule_words` - a module with word sizes is read, or what is wrong with it is reported.
* `toModule_ends` - a module without a type made of itself is read, or left with a failure.
* `exists_vastVector`, `exists_endlessArray` - modules of which nothing is reported.
-/

set_option autoImplicit false

namespace ShaderBindings.Spirv

open Result

/-- The failure is reported: it is neither that of an operation nor a walk without end. Such a
failure comes with a message that says what is wrong with the module. -/
def ParseError.isReport : ParseError → Bool
  | overflow _ | endlessType _ => false
  | _ => true

/-- A checked sum fails with an overflow only. -/
theorem failsOnly_add {ε : Type} [OfWordOp ε] {kind : ε → Prop} {a b : Nat}
    (h : kind (OfWordOp.overflow .add)) : FailsOnly kind (Word.add a b) :=
  .ite (fun _ => failsOnly_ok) fun _ => failsOnly_error.2 h

namespace Declarations

variable {d : Declarations} {built : Table StructType} {mem : Member} {kind : ParseError → Prop}
  {id : Nat}

/-- The types that the reader walks along: those of the members of structs, those that variables
point to, and those of the constants that can be set. -/
inductive IsWalked (d : Declarations) : Nat → Prop
  | member {id type : Nat} {types : List Nat} (hdecl : d.typeDecl? id = some (.struct types))
      (htype : type ∈ types) : IsWalked d type
  | variable {v : VariableDecl} {pointee : Nat} (hv : v ∈ d.variableDecls)
      (htype : d.typeDecl? v.type = some (.pointer pointee)) : IsWalked d pointee
  | constant {id type : Nat} (hconstant : .specConstant id type ∈ d.statements)
      (hset : (d.specId? id).isSome) : IsWalked d type

/-! ## Types -/

/-- The length of an array is found or reported: it can be missing, or no word. -/
theorem failsOnly_arrayLength (length : Nat) :
    FailsOnly (fun e => e.isReport) (d.arrayLength length) := by
  unfold arrayLength
  split
  · exact failsOnly_error.2 rfl
  · exact .ite (fun _ => failsOnly_ok) fun _ => failsOnly_error.2 rfl

/-- The image of a sampled image is found or reported. -/
theorem failsOnly_wrappedImage (id image : Nat) :
    FailsOnly (fun e => e.isReport) (d.wrappedImage id image) := by
  unfold wrappedImage
  split
  · exact failsOnly_error.2 rfl
  · exact failsOnly_ok
  · exact failsOnly_error.2 rfl

/-- A walk that ends finds the type or reports that there is none. What is put around a type passes
its failure on, and the length of an array adds reports only.

**Proof sketch.** Induction along the walk (`resolve?_induction`). At a leaf the declaration itself
is looked at; one step further is a type around another, an array, or a pointer. -/
theorem failsOnly_of_resolve? {r : Parse ShaderType} (h : d.resolve? id = some r) :
    FailsOnly (fun e => e.isReport) r := by
  refine resolve?_induction (motive := fun _ r => FailsOnly (fun e => e.isReport) r) ?_ ?_ ?_ ?_ h
  · intro id r hleaf hr
    cases hdecl : d.typeDecl? id with
    | none =>
      rw [resolve?, hdecl] at hr
      cases hr
      exact failsOnly_error.2 rfl
    | some decl =>
      rw [inner?_of_decl hdecl] at hleaf
      rw [resolve?, hdecl] at hr
      cases decl with
      | sampledImage image =>
        cases hr
        exact failsOnly_wrappedImage id image
      | vector | matrix | array | runtimeArray | pointer => cases hleaf
      | _ =>
        cases hr
        exact failsOnly_ok
  · exact fun id inner r f _ _ ih => ih.map
  · exact fun id inner length r _ ih =>
      ih.bind fun _ _ => (failsOnly_arrayLength length).bind fun _ _ => failsOnly_ok
  · exact fun id inner r _ ih => ih

/-- The type of an id is missed for a report, or because the walk along it comes round. -/
theorem failsOnly_resolve (hreport : ∀ e, e.isReport → kind e)
    (hround : ComesRound d.inner? id → kind (.endlessType id)) : FailsOnly kind (d.resolve id) := by
  unfold resolve
  cases h : d.resolve? id with
  | none => exact failsOnly_error.2 (hround (resolve?_eq_none_iff.1 h))
  | some r => exact (failsOnly_of_resolve? h).mono hreport

/-- The type below all arrays is missed because the walk to it comes round. -/
theorem failsOnly_stripArrays (hround : ComesRound d.inner? id → kind (.endlessType id)) :
    FailsOnly kind (d.stripArrays id) := by
  unfold stripArrays
  cases h : d.stripArrays? id with
  | none =>
    exact failsOnly_error.2 (hround ((stripArrays?_eq_none_iff.1 h).mono inner?_of_element?))
  | some base => exact failsOnly_ok

/-! ## Sizes -/

/-- The size of a column is formed unless the base type has none, or the product is no word. -/
theorem failsOnly_columnSize (hreport : ∀ e, e.isReport → kind e)
    (h : exactColumn? built mem = none ∨ kind (.overflow .multiply)) :
    FailsOnly kind (columnSize built mem) := by
  unfold columnSize
  unfold exactColumn? at h
  cases hbase : mem.ty.base with
  | struct id =>
    dsimp only
    split
    · exact failsOnly_ok
    · exact failsOnly_error.2 (hreport _ rfl)
  | boolean | integer | float =>
    simp only [hbase, reduceCtorEq, false_or] at h
    exact failsOnly_mul (.inr h)
  | _ => exact failsOnly_error.2 (hreport _ rfl)

/-- The end of a member is formed unless the member has no size, or a quantity is no word.

**Proof sketch.** If all quantities fit, the end is formed (`memberStop_eq_ok_iff`). If not, the
member has no size, which `failsOnly_columnSize` reports, or operations are allowed to fail, and
there is nothing to show about the products and the sum. -/
theorem failsOnly_memberStop (hreport : ∀ e, e.isReport → kind e)
    (h : (∀ column, exactColumn? built mem = some column → mem.FitsWords column) ∨
      ∀ op, kind (.overflow op)) :
    FailsOnly kind (memberSize built mem >>= Word.add mem.offset) := by
  by_cases hfits : ∃ column, exactColumn? built mem = some column ∧ mem.FitsWords column
  · obtain ⟨column, hcolumn, hfits⟩ := hfits
    rw [memberStop_eq_ok_iff.2 ⟨column, hcolumn, hfits, rfl⟩]
    exact failsOnly_ok
  have hnone : exactColumn? built mem = none ∨ ∀ op, kind (.overflow op) := by
    refine h.imp_left fun h => ?_
    cases hcolumn : exactColumn? built mem with
    | none => rfl
    | some column => exact absurd ⟨column, hcolumn, h column hcolumn⟩ hfits
  rw [memberSize_eq, bind_assoc]
  refine (failsOnly_columnSize hreport (hnone.imp_right (· _))).bind fun column hcolumn => ?_
  -- the member has a size, so operations may fail
  have hover := hnone.resolve_left (by simp [(columnSize_eq_ok_iff.1 hcolumn).1])
  have helement : FailsOnly kind (elementSize mem column) :=
    .ite (fun _ => failsOnly_mul (.inr (hover _))) fun _ => failsOnly_ok
  have hwhole (element : Nat) : FailsOnly kind (wholeSize mem element) := by
    unfold wholeSize
    split
    · exact failsOnly_ok
    · exact failsOnly_mul (.inr (hover _))
    · exact (failsOnly_product (.inr (hover _))).bind fun _ _ => failsOnly_mul (.inr (hover _))
  exact (helement.bind fun element _ => hwhole element).bind fun _ _ => failsOnly_add (hover _)

/-- The end of all members is formed unless that of one of them is not. -/
theorem failsOnly_membersEnd (hreport : ∀ e, e.isReport → kind e) {members : List Member}
    (h : ∀ mem ∈ members,
      (∀ column, exactColumn? built mem = some column → mem.FitsWords column) ∨
        ∀ op, kind (.overflow op)) (least : Nat) :
    FailsOnly kind (membersEnd built least members) := by
  induction members generalizing least with
  | nil => exact failsOnly_ok
  | cons mem rest ih =>
    obtain ⟨hmem, hrest⟩ := List.forall_mem_cons.1 h
    simp only [membersEnd, ← bind_assoc]
    exact (failsOnly_memberStop hreport hmem).bind fun stop _ => ih hrest _

/-! ## Structs -/

section Reader

variable (hreport : ∀ e, e.isReport → kind e)
  (hround : ∀ id, d.IsWalked id → ComesRound d.inner? id → kind (.endlessType id))

include hreport hround

/-- A struct fails for the type of a member, or for its size.

**Proof sketch.** Members fail as the walks to their types do (`failsOnly_resolve`), and the size as
their ends do (`failsOnly_membersEnd`). The structs built so far are those that this one meets, so
`HasWordSizes` speaks about its members. -/
theorem failsOnly_struct (hwords : d.HasWordSizes ∨ ∀ op, kind (.overflow op)) {types : List Nat}
    (hmeets : d.Meets built id) (hdecl : d.typeDecl? id = some (.struct types)) :
    FailsOnly kind (d.struct built id types) := by
  have hmember : ∀ t ∈ types.zipIdx, FailsOnly kind (d.member id t.2 t.1) := by
    rintro ⟨type, i⟩ ht
    have hwalked : d.IsWalked type := .member hdecl (List.fst_mem_of_mem_zipIdx ht)
    exact (failsOnly_resolve hreport (hround type hwalked)).bind fun _ _ => failsOnly_ok
  refine (FailsOnly.mapM hmember).bind fun members hmembers => ?_
  refine (failsOnly_membersEnd hreport (fun mem hmem => ?_) 0).bind fun _ _ => failsOnly_ok
  refine hwords.imp_left fun hwords column hcolumn => ?_
  obtain ⟨⟨type, i⟩, ht, hmem⟩ := forall₂_mem_right (mapM_eq_ok_iff.1 hmembers) hmem
  have htype : types[i]? = some type := by simpa using List.mk_mem_zipIdx_iff_getElem?.1 ht
  exact hwords built id types hmeets hdecl i type mem column htype hmem hcolumn

/-- The structs fail where one of them does.

**Proof sketch.** Induction on the ids that are left. The ones before them have been built, so the
next struct meets just what is there (`failsOnly_struct`). -/
theorem failsOnly_addStructs (hwords : d.HasWordSizes ∨ ∀ op, kind (.overflow op))
    {before ids : List Nat} (hids : d.structIds = before ++ ids)
    (hbefore : d.addStructs ∅ before = .ok built) : FailsOnly kind (d.addStructs built ids) := by
  induction ids generalizing before built with
  | nil => exact failsOnly_ok
  | cons id rest ih =>
    have hids' : d.structIds = (before ++ [id]) ++ rest := by simp [hids]
    rw [addStructs]
    split
    · next types hdecl =>
      refine (failsOnly_struct hreport hround hwords ⟨before, rest, hids, hbefore⟩ hdecl).bind
        fun st hst => ih hids' ?_
      rw [addStructs_append, hbefore]
      simp only [addStructs, hdecl, hst, bind, Except.bind]
    · next hnone =>
      refine ih hids' ?_
      rw [addStructs_append, hbefore]
      simp only [bind, Except.bind, addStructs]

/-! ## Resources -/

/-- A resource fails for its type.

**Proof sketch.** The variable points to a type, or this is reported. The types below its arrays and
its own are walked to (`failsOnly_stripArrays`, `failsOnly_resolve`), and the class depends on one
look at the declaration. -/
theorem failsOnly_resource? {v : VariableDecl} (hv : v ∈ d.variableDecls) :
    FailsOnly kind (d.resource? v) := by
  unfold resource?
  split
  · exact failsOnly_error.2 (hreport _ rfl)
  · next pointee hpointer =>
    have hpointee := hround pointee (.variable hv hpointer)
    have hclass (base : Nat) : FailsOnly kind (d.class? v base) := by
      unfold class?
      split
      case h_6 =>
        unfold constantClass?
        split
        · exact failsOnly_error.2 (hreport _ rfl)
        all_goals exact failsOnly_ok
      all_goals exact failsOnly_ok
    refine (failsOnly_stripArrays hpointee).bind fun base _ => (hclass base).bind fun c? _ => ?_
    split
    · exact failsOnly_ok
    · exact (failsOnly_resolve hreport hpointee).bind fun _ _ => failsOnly_ok
  · exact failsOnly_error.2 (hreport _ rfl)

/-- The constants that can be set fail for their types. -/
theorem failsOnly_specConstants : FailsOnly kind d.specConstants := by
  refine FailsOnly.mapM ?_
  rintro ⟨constantId, id, type⟩ hmarked
  obtain ⟨s, hs, hmap⟩ := List.mem_filterMap.1 hmarked
  split at hmap
  · obtain ⟨constantId', hset, heq⟩ := Option.map_eq_some_iff.1 hmap
    cases heq
    have hwalked : d.IsWalked type := .constant hs (by simp [hset])
    exact (failsOnly_resolve hreport (hround type hwalked)).bind fun _ _ => failsOnly_ok
  · cases hmap

/-- **The failures of the reader**, for any kind that takes in all reports, the walks that come
round, and the failed operations unless the sizes of the module are words. -/
theorem failsOnly_toModule (hwords : d.HasWordSizes ∨ ∀ op, kind (.overflow op))
    (words : List UInt32) : FailsOnly kind (d.toModule words) :=
  (failsOnly_addStructs hreport hround hwords (List.nil_append _).symm rfl).bind fun _ _ =>
    ((FailsOnly.mapM fun _ hv => failsOnly_resource? hreport hround hv).bind fun _ _ =>
      failsOnly_ok).bind fun _ _ =>
        (failsOnly_specConstants hreport hround).bind fun _ _ => failsOnly_ok

end Reader

end Declarations

/-! ## Sizes that are no words -/

/-- **Declared sizes are words, or no module is read.** Where the quantities that are formed for the
members of structs are words, no operation of the reader fails: unless a type is made of itself, the
module is read, or what is wrong with it is reported. Where one of them is no word, the module is
not read.

**Proof sketch.** By `Declarations.failsOnly_toModule`, with the sizes words, failures are reports
and walks that come round. Neither is an overflow, and where no walk comes round only reports are
left. The last part is `Declarations.hasWordSizes_of_toModule`. -/
theorem toModule_words (is : List Instruction) (words : List UInt32) :
    let d := Declarations.ofInstructions is
    (d.HasWordSizes →
      (∀ op, d.toModule words ≠ .error (.overflow op)) ∧
        ((∀ id, d.IsWalked id → ¬ComesRound d.inner? id) →
          (∃ b, d.toModule words = .ok b) ∨
            ∃ e, d.toModule words = .error e ∧ e.isReport)) ∧
      ∀ b, d.toModule words = .ok b → d.HasWordSizes := by
  intro d
  refine ⟨fun hwords => ⟨fun op heq => ?_, fun hends => ?_⟩,
    fun b => Declarations.hasWordSizes_of_toModule⟩
  · have hfails : FailsOnly (fun e => e.isReport ∨ ∃ id, e = .endlessType id) (d.toModule words) :=
      Declarations.failsOnly_toModule (fun _ h => .inl h) (fun id _ _ => .inr ⟨id, rfl⟩)
        (.inl hwords) words
    rcases hfails _ heq with hreport | ⟨id, hid⟩
    · cases hreport
    · cases hid
  · have hfails : FailsOnly (fun e => e.isReport) (d.toModule words) :=
      Declarations.failsOnly_toModule (fun _ h => h)
        (fun id hid hround => absurd hround (hends id hid)) (.inl hwords) words
    cases h : d.toModule words with
    | ok b => exact .inl ⟨b, rfl⟩
    | error e => exact .inr ⟨e, rfl, hfails e h⟩

/-- A module with a struct that has a vector at byte 16, and behind it a struct with an array whose
length takes more than 32 bits. -/
def longArrayInstructions : List Instruction :=
  [⟨.memberDecorate, [.id 3, .integer 0, .value .decoration 35, .integer 16]⟩,
   ⟨.typeFloat, [.result 1, .integer 32]⟩,
   ⟨.typeVector, [.result 2, .id 1, .integer 4]⟩,
   ⟨.typeStruct, [.result 3, .id 2]⟩,
   ⟨.typeInt, [.result 4, .integer 64, .integer 0]⟩,
   ⟨.constant, [.resultType 4, .result 5, .wide 0x100000000]⟩,
   ⟨.typeArray, [.result 6, .id 1, .id 5]⟩,
   ⟨.typeStruct, [.result 7, .id 6]⟩]

/-- The member of the first struct of that module. -/
def vectorMember : Member where
  name := "_m0"
  ty := { base := .float 32, components := 4 }
  offset := 16

/-- The types of that module are declared in order.

**Proof sketch.** The list of its types is short, so all three conditions can be checked. -/
theorem isOrdered_longArrayInstructions :
    (Declarations.ofInstructions longArrayInstructions).IsOrdered := by
  have hdecls : (Declarations.ofInstructions longArrayInstructions).typeDecls =
      [(1, .float 32), (2, .vector 1 4), (3, .struct [2]), (4, .int 64 false), (6, .array 1 5),
       (7, .struct [6])] := by cbv
  exact { once := by rw [Declarations.typeIds, hdecls]; decide
          self := by rw [hdecls]; decide
          later := by rw [hdecls]; decide }

/-- The quantities that are formed for the vector are words, the last of them the end of its struct.
No size is formed for the array. Its length is reported.

**Proof sketch.** Two structs are declared. The member of the first one is known, and the member of
the second one has a type that is not resolved, so no quantity is formed for it. -/
theorem toModule_longArrayInstructions :
    let d := Declarations.ofInstructions longArrayInstructions
    d.HasWordSizes ∧ (∀ id, d.IsWalked id → ¬ComesRound d.inner? id) ∧
      (d.Meets ∅ 3 ∧ d.member 3 0 2 = .ok vectorMember ∧
        Declarations.exactColumn? ∅ vectorMember = some 16 ∧ vectorMember.FitsWords 16 ∧
        vectorMember.offset + vectorMember.declaredBytes 16 = 32) ∧
      (∀ op, d.toModule [] ≠ .error (.overflow op)) ∧
      ∃ e, d.toModule [] = .error e ∧ e.isReport ∧
        e.message = "limit exceeded: array length 4294967296 does not fit in 32 bits" := by
  intro d
  have hstructs : d.structIds = [3, 7] := by cbv
  have hvector : d.member 3 0 2 = .ok vectorMember := by cbv
  have hvectorDecl : d.typeDecl? 3 = some (.struct [2]) := by cbv
  have harrayDecl : d.typeDecl? 7 = some (.struct [6]) := by cbv
  have hlength : d.resolve 6 = .error (.lengthTooLarge 0x100000000) := by cbv
  have hfits : vectorMember.FitsWords 16 := by constructor <;> decide
  have hwords : d.HasWordSizes := by
    rintro built id types ⟨before, after, hids, -⟩ hdecl i type mem column htype hmem hcolumn
    have hid : id ∈ d.structIds := by simp [hids]
    obtain rfl | rfl : id = 3 ∨ id = 7 := by simpa [hstructs] using hid
    · cases hdecl.symm.trans hvectorDecl
      obtain ⟨rfl, rfl⟩ : i = 0 ∧ 2 = type := by simpa [List.getElem?_eq_some_iff] using htype
      cases hmem.symm.trans hvector
      have hbytes : Declarations.exactColumn? built vectorMember = some 16 := rfl
      cases hbytes.symm.trans hcolumn
      exact hfits
    · cases hdecl.symm.trans harrayDecl
      obtain rfl : type = 6 := by simpa using List.mem_of_getElem? htype
      cases hlength.symm.trans (Declarations.resolve_of_member hmem)
  have hends (id : Nat) (_ : d.IsWalked id) : ¬ComesRound d.inner? id :=
    isOrdered_longArrayInstructions.not_comesRound
  have hmodule : d.toModule [] = .error (.lengthTooLarge 0x100000000) := by cbv
  obtain ⟨hover, hall⟩ := (toModule_words longArrayInstructions []).1 hwords
  refine ⟨hwords, hends, ⟨⟨[], [7], hstructs, rfl⟩, hvector, rfl, hfits, rfl⟩, hover, ?_⟩
  obtain ⟨b, hb⟩ | ⟨e, he, hreport⟩ := hall hends
  · cases hmodule.symm.trans hb
  · cases hmodule.symm.trans he
    exact ⟨_, hmodule, hreport, by decide⟩

/-- A module with a struct that holds a vector of 2^30 numbers. The size of a column is a product
that is not checked, and here it is no word. -/
def vastVectorWords : List UInt32 :=
  [0x07230203, 0x10000, 0, 4, 0,
    0x30016, 1, 32,
    0x40017, 2, 1, 0x40000000,
    0x3001e, 3, 2]

/-- A module with a struct whose member starts two bytes in front of the first number that is no
word. So the end of the member, a sum that is not checked, is no word either. -/
def farMemberWords : List UInt32 :=
  [0x07230203, 0x10000, 0, 4, 0,
    0x50048, 2, 0, 35, 0xFFFFFFFE,
    0x30016, 1, 32,
    0x3001e, 2, 1]

/-- **Sizes that are no words are not reported.** The stream is read, and then the operation fails
that forms the size of the vector, or the end of the member.

A vector of 2^30 numbers of four bytes has a size of 2^32, and a number at byte 2^32 - 2 ends behind
the last word. -/
theorem exists_vastVector :
    (∃ is, readInstructions vastVectorWords = .ok is) ∧
      parseWords vastVectorWords = .error (.overflow .multiply) ∧
      (∃ is, readInstructions farMemberWords = .ok is) ∧
      parseWords farMemberWords = .error (.overflow .add) := by
  refine ⟨⟨[⟨.typeFloat, [.result 1, .integer 32]⟩,
      ⟨.typeVector, [.result 2, .id 1, .integer 0x40000000]⟩,
      ⟨.typeStruct, [.result 3, .id 2]⟩], by cbv⟩, by cbv,
    ⟨[⟨.memberDecorate, [.id 2, .integer 0, .value .decoration 35, .integer 0xFFFFFFFE]⟩,
      ⟨.typeFloat, [.result 1, .integer 32]⟩,
      ⟨.typeStruct, [.result 2, .id 1]⟩], by cbv⟩, by cbv⟩

/-! ## Types made of themselves -/

/-- **Walks end exactly where types are not made of themselves.** Of an id, the walk to what is
below all arrays and the walk to what the type is made of go on without end exactly if they come
round. The reader is left without an answer only by a type that it walks along and that is made of
itself. If there is none, all its walks come to a leaf within as many steps as types are declared,
and the module is read or left with a failure. So it is where types are declared once, and none
before what it is made of.

**Proof sketch.** The first part is `Declarations.stripArrays?_eq_none_iff` and
`Declarations.resolve?_eq_none_iff`. For the second one, `Declarations.failsOnly_toModule` is used
with the kind of failures that the statement describes. If nothing comes round, `exists_leaf` bounds
the number of steps by the number of types, and types in order never come round
(`IsOrdered.not_comesRound`). -/
theorem toModule_ends (is : List Instruction) (words : List UInt32) :
    let d := Declarations.ofInstructions is
    (∀ id, (d.stripArrays? id = none ↔ ComesRound d.element? id) ∧
      (d.resolve? id = none ↔ ComesRound d.inner? id)) ∧
      (∀ id, d.toModule words = .error (.endlessType id) →
        d.IsWalked id ∧ ComesRound d.inner? id) ∧
      ((∀ id, d.IsWalked id → ¬ComesRound d.inner? id) →
        (∀ id, d.IsWalked id →
          (∃ n ≤ d.typeIds.length, ∃ base, follow d.element? n id = some base ∧
            d.element? base = none ∧ d.stripArrays? id = some base) ∧
          ∃ n ≤ d.typeIds.length, ∃ leaf, follow d.inner? n id = some leaf ∧
            d.inner? leaf = none ∧ (d.resolve? id).isSome) ∧
        ∀ id, d.toModule words ≠ .error (.endlessType id)) ∧
      (d.IsOrdered → ∀ id, ¬ComesRound d.inner? id) := by
  intro d
  have hendless (id : Nat) (h : d.toModule words = .error (.endlessType id)) :
      d.IsWalked id ∧ ComesRound d.inner? id := by
    have hfails : FailsOnly (fun e => ∀ id, e = .endlessType id →
        d.IsWalked id ∧ ComesRound d.inner? id) (d.toModule words) := by
      refine Declarations.failsOnly_toModule ?_ ?_ (.inr fun op id hid => by cases hid) words
      · rintro e hreport id rfl
        cases hreport
      · rintro id hwalked hround _ ⟨⟩
        exact ⟨hwalked, hround⟩
    exact hfails _ h id rfl
  refine ⟨fun id => ⟨Declarations.stripArrays?_eq_none_iff, Declarations.resolve?_eq_none_iff⟩,
    hendless, fun hends => ⟨fun id hwalked => ⟨?_, ?_⟩, fun id h => ?_⟩,
    fun hordered id => hordered.not_comesRound⟩
  · have helements (id next : Nat) (h : d.element? id = some next) : id ∈ d.typeIds :=
      Declarations.mem_typeIds_of_inner? id next (Declarations.inner?_of_element? id next h)
    obtain ⟨n, hn, base, hbase, hleaf⟩ := exists_leaf helements
      fun hround => hends id hwalked (hround.mono Declarations.inner?_of_element?)
    exact ⟨n, hn, base, hbase, hleaf, Declarations.stripArrays?_of_follow hbase hleaf⟩
  · obtain ⟨n, hn, leaf, hleaf, hlast⟩ :=
      exists_leaf Declarations.mem_typeIds_of_inner? (hends id hwalked)
    have hsome : (d.resolve? id).isSome := Option.isSome_iff_ne_none.2 fun hnone =>
      hends id hwalked (Declarations.resolve?_eq_none_iff.1 hnone)
    exact ⟨n, hn, leaf, hleaf, hlast, hsome⟩
  · obtain ⟨hwalked, hround⟩ := hendless id h
    exact hends id hwalked hround

/-- Nothing in the module with nested blocks is made of itself, though it refers ahead and declares
an id again: the elements of its array are structs, and no type goes deeper.

**Proof sketch.** From every id, two steps lead nowhere, so no walk comes round, and `toModule_ends`
applies. -/
theorem toModule_ends_nestedInstructions :
    let d := Declarations.ofInstructions nestedInstructions
    (∀ id, d.IsWalked id → ¬ComesRound d.inner? id) ∧ d.IsWalked 5 ∧
      (∃ n ≤ d.typeIds.length, ∃ base, follow d.element? n 5 = some base ∧
        d.stripArrays? 5 = some base) ∧
      ∀ id, d.toModule [] ≠ .error (.endlessType id) := by
  intro d
  have hids : d.typeIds = [6, 1, 2, 3, 5, 2, 4] := by cbv
  have hpairs : ∀ id ∈ [6, 1, 2, 3, 5, 2, 4], follow d.inner? 2 id = none := by
    simp only [List.forall_mem_cons, List.not_mem_nil, false_imp_iff, implies_true, and_true]
    exact ⟨by cbv, by cbv, by cbv, by cbv, by cbv, by cbv, by cbv⟩
  have hends (id : Nat) (_ : d.IsWalked id) : ¬ComesRound d.inner? id := by
    intro hround
    obtain ⟨next, hnext⟩ := Option.isSome_iff_exists.1 (hround.isSome_follow 1)
    have hstep : d.inner? id = some next := by rwa [follow_succ] at hnext
    have hnone := hpairs id (hids ▸ Declarations.mem_typeIds_of_inner? id next hstep)
    simpa [hnone] using hround.isSome_follow 2
  have hstruct : d.typeDecl? 4 = some (.struct [2, 5]) := by cbv
  have hwalked : d.IsWalked 5 := .member hstruct (by simp)
  obtain ⟨-, -, hall, -⟩ := toModule_ends nestedInstructions []
  obtain ⟨hleaf, hanswer⟩ := hall hends
  obtain ⟨⟨n, hn, base, hbase, -, hstrip⟩, -⟩ := hleaf 5 hwalked
  exact ⟨hends, hwalked, ⟨n, hn, base, hbase, hstrip⟩, hanswer⟩

/-- A module with a variable of an array type whose elements have this type again. The walk down to
the type below all arrays does not end. -/
def endlessVariableWords : List UInt32 :=
  [0x07230203, 0x10000, 0, 4, 0,
    0x3001d, 1, 1,
    0x40020, 2, 2, 1,
    0x4003b, 2, 3, 2]

/-- Its instructions. -/
def endlessVariable : List Instruction :=
  [⟨.typeRuntimeArray, [.result 1, .id 1]⟩,
   ⟨.typePointer, [.result 2, .value .storageClass 2, .id 1]⟩,
   ⟨.variableOp, [.resultType 2, .result 3, .value .storageClass 2]⟩]

/-- A module with a struct whose member has such a type. -/
def endlessMemberWords : List UInt32 :=
  [0x07230203, 0x10000, 0, 4, 0,
    0x3001d, 1, 1,
    0x3001e, 2, 1]

/-- Its instructions. -/
def endlessMember : List Instruction :=
  [⟨.typeRuntimeArray, [.result 1, .id 1]⟩, ⟨.typeStruct, [.result 2, .id 1]⟩]

/-- A stream that is read is put together from its declarations. -/
theorem parseWords_eq {words : List UInt32} {is : List Instruction}
    (h : readInstructions words = .ok is) :
    parseWords words = (Declarations.ofInstructions is).toModule words := by
  rw [parseWords, h]
  rfl

/-- Steps from an id to itself never leave it. -/
theorem follow_self {step : Nat → Option Nat} {id : Nat} (h : step id = some id) (n : Nat) :
    follow step n id = some id := by
  induction n with
  | zero => rfl
  | succ n ih => rw [follow, h, Option.bind_some, ih]

/-- **Walks without end.** The streams are read. From the variable of the one and from the member of
the other, the walk never comes to a leaf, and the reader is left without an answer.

**Proof sketch.** The array has itself for its elements, so steps from it never leave it
(`follow_self`). The reader comes to it from the variable and from the member, before anything else
can fail. -/
theorem exists_endlessArray :
    let d := Declarations.ofInstructions endlessVariable
    let d' := Declarations.ofInstructions endlessMember
    (readInstructions endlessVariableWords = .ok endlessVariable ∧ d.IsWalked 1 ∧
      (∀ n, follow d.element? n 1 = some 1) ∧ d.stripArrays? 1 = none ∧
      parseWords endlessVariableWords = .error (.endlessType 1)) ∧
    (readInstructions endlessMemberWords = .ok endlessMember ∧ d'.IsWalked 1 ∧
      (∀ n, follow d'.inner? n 1 = some 1) ∧ d'.resolve? 1 = none ∧
      parseWords endlessMemberWords = .error (.endlessType 1)) := by
  intro d d'
  have hread : readInstructions endlessVariableWords = .ok endlessVariable := by cbv
  have hread' : readInstructions endlessMemberWords = .ok endlessMember := by cbv
  have hself : d.element? 1 = some 1 := by cbv
  have hself' : d'.inner? 1 = some 1 := by cbv
  have hstrip : d.stripArrays? 1 = none := Declarations.stripArrays?_eq_none_iff.2
    ⟨0, 1, 1, Nat.one_pos, rfl, follow_self hself 1⟩
  have hresolve : d'.resolve? 1 = none := Declarations.resolve?_eq_none_iff.2
    ⟨0, 1, 1, Nat.one_pos, rfl, follow_self hself' 1⟩
  have hvariables : d.variableDecls = [{ id := 3, type := 2, storage := .uniform }] := by cbv
  have hpointer : d.typeDecl? 2 = some (.pointer 1) := by cbv
  have hstruct : d'.typeDecl? 2 = some (.struct [1]) := by cbv
  refine ⟨⟨hread, .variable (hvariables ▸ List.mem_singleton_self _) hpointer, follow_self hself,
    hstrip, ?_⟩, hread', .member hstruct (List.mem_singleton_self _), follow_self hself', hresolve,
    ?_⟩
  · have hstructs : d.structs = .ok ∅ := by cbv
    have hresources : d.resources = .error (.endlessType 1) := by
      simp only [Declarations.resources, hvariables, List.mapM_cons, Declarations.resource?,
        hpointer, Declarations.stripArrays, hstrip, Option.elim_none, bind, Except.bind]
    refine (parseWords_eq hread).trans (?_ : d.toModule _ = _)
    simp only [Declarations.toModule, hstructs, hresources, bind, Except.bind]
  · have hids : d'.structIds = [2] := by cbv
    have hstructs : d'.structs = .error (.endlessType 1) := by
      simp only [Declarations.structs, hids, Declarations.addStructs, hstruct, Declarations.struct,
        List.zipIdx_cons, List.mapM_cons, Declarations.member, Declarations.resolve, hresolve,
        Option.getD_none, bind, Except.bind]
    refine (parseWords_eq hread').trans (?_ : d'.toModule _ = _)
    simp only [Declarations.toModule, hstructs, bind, Except.bind]

end ShaderBindings.Spirv
