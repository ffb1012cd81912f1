import ShaderBindings.Host.Alignment
import ShaderBindings.Proofs.Result
import ShaderBindings.Proofs.Struct.Containment
import ShaderBindings.Struct.Signature
/-!
# Outlines of structs

What a signature and the host alignment of a struct depend on: its members, down to the innermost
ones, without the ids under which a module knows the structs. Both walks over a module factor
through this tree.

## Main definitions

* `ShaderBindings.Outline` - the members of a struct and of the structs inside it.
* `ShaderModule.HasOutline` - the outline of members, inside the structs of a path.
* `Outline.text` - how an outline is written in a signature.
* `Outline.align?` - the largest host alignment in an outline.
* `Outline.IsNumeric` - outlines of numbers only, in which no struct comes round again.

## Main results

* `ShaderModule.signature_eq_ok_iff` - a signature is the text of the outline.
* `ShaderModule.alignWithin_nil_eq_ok_iff` - the host alignment is that of the outline.
* `ShaderModule.HasOutline.unique` - members have at most one outline.
* `ShaderModule.HasOutline.of_subset` - a shorter path makes no difference to a numeric outline.
* `ShaderModule.exists_hasOutline` - members have an outline if nothing inside them is missing.
-/

set_option autoImplicit false

namespace ShaderBindings

/-- A number is looked for in the same place whatever the failure is reported for. -/
theorem BaseType.scalarIn_eq_ok_iff {context : String} (base : BaseType) {s : HostScalar} :
    base.scalarIn context = .ok s ↔ base.hostScalar = .ok s := by
  unfold scalarIn
  cases base.hostScalar <;> simp [Except.mapError]

/-- Looking for the scalar of a type fails only where the host has none. -/
theorem BaseType.failsOnly_scalarIn {kind : Error → Prop} {context : String} {base : BaseType}
    (h : ∀ cause, base.hostScalar = .error cause → kind (.unsupportedType context cause)) :
    Result.FailsOnly kind (base.scalarIn context) := by
  unfold scalarIn
  cases hs : base.hostScalar with
  | error cause => exact Result.failsOnly_error.2 (h cause hs)
  | ok s => exact Result.failsOnly_ok

/-- A member of struct type with the id of the struct left out. -/
def Member.withoutId (mem : Member) : Member := { mem with ty := { mem.ty with base := .struct 0 } }

/-- A member keeps its name if the id of its struct is left out. -/
@[simp] theorem Member.name_withoutId (mem : Member) : mem.withoutId.name = mem.name := rfl

/-- What is written behind the base type of a member has nothing to do with the base type. -/
@[simp] theorem Member.suffix_withoutId (mem : Member) : mem.withoutId.suffix = mem.suffix := rfl

/-- The members of a struct, one after the other, with those of the structs inside. It is what a
signature tells of a struct, before it is written down as a text. -/
inductive Outline where
  | done
  /-- A member that is no struct. -/
  | plain (mem : Member) (rest : Outline)
  /-- A member whose struct has the given name, declared size and members. -/
  | nested (mem : Member) (name : String) (size : Nat) (inner rest : Outline)
  /-- A member whose struct, of the given name, is one of those it stands in. -/
  | again (mem : Member) (name : String) (rest : Outline)
deriving DecidableEq, Repr

namespace Outline

/-- What stands in front of the members of a struct in a signature. -/
def heading (name : String) (size : Nat) : List Char :=
  name.toList ++ ',' :: (Text.zeroPad 9 (Nat.toDigits 10 size) ++ [':'])

/-- How the members are written in a signature. Names and numbers are joined as they are; whether
the outline can be read back from the text is another question, see `Outline.IsReadable`. -/
def text : Outline → List Char
  | done => []
  | plain mem rest =>
    mem.name.toList ++ ',' :: (mem.ty.base.token.toList ++ (mem.suffix.toList ++ rest.text))
  | nested mem name size inner rest =>
    mem.name.toList ++ ',' :: '\x7b' :: (heading name size ++
      (inner.text ++ '\x7d' :: (mem.suffix.toList ++ rest.text)))
  | again mem name rest =>
    mem.name.toList ++ ',' :: '@' :: (name.toList ++ (mem.suffix.toList ++ rest.text))

/-- The largest of `least` and the host alignments of the members, if all have one. -/
def align? (least : Nat) : Outline → Option Nat
  | done => some least
  | plain mem rest =>
    match mem.ty.base.hostScalar with
    | .ok s => rest.align? (max least s.size)
    | .error _ => none
  | nested _ _ _ inner rest =>
    match inner.align? wordSize with
    | some align => rest.align? (max least align)
    | none => none
  | again .. => none

section

variable {mem : Member} {name : String} {size least a : Nat} {inner rest : Outline}

/-- Behind a number the alignments go on from its size. -/
theorem align?_plain_eq_some_iff :
    (plain mem rest).align? least = some a ↔
      ∃ s, mem.ty.base.hostScalar = .ok s ∧ rest.align? (max least s.size) = some a := by
  simp only [align?]
  cases mem.ty.base.hostScalar <;> simp

/-- Behind a struct the alignments go on from that of the struct. -/
theorem align?_nested_eq_some_iff :
    (nested mem name size inner rest).align? least = some a ↔
      ∃ b, inner.align? wordSize = some b ∧ rest.align? (max least b) = some a := by
  simp only [align?]
  cases inner.align? wordSize <;> simp

end

/-- Every member is a number with a counterpart on the host or a struct of such members. -/
def IsNumeric : Outline → Prop
  | done => True
  | plain mem rest => (∃ s, mem.ty.base.hostScalar = .ok s) ∧ rest.IsNumeric
  | nested _ _ _ inner rest => inner.IsNumeric ∧ rest.IsNumeric
  | again .. => False

/-- Only numeric outlines have a host alignment.

**Proof sketch.** Induction on the outline, with no alignment where a struct comes round again. -/
theorem isNumeric_of_align? {o : Outline} {least a : Nat} (h : o.align? least = some a) :
    o.IsNumeric := by
  induction o generalizing least a with
  | done => trivial
  | plain mem rest ih =>
    obtain ⟨s, hs, h⟩ := align?_plain_eq_some_iff.1 h
    exact ⟨⟨s, hs⟩, ih h⟩
  | nested mem name size inner rest ihi ihr =>
    obtain ⟨b, hb, h⟩ := align?_nested_eq_some_iff.1 h
    exact ⟨ihi hb, ihr h⟩
  | again mem name rest ih => cases h

end Outline

/-- The characters that the signature of a struct starts with. -/
theorem StructType.toList_heading (st : StructType) :
    st.heading.toList = Outline.heading st.name st.size := by
  change (st.name ++ "," ++ sizeDigits st.size ++ ":").toList = _
  simp [Outline.heading, sizeDigits]

namespace ShaderModule

/-- The members have the outline, inside the structs of the path. A struct of the path is not gone
into again, so every list of members whose structs are there has an outline. -/
inductive HasOutline (m : ShaderModule) : List Nat → List Member → Outline → Prop
  | done {path : List Nat} : m.HasOutline path [] .done
  | plain {path : List Nat} {mem : Member} {rest : List Member} {o : Outline}
      (hbase : mem.ty.base.structId? = none) (hrest : m.HasOutline path rest o) :
      m.HasOutline path (mem :: rest) (.plain mem o)
  | nested {path : List Nat} {mem : Member} {rest : List Member} {id : Nat} {st : StructType}
      {inner o : Outline} (hbase : mem.ty.base = .struct id) (hst : m.struct? id = some st)
      (hid : id ∉ path) (hinner : m.HasOutline (id :: path) st.members inner)
      (hrest : m.HasOutline path rest o) :
      m.HasOutline path (mem :: rest) (.nested mem.withoutId st.name st.size inner o)
  | again {path : List Nat} {mem : Member} {rest : List Member} {id : Nat} {st : StructType}
      {o : Outline} (hbase : mem.ty.base = .struct id) (hst : m.struct? id = some st)
      (hid : id ∈ path) (hrest : m.HasOutline path rest o) :
      m.HasOutline path (mem :: rest) (.again mem.withoutId st.name o)

variable {m : ShaderModule}

/-- Members have at most one outline.

**Proof sketch.** Induction on the first outline. A member decides which case the second one is: it
has a struct or none, and the struct is on the path or not. -/
theorem HasOutline.unique {path : List Nat} {members : List Member} {o o' : Outline}
    (h : m.HasOutline path members o) (h' : m.HasOutline path members o') : o = o' := by
  induction h generalizing o' with
  | done =>
    cases h'
    rfl
  | plain hbase _ ih =>
    cases h' with
    | plain _ hrest' => rw [ih hrest']
    | nested hbase' => simp [hbase', BaseType.structId?] at hbase
    | again hbase' => simp [hbase', BaseType.structId?] at hbase
  | nested hbase hst hid _ _ ihi ihr =>
    cases h' with
    | plain hbase' => simp [hbase, BaseType.structId?] at hbase'
    | nested hbase' hst' _ hinner' hrest' =>
      cases hbase.symm.trans hbase'
      cases hst.symm.trans hst'
      rw [ihi hinner', ihr hrest']
    | again hbase' _ hid' =>
      cases hbase.symm.trans hbase'
      exact absurd hid' hid
  | again hbase hst hid _ ih =>
    cases h' with
    | plain hbase' => simp [hbase, BaseType.structId?] at hbase'
    | nested hbase' _ hid' =>
      cases hbase.symm.trans hbase'
      exact absurd hid hid'
    | again hbase' hst' _ hrest' =>
      cases hbase.symm.trans hbase'
      cases hst.symm.trans hst'
      rw [ih hrest']

/-- A numeric outline is the same inside fewer structs, since no struct comes round again.

**Proof sketch.** Induction on the outline. A struct that is not on the path is not on a part of
it. -/
theorem HasOutline.of_subset {path path' : List Nat} {members : List Member} {o : Outline}
    (h : m.HasOutline path members o) (ho : o.IsNumeric) (hsub : path' ⊆ path) :
    m.HasOutline path' members o := by
  induction h generalizing path' with
  | done => exact .done
  | plain hbase _ ih => exact .plain hbase (ih ho.2 hsub)
  | nested hbase hst hid _ _ ihi ihr =>
    refine .nested hbase hst (fun hmem => hid (hsub hmem)) (ihi ho.1 ?_) (ihr ho.2 hsub)
    exact List.cons_subset_cons _ hsub
  | again => exact ho.elim

/-- Nothing inside a member of a numeric outline is on the path.

**Proof sketch.** Induction on the outline. Inside a nested struct is the struct itself, which is
not on the path, or something inside one of its members, where the path is only longer. -/
theorem HasOutline.notMem_of_within {path : List Nat} {members : List Member} {o : Outline}
    (h : m.HasOutline path members o) (ho : o.IsNumeric) {mem : Member} (hmem : mem ∈ members)
    {child x : Nat} (hbase : mem.ty.base = .struct child) (hx : m.Within child x) : x ∉ path := by
  induction h generalizing mem child with
  | done => cases hmem
  | plain hplain _ ih =>
    rcases List.mem_cons.1 hmem with rfl | hmem
    · simp [hbase, BaseType.structId?] at hplain
    · exact ih ho.2 hmem hbase hx
  | nested hstruct hst hid _ _ ihi ihr =>
    rcases List.mem_cons.1 hmem with rfl | hmem
    · cases hstruct.symm.trans hbase
      rcases Relation.ReflTransGen.cases_head hx with rfl | ⟨inner, ⟨st, hst', hinner⟩, hwithin⟩
      · exact hid
      · cases hst.symm.trans hst'
        obtain ⟨mem', hmem', hbase'⟩ := StructType.mem_children_iff.1 hinner
        exact fun hpath => ihi ho.1 hmem' hbase' hwithin (List.mem_cons_of_mem _ hpath)
    · exact ihr ho.2 hmem hbase hx
  | again => exact ho.elim

/-- Members with nothing missing inside their structs have an outline.

**Proof sketch.** By recursion on the members, and for a nested struct on the number of structs that
are not on the path. Inside such a struct nothing is missing either. -/
theorem exists_hasOutline {path : List Nat} {members : List Member}
    (h : ∀ mem ∈ members, ∀ child, mem.ty.base = .struct child → ∀ id, m.Within child id →
      (m.struct? id).isSome) : ∃ o, m.HasOutline path members o := by
  match members with
  | [] => exact ⟨.done, .done⟩
  | mem :: rest =>
    obtain ⟨hmem, hrest⟩ := List.forall_mem_cons.1 h
    obtain ⟨o, ho⟩ : ∃ o, m.HasOutline path rest o := exists_hasOutline hrest
    cases hbase : mem.ty.base.structId? with
    | none => exact ⟨_, .plain hbase ho⟩
    | some id =>
      rw [BaseType.structId?_eq_some_iff] at hbase
      have hwithin := hmem id hbase
      obtain ⟨st, hst⟩ := Option.isSome_iff_exists.1 (hwithin id Within.refl)
      by_cases hid : id ∈ path
      · exact ⟨_, .again hbase hst hid ho⟩
      · have hlt : m.remaining (id :: path) < m.remaining path := remaining_cons_lt hst hid
        obtain ⟨inner, hinner⟩ : ∃ o, m.HasOutline (id :: path) st.members o := by
          refine exists_hasOutline fun mem' hmem' child hchild x hx => hwithin x ?_
          exact (Within.of_member hst hmem' hchild).trans hx
        exact ⟨_, .nested hbase hst hid hinner ho⟩
termination_by (m.remaining path, members.length)
decreasing_by
  · exact Prod.Lex.right _ (by simp)
  · exact Prod.Lex.left _ _ (by assumption)

/-! ## Signatures -/

/-- A struct on the path is written by its name alone, behind a mark. -/
theorem writeStruct_of_mem {path : List Nat} {id : Nat} {st : StructType} (out : String)
    (hst : m.struct? id = some st) (hid : id ∈ path) :
    m.writeStruct path id out = .ok (out ++ "@" ++ st.name) := by
  rw [writeStruct]
  split
  · next hnone => simp [hst] at hnone
  · next st' hst' =>
    cases hst.symm.trans hst'
    rw [dif_pos (by simpa using hid)]

/-- A struct that is not on the path is written with its heading and its members, between braces. -/
theorem writeStruct_of_notMem {path : List Nat} {id : Nat} {st : StructType} (out : String)
    (hst : m.struct? id = some st) (hid : id ∉ path) :
    m.writeStruct path id out =
      (m.writeMembers (id :: path) st.members (out ++ "\x7b" ++ st.heading)).map (· ++ "\x7d") := by
  rw [writeStruct]
  split
  · next hnone => simp [hst] at hnone
  · next st' hst' =>
    cases hst.symm.trans hst'
    rw [dif_neg (by simpa using hid)]
    cases m.writeMembers (id :: path) st.members (out ++ "\x7b" ++ st.heading) <;> rfl

/-- A member with a struct is written with the text of the struct. -/
theorem writeMembers_cons_struct {path : List Nat} {mem : Member} {rest : List Member} {id : Nat}
    (out : String) (hbase : mem.ty.base = .struct id) :
    m.writeMembers path (mem :: rest) out =
      m.writeStruct path id (out ++ mem.name ++ ",") >>= fun text =>
        m.writeMembers path rest (text ++ mem.suffix) := by
  rw [writeMembers]
  simp only [hbase]

/-- A member without a struct is written with the token of its type. -/
theorem writeMembers_cons_plain {path : List Nat} {mem : Member} {rest : List Member}
    (out : String) (hbase : mem.ty.base.structId? = none) :
    m.writeMembers path (mem :: rest) out =
      m.writeMembers path rest (out ++ mem.name ++ "," ++ mem.ty.base.token ++ mem.suffix) := by
  rw [writeMembers]
  cases hb : mem.ty.base with
  | struct id => simp [hb, BaseType.structId?] at hbase
  | _ => rfl

mutual

/-- The text for a struct is that of its outline, inside braces, or a mark.

**Proof sketch.** By the recursion of the writer, together with the same for members. -/
theorem exists_of_writeStruct {path : List Nat} {id : Nat} {out text : String}
    (h : m.writeStruct path id out = .ok text) :
    ∃ st, m.struct? id = some st ∧
      (id ∈ path ∧ text.toList = out.toList ++ '@' :: st.name.toList ∨
        id ∉ path ∧ ∃ o, m.HasOutline (id :: path) st.members o ∧
          text.toList =
            out.toList ++ '\x7b' :: (Outline.heading st.name st.size ++ (o.text ++ ['\x7d']))) := by
  cases hst : m.struct? id with
  | none =>
    rw [writeStruct] at h
    split at h
    · cases h
    · next st hst' => simp [hst] at hst'
  | some st =>
    refine ⟨st, rfl, ?_⟩
    by_cases hid : id ∈ path
    · rw [writeStruct_of_mem out hst hid] at h
      cases h
      exact .inl ⟨hid, by simp⟩
    · have hlt : m.remaining (id :: path) < m.remaining path := remaining_cons_lt hst hid
      rw [writeStruct_of_notMem out hst hid] at h
      obtain ⟨written, hw, rfl⟩ := Result.map_eq_ok_iff.1 h
      obtain ⟨o, ho, htext⟩ := exists_of_writeMembers hw
      refine .inr ⟨hid, o, ho, ?_⟩
      simp [htext, StructType.toList_heading]
termination_by (m.remaining path, 0)
decreasing_by
  exact Prod.Lex.left _ _ (by assumption)

/-- The text for members is that of their outline.

**Proof sketch.** By recursion as in `writeMembers`, along with the text for a struct: each way in
which a member is written belongs to one case of the outline. -/
theorem exists_of_writeMembers {path : List Nat} {members : List Member} {out text : String}
    (h : m.writeMembers path members out = .ok text) :
    ∃ o, m.HasOutline path members o ∧ text.toList = out.toList ++ o.text := by
  match members with
  | [] =>
    simp only [writeMembers, Except.ok.injEq] at h
    subst h
    exact ⟨.done, .done, by simp [Outline.text]⟩
  | mem :: rest =>
    cases hbase : mem.ty.base.structId? with
    | none =>
      rw [writeMembers_cons_plain out hbase] at h
      obtain ⟨o, ho, htext⟩ := exists_of_writeMembers h
      exact ⟨_, .plain hbase ho, by simp [htext, Outline.text]⟩
    | some id =>
      rw [BaseType.structId?_eq_some_iff] at hbase
      rw [writeMembers_cons_struct out hbase] at h
      obtain ⟨written, hw, h⟩ := Result.bind_eq_ok_iff.1 h
      obtain ⟨o, ho, htext⟩ := exists_of_writeMembers h
      obtain ⟨st, hst, ⟨hid, hwritten⟩ | ⟨hid, inner, hinner, hwritten⟩⟩ :=
        exists_of_writeStruct hw
      · refine ⟨_, .again hbase hst hid ho, ?_⟩
        simp [htext, hwritten, Outline.text]
      · refine ⟨_, .nested hbase hst hid hinner ho, ?_⟩
        simp [htext, hwritten, Outline.text]
termination_by (m.remaining path, members.length + 1)
decreasing_by
  all_goals
    apply Prod.Lex.right
    simp only [List.length_cons]
    omega

end

/-- Members with an outline have a text.

**Proof sketch.** Induction on the outline, each case with its own way of writing the member. -/
theorem HasOutline.exists_writeMembers {path : List Nat} {members : List Member} {o : Outline}
    (h : m.HasOutline path members o) (out : String) :
    ∃ text, m.writeMembers path members out = .ok text := by
  induction h generalizing out with
  | done => exact ⟨out, by rw [writeMembers]⟩
  | plain hbase _ ih =>
    rw [writeMembers_cons_plain out hbase]
    exact ih _
  | nested hbase hst hid _ _ ihi ihr =>
    obtain ⟨text, htext⟩ := ihi _
    rw [writeMembers_cons_struct out hbase, writeStruct_of_notMem _ hst hid, htext]
    exact ihr _
  | again hbase hst hid _ ih =>
    rw [writeMembers_cons_struct out hbase, writeStruct_of_mem _ hst hid]
    exact ih _

/-- The signature of members, behind a text that is there already, is the text of their outline.

**Proof sketch.** One direction is `exists_of_writeMembers`. For the other one, the text that the
members have (`HasOutline.exists_writeMembers`) is that of some outline, and there is only one
(`HasOutline.unique`). -/
theorem writeMembers_eq_ok_iff {path : List Nat} {members : List Member} {out text : String} :
    m.writeMembers path members out = .ok text ↔
      ∃ o, m.HasOutline path members o ∧ text.toList = out.toList ++ o.text := by
  constructor
  · exact exists_of_writeMembers
  · rintro ⟨o, ho, htext⟩
    obtain ⟨text', htext'⟩ := ho.exists_writeMembers out
    obtain ⟨o', ho', htext''⟩ := exists_of_writeMembers htext'
    obtain rfl := ho.unique ho'
    rw [htext', String.toList_inj.1 (htext''.trans htext.symm)]

/-- The signature of a struct is its heading followed by the text of its outline. -/
theorem signature_eq_ok_iff {st : StructType} {text : String} :
    m.signature st = .ok text ↔
      ∃ o, m.HasOutline [st.id] st.members o ∧
        text.toList = Outline.heading st.name st.size ++ o.text := by
  rw [signature, writeMembers_eq_ok_iff, StructType.toList_heading]

/-- Structs of the same name, size and outline have the same signature. -/
theorem exists_signature_of_hasOutline {m' : ShaderModule} {st st' : StructType} {o : Outline}
    (hname : st.name = st'.name) (hsize : st.size = st'.size)
    (ho : m.HasOutline [st.id] st.members o) (ho' : m'.HasOutline [st'.id] st'.members o) :
    ∃ text, m.signature st = .ok text ∧ m'.signature st' = .ok text := by
  refine ⟨String.ofList (Outline.heading st.name st.size ++ o.text), ?_, ?_⟩
  · exact signature_eq_ok_iff.2 ⟨o, ho, by rw [String.toList_ofList]⟩
  · exact signature_eq_ok_iff.2 ⟨o, ho', by rw [String.toList_ofList, hname, hsize]⟩

/-! ## Host alignment -/

/-- A struct on the path contains itself, and has no alignment. -/
theorem alignWithin_of_mem {path : List Nat} {id : Nat} {st : StructType}
    (hst : m.struct? id = some st) (hid : id ∈ path) :
    m.alignWithin path id = .error (.layout st.name .containsItself) := by
  rw [alignWithin]
  split
  · next hnone => simp [hst] at hnone
  · next st' hst' =>
    cases hst.symm.trans hst'
    rw [dif_pos (by simpa using hid)]

/-- A struct that is not on the path is aligned as its members are. -/
theorem alignWithin_of_notMem {path : List Nat} {id : Nat} {st : StructType}
    (hst : m.struct? id = some st) (hid : id ∉ path) :
    m.alignWithin path id = m.alignMembers (id :: path) st.name wordSize st.members := by
  rw [alignWithin]
  split
  · next hnone => simp [hst] at hnone
  · next st' hst' =>
    cases hst.symm.trans hst'
    rw [dif_neg (by simpa using hid)]

/-- A member with a struct is aligned as the struct is. -/
theorem alignMembers_cons_struct {path : List Nat} {owner : String} {least : Nat} {mem : Member}
    {rest : List Member} {id : Nat} (hbase : mem.ty.base = .struct id) :
    m.alignMembers path owner least (mem :: rest) =
      m.alignWithin path id >>= fun align =>
        m.alignMembers path owner (max least align) rest := by
  rw [alignMembers]
  simp only [hbase]

/-- A member without a struct is aligned as its scalar is. -/
theorem alignMembers_cons_plain {path : List Nat} {owner : String} {least : Nat} {mem : Member}
    {rest : List Member} (hbase : mem.ty.base.structId? = none) :
    m.alignMembers path owner least (mem :: rest) =
      mem.ty.base.scalarIn s!"{owner}.{mem.name}" >>= fun s =>
        m.alignMembers path owner (max least s.size) rest := by
  have hmap (x : Result HostScalar) (k : Nat → Result Nat) :
      x.map (·.size) >>= k = x >>= fun s => k s.size := by
    cases x <;> rfl
  rw [alignMembers]
  cases hb : mem.ty.base with
  | struct id => simp [hb, BaseType.structId?] at hbase
  | _ => exact hmap _ _

mutual

/-- The host alignment of a struct is that of its outline.

**Proof sketch.** By the recursion of the walk, together with the same for members. -/
theorem exists_of_alignWithin {path : List Nat} {id a : Nat} (h : m.alignWithin path id = .ok a) :
    ∃ st o, m.struct? id = some st ∧ id ∉ path ∧ m.HasOutline (id :: path) st.members o ∧
      o.align? wordSize = some a := by
  cases hst : m.struct? id with
  | none =>
    rw [alignWithin] at h
    split at h
    · cases h
    · next st hst' => simp [hst] at hst'
  | some st =>
    by_cases hid : id ∈ path
    · rw [alignWithin_of_mem hst hid] at h
      cases h
    · have hlt : m.remaining (id :: path) < m.remaining path := remaining_cons_lt hst hid
      rw [alignWithin_of_notMem hst hid] at h
      obtain ⟨o, ho, halign⟩ := exists_of_alignMembers h
      exact ⟨st, o, rfl, hid, ho, halign⟩
termination_by (m.remaining path, 0)
decreasing_by
  exact Prod.Lex.left _ _ (by assumption)

/-- The host alignment of members is that of their outline.

**Proof sketch.** By recursion as in `alignMembers`, along with the alignment of a struct. A struct
on the path would have failed, so the last case of the outline does not come up. -/
theorem exists_of_alignMembers {path : List Nat} {owner : String} {least a : Nat}
    {members : List Member} (h : m.alignMembers path owner least members = .ok a) :
    ∃ o, m.HasOutline path members o ∧ o.align? least = some a := by
  match members with
  | [] =>
    simp only [alignMembers, Except.ok.injEq] at h
    subst h
    exact ⟨.done, .done, rfl⟩
  | mem :: rest =>
    cases hbase : mem.ty.base.structId? with
    | none =>
      rw [alignMembers_cons_plain hbase] at h
      obtain ⟨s, hs, h⟩ := Result.bind_eq_ok_iff.1 h
      obtain ⟨o, ho, halign⟩ := exists_of_alignMembers h
      rw [BaseType.scalarIn_eq_ok_iff] at hs
      exact ⟨_, .plain hbase ho, Outline.align?_plain_eq_some_iff.2 ⟨s, hs, halign⟩⟩
    | some id =>
      rw [BaseType.structId?_eq_some_iff] at hbase
      rw [alignMembers_cons_struct hbase] at h
      obtain ⟨align, hw, h⟩ := Result.bind_eq_ok_iff.1 h
      obtain ⟨o, ho, halign⟩ := exists_of_alignMembers h
      obtain ⟨st, inner, hst, hid, hinner, hin⟩ := exists_of_alignWithin hw
      exact ⟨_, .nested hbase hst hid hinner ho,
        Outline.align?_nested_eq_some_iff.2 ⟨align, hin, halign⟩⟩
termination_by (m.remaining path, members.length + 1)
decreasing_by
  all_goals
    apply Prod.Lex.right
    simp only [List.length_cons]
    omega

end

/-- Members whose outline has a host alignment have it as their own.

**Proof sketch.** Induction on the outline, each case with its own way of aligning the member. -/
theorem HasOutline.alignMembers {path : List Nat} {members : List Member} {o : Outline}
    (h : m.HasOutline path members o) {owner : String} {least a : Nat}
    (ha : o.align? least = some a) : m.alignMembers path owner least members = .ok a := by
  induction h generalizing owner least a with
  | done =>
    cases ha
    rw [ShaderModule.alignMembers]
  | plain hbase _ ih =>
    obtain ⟨s, hs, ha⟩ := Outline.align?_plain_eq_some_iff.1 ha
    rw [alignMembers_cons_plain hbase, (BaseType.scalarIn_eq_ok_iff _).2 hs]
    exact ih ha
  | nested hbase hst hid _ _ ihi ihr =>
    obtain ⟨b, hb, ha⟩ := Outline.align?_nested_eq_some_iff.1 ha
    rw [alignMembers_cons_struct hbase, alignWithin_of_notMem hst hid, ihi hb]
    exact ihr ha
  | again => cases ha

/-- The host alignment of a struct is that of its outline.

**Proof sketch.** From the alignment to the outline it is `exists_of_alignWithin`, and back
`HasOutline.alignMembers`. -/
theorem alignWithin_nil_eq_ok_iff {id a : Nat} :
    m.alignWithin [] id = .ok a ↔
      ∃ st o, m.struct? id = some st ∧ m.HasOutline [id] st.members o ∧
        o.align? wordSize = some a := by
  constructor
  · intro h
    obtain ⟨st, o, hst, -, ho, ha⟩ := exists_of_alignWithin h
    exact ⟨st, o, hst, ho, ha⟩
  · rintro ⟨st, o, hst, ho, ha⟩
    rw [alignWithin_of_notMem hst (by simp)]
    exact ho.alignMembers ha

end ShaderModule

end ShaderBindings
