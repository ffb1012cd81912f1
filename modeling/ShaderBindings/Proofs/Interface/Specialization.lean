import ShaderBindings.Interface.Specialization
import ShaderBindings.Proofs.Result
import ShaderBindings.Proofs.Sorted
/-!
# The constants that are settable

The candidates are gone through in order, and the first one of each id is taken. Candidates behind
it are passed over before their types are looked at, so only the first ones decide whether the
constants can be listed, and what the list says about an id.

## Main definitions

* `SpecKind.shaderType`, `ShaderType.IsSettable` - the types that settable constants can have.
* `ShaderModule.firstSpec?`, `IsFirst` - the first candidate of an id.
* `ShaderModule.HoldsFirst` - a table has an entry for the first candidate of each id.

## Main results

* `SpecKind.ofType_eq_ok_iff` - which types have a kind.
* `ShaderModule.HoldsFirst.addSpec`, `HoldsFirst.isFirst_of_addSpec` - one more candidate is added,
  or is the first of its id and cannot be set.
* `ShaderModule.specializations_eq_ok_iff` - what the list of a module is.
* `ShaderModule.nodup_specializations` - settable constants have different ids.
* `ShaderModule.specializations_isFirst` - its order, its entries, its failures, and permutations.
-/

set_option autoImplicit false

namespace ShaderBindings

/-! ## Types -/

/-- The type of a constant of the kind. It is the only one, as `SpecKind.ofType_eq_ok_iff` says. -/
def SpecKind.shaderType : SpecKind → ShaderType
  | .bool => { base := .boolean }
  | .i32 => { base := .integer 32 true }
  | .u32 => { base := .integer 32 false }
  | .f32 => { base := .float 32 }
  | .i64 => { base := .integer 64 true }
  | .u64 => { base := .integer 64 false }
  | .f64 => { base := .float 64 }

section Types

variable {context : String} {t : ShaderType} {kind : SpecKind}

/-- A type has a kind exactly if it is the type of this kind.

**Proof sketch.** The check lets single values pass only, and then there is one kind for each type
that is listed. The other way round each kind is looked at. -/
theorem SpecKind.ofType_eq_ok_iff : SpecKind.ofType context t = .ok kind ↔ t = kind.shaderType := by
  constructor
  · intro h
    obtain ⟨base, components, columns, extents⟩ := t
    unfold SpecKind.ofType at h
    rw [Result.ite_error_eq_ok_iff] at h
    obtain ⟨hsingle, h⟩ := h
    simp only [ShaderType.isArray, not_or, Decidable.not_not, Bool.not_eq_true,
      Bool.not_eq_false', List.isEmpty_iff] at hsingle
    obtain ⟨rfl, rfl, rfl⟩ := hsingle
    simp only at h
    split at h
    case h_8 => cases h
    all_goals
      cases h
      rfl
  · rintro rfl
    cases kind <;> rfl

end Types

/-! ## The first candidate of an id -/

namespace ShaderModule

/-- The first candidate with the given id. -/
def firstSpec? (candidates : List (String × SpecConstant)) (id : Nat) :
    Option (String × SpecConstant) :=
  candidates.find? (·.2.constantId == id)

/-- The candidate is in the list, and none before it has its id. Those behind it can have the id:
they are the ones that are passed over. -/
def IsFirst (candidates : List (String × SpecConstant)) (c : String × SpecConstant) : Prop :=
  ∃ front back, candidates = front ++ c :: back ∧ ∀ b ∈ front, b.2.constantId ≠ c.2.constantId

/-- The table has an entry for the first candidate of each id, and no others. Adding a candidate
keeps this, with the candidate behind all others. -/
structure HoldsFirst (entries : Table SpecEntry) (candidates : List (String × SpecConstant)) :
    Prop where
  found : ∀ id c, firstSpec? candidates id = some c → ∃ kind,
    SpecKind.ofType c.1 c.2.ty = .ok kind ∧
      entries.get? id = some { constantId := id, name := c.1, kind }
  missing : ∀ id, firstSpec? candidates id = none → entries.get? id = none

variable {candidates : List (String × SpecConstant)} {entries entries' : Table SpecEntry}
  {c : String × SpecConstant} {id : Nat} {e : Error}

/-- One more candidate is the first of its id only if there was none before it. -/
theorem firstSpec?_append : firstSpec? (candidates ++ [c]) id =
    (firstSpec? candidates id).or (if c.2.constantId = id then some c else none) := by
  rw [firstSpec?, List.find?_append, firstSpec?]
  by_cases hid : c.2.constantId = id
  · simp [hid]
  · simp [hid]

/-- What is found for an id is the first candidate that has it. -/
theorem firstSpec?_eq_some_iff : firstSpec? candidates id = some c ↔
    IsFirst candidates c ∧ c.2.constantId = id := by
  rw [firstSpec?, List.find?_eq_some_iff_append, IsFirst, beq_iff_eq]
  constructor
  · rintro ⟨rfl, front, back, rfl, hfront⟩
    exact ⟨⟨front, back, rfl, by simpa using hfront⟩, rfl⟩
  · rintro ⟨⟨front, back, rfl, hfront⟩, rfl⟩
    exact ⟨rfl, front, back, rfl, by simpa using hfront⟩

/-- An id has a first candidate exactly if it has one at all. -/
theorem isSome_firstSpec?_iff :
    (firstSpec? candidates id).isSome ↔ ∃ c ∈ candidates, c.2.constantId = id := by
  simp [firstSpec?]

/-- A candidate behind the others is the first of its id if this is new. -/
theorem isFirst_append (h : firstSpec? candidates c.2.constantId = none) :
    IsFirst (candidates ++ [c]) c := by
  refine ⟨candidates, [], rfl, fun b hb heq => ?_⟩
  have hsome := isSome_firstSpec?_iff.2 ⟨b, hb, heq⟩
  simp [h] at hsome

/-- Candidates behind others do not change which one is the first of an id. -/
theorem IsFirst.append (h : IsFirst candidates c) (later : List (String × SpecConstant)) :
    IsFirst (candidates ++ later) c := by
  obtain ⟨front, back, rfl, hfront⟩ := h
  exact ⟨front, back ++ later, by simp, hfront⟩

/-! ## Adding candidates -/

/-- Without candidates there are no entries. -/
theorem holdsFirst_empty : HoldsFirst ∅ [] where
  found _ _ h := by cases h
  missing _ _ := rfl

/-- One more candidate is added if it is the first of its id, and passed over if not.

**Proof sketch.** If the id has an entry the table stays, and so do the first candidates
(`firstSpec?_append`). If not, the candidate is the first of its id and gets an entry, and all other
ids keep what they had. -/
theorem HoldsFirst.addSpec (h : HoldsFirst entries candidates)
    (hadd : addSpec entries c = .ok entries') : HoldsFirst entries' (candidates ++ [c]) := by
  simp only [ShaderModule.addSpec] at hadd
  cases hfirst : firstSpec? candidates c.2.constantId with
  | some first =>
    obtain ⟨kind, -, hentry⟩ := h.found _ first hfirst
    rw [hentry] at hadd
    cases hadd
    have hsame (id : Nat) :
        firstSpec? (candidates ++ [c]) id = firstSpec? candidates id := by
      rw [firstSpec?_append]
      split
      · next hid =>
        subst hid
        simp [hfirst]
      · simp
    exact ⟨fun id c hc => h.found id c (hsame id ▸ hc), fun id hid => h.missing id (hsame id ▸ hid)⟩
  | none =>
    rw [h.missing _ hfirst] at hadd
    obtain ⟨kind, hkind, heq⟩ := Result.bind_eq_ok_iff.1 hadd
    cases heq
    refine ⟨fun id c' hc' => ?_, fun id hid => ?_⟩
    · rw [firstSpec?_append] at hc'
      rw [Table.get?_insert]
      by_cases hid : c.2.constantId = id
      · subst hid
        rw [hfirst, if_pos rfl, Option.none_or, Option.some.injEq] at hc'
        subst hc'
        exact ⟨kind, hkind, by simp⟩
      · rw [if_neg hid, Option.or_none] at hc'
        rw [if_neg (Ne.symm hid)]
        exact h.found id c' hc'
    · rw [firstSpec?_append, Option.or_eq_none_iff] at hid
      obtain ⟨hold, hnew⟩ := hid
      have hne : id ≠ c.2.constantId := by
        rintro rfl
        simp at hnew
      rw [Table.get?_insert, if_neg hne]
      exact h.missing id hold

/-- A candidate that cannot be added is the first of its id, and its type has no kind.

**Proof sketch.** An id that has an entry is passed over without a check, so the id is new, and the
only step that can fail looks for the kind of the type. -/
theorem HoldsFirst.isFirst_of_addSpec (h : HoldsFirst entries candidates)
    (hadd : ShaderModule.addSpec entries c = .error e) :
    IsFirst (candidates ++ [c]) c ∧ SpecKind.ofType c.1 c.2.ty = .error e := by
  simp only [ShaderModule.addSpec] at hadd
  cases hfirst : firstSpec? candidates c.2.constantId with
  | some first =>
    obtain ⟨kind, -, hentry⟩ := h.found _ first hfirst
    rw [hentry] at hadd
    cases hadd
  | none =>
    rw [h.missing _ hfirst] at hadd
    refine ⟨isFirst_append hfirst, ?_⟩
    cases hkind : SpecKind.ofType c.1 c.2.ty with
    | error e' =>
      rw [hkind] at hadd
      cases hadd
      rfl
    | ok kind =>
      rw [hkind] at hadd
      cases hadd

/-- Adding candidates one by one leaves the entries of the first ones.

**Proof sketch.** Induction on the candidates that are added, with one step for each
(`HoldsFirst.addSpec`). -/
theorem HoldsFirst.foldlM {later : List (String × SpecConstant)} (h : HoldsFirst entries candidates)
    (hadd : later.foldlM ShaderModule.addSpec entries = .ok entries') :
    HoldsFirst entries' (candidates ++ later) := by
  induction later generalizing entries candidates with
  | nil =>
    cases hadd
    rwa [List.append_nil]
  | cons c later ih =>
    rw [List.foldlM_cons] at hadd
    obtain ⟨next, hnext, hrest⟩ := Result.bind_eq_ok_iff.1 hadd
    have hall := ih (h.addSpec hnext) hrest
    rwa [List.append_assoc, List.singleton_append] at hall

/-- If they cannot be added, the type of a first one has no kind.

**Proof sketch.** Induction on the candidates that are added. The one that fails is the first of its
id among those met so far (`HoldsFirst.isFirst_of_addSpec`), and no later one changes that. -/
theorem HoldsFirst.exists_isFirst {later : List (String × SpecConstant)}
    (h : HoldsFirst entries candidates)
    (hadd : later.foldlM ShaderModule.addSpec entries = .error e) :
    ∃ c, IsFirst (candidates ++ later) c ∧ SpecKind.ofType c.1 c.2.ty = .error e := by
  induction later generalizing entries candidates with
  | nil => cases hadd
  | cons c later ih =>
    rw [List.foldlM_cons] at hadd
    rw [← List.singleton_append, ← List.append_assoc]
    cases hnext : ShaderModule.addSpec entries c with
    | ok next =>
      rw [hnext] at hadd
      exact ih (h.addSpec hnext) hadd
    | error e' =>
      rw [hnext] at hadd
      cases hadd
      obtain ⟨hfirst, hkind⟩ := h.isFirst_of_addSpec hnext
      exact ⟨c, hfirst.append later, hkind⟩

/-- The candidates decide what a table holds that has the entries of the first ones.

**Proof sketch.** Under each id both tables hold the entry of its first candidate, or nothing. -/
theorem HoldsFirst.eq (h : HoldsFirst entries candidates) (h' : HoldsFirst entries' candidates) :
    entries = entries' := by
  refine Table.ext_get? fun id => ?_
  cases hfirst : firstSpec? candidates id with
  | none => rw [h.missing id hfirst, h'.missing id hfirst]
  | some c =>
    obtain ⟨kind, hkind, hentry⟩ := h.found id c hfirst
    obtain ⟨kind', hkind', hentry'⟩ := h'.found id c hfirst
    cases hkind.symm.trans hkind'
    rw [hentry, hentry']

/-- The entries of the first candidates stand in the table under their ids.

**Proof sketch.** What the table holds is made of the first candidate, and there is only one of it.
Its kind can be read off its type, and the other way round (`SpecKind.ofType_eq_ok_iff`). -/
theorem HoldsFirst.get?_eq_some_iff (h : HoldsFirst entries candidates) {entry : SpecEntry} :
    entries.get? id = some entry ↔ entry.constantId = id ∧
      ∃ c, IsFirst candidates c ∧ c.2.constantId = id ∧ entry.name = c.1 ∧
        c.2.ty = entry.kind.shaderType := by
  cases hfirst : firstSpec? candidates id with
  | none =>
    rw [h.missing id hfirst]
    refine iff_of_false (by simp) ?_
    rintro ⟨-, c, hc, hid, -⟩
    cases hfirst.symm.trans (firstSpec?_eq_some_iff.2 ⟨hc, hid⟩)
  | some first =>
    obtain ⟨kind, hkind, hentry⟩ := h.found id first hfirst
    have htype := SpecKind.ofType_eq_ok_iff.1 hkind
    obtain ⟨hfirst', hid⟩ := firstSpec?_eq_some_iff.1 hfirst
    rw [hentry]
    constructor
    · intro heq
      cases heq
      exact ⟨rfl, first, hfirst', hid, rfl, htype⟩
    · rintro ⟨rfl, c, hc, hcid, hname, hty⟩
      cases hfirst.symm.trans (firstSpec?_eq_some_iff.2 ⟨hc, hcid⟩)
      have hsame : SpecKind.ofType first.1 first.2.ty = .ok entry.kind :=
        SpecKind.ofType_eq_ok_iff.2 hty
      cases hkind.symm.trans hsame
      rw [← hname]

/-! ## The list of a module -/

variable {m : ShaderModule} {specs : List SpecEntry}

/-- The list of a module has the entries of the first candidates in the order of their ids.

**Proof sketch.** What adding the candidates leaves holds the first ones (`HoldsFirst.foldlM`). The
other way round adding them cannot fail, as the candidate at fault would have an entry, and what it
leaves is determined (`HoldsFirst.eq`). -/
theorem specializations_eq_ok_iff : m.specializations = .ok specs ↔
    ∃ entries, HoldsFirst entries m.specCandidates ∧ entries.values = specs := by
  rw [specializations, Result.map_eq_ok_iff]
  constructor
  · rintro ⟨entries, hadd, rfl⟩
    exact ⟨entries, holdsFirst_empty.foldlM hadd, rfl⟩
  · rintro ⟨entries, h, rfl⟩
    cases hadd : m.specCandidates.foldlM ShaderModule.addSpec ∅ with
    | ok entries' => exact ⟨entries', rfl, by rw [h.eq (holdsFirst_empty.foldlM hadd)]⟩
    | error e =>
      -- the first candidate at fault has an entry all the same
      obtain ⟨c, hfirst, hkind⟩ := holdsFirst_empty.exists_isFirst hadd
      obtain ⟨kind, hkind', -⟩ := h.found _ c (firstSpec?_eq_some_iff.2 ⟨hfirst, rfl⟩)
      cases hkind.symm.trans hkind'

/-- The entries of the list ascend strictly, one for each id of a candidate, and each is that of the
first candidate.

**Proof sketch.** Each entry stands under its own id, so the ids ascend with the keys, and the keys
are the ids of candidates. What stands under an id is made of its first candidate
(`HoldsFirst.get?_eq_some_iff`). -/
theorem HoldsFirst.values (h : HoldsFirst entries candidates) :
    entries.values.Pairwise (·.constantId < ·.constantId) ∧
      (∀ id, id ∈ entries.values.map (·.constantId) ↔ ∃ c ∈ candidates, c.2.constantId = id) ∧
      ∀ entry ∈ entries.values, ∃ c, IsFirst candidates c ∧ c.2.constantId = entry.constantId ∧
        entry.name = c.1 ∧ c.2.ty = entry.kind.shaderType := by
  have hkey (e : Nat × SpecEntry) (he : e ∈ entries.entries) : e.2.constantId = e.1 :=
    (h.get?_eq_some_iff.1 (Table.get?_eq_some_iff.2 he)).1
  refine ⟨?_, fun id => ?_, fun entry hentry => ?_⟩
  · refine List.pairwise_map.2 (entries.ascending.imp_of_mem fun ha hb hlt => ?_)
    rwa [hkey _ ha, hkey _ hb]
  · have hids : entries.values.map (·.constantId) = entries.keys := by
      rw [Table.values, Table.keys, List.map_map]
      exact List.map_congr_left hkey
    rw [hids, Table.mem_keys_iff, ← isSome_firstSpec?_iff]
    cases hfirst : firstSpec? candidates id with
    | none => simp [h.missing id hfirst]
    | some c =>
      obtain ⟨kind, -, hentry⟩ := h.found id c hfirst
      simp [hentry]
  · obtain ⟨key, hkey⟩ := Table.mem_values_iff.1 hentry
    obtain ⟨rfl, hfirst⟩ := h.get?_eq_some_iff.1 hkey
    exact hfirst

/-- Settable constants have different ids. -/
theorem nodup_specializations (h : m.specializations = .ok specs) :
    (specs.map (·.constantId)).Nodup := by
  obtain ⟨entries, hentries, rfl⟩ := specializations_eq_ok_iff.1 h
  exact List.pairwise_map.2 (hentries.values.1.imp fun hlt => Nat.ne_of_lt hlt)

/-- The constants with a name of their own. -/
def named (constants : List SpecConstant) : List SpecConstant :=
  constants.filter (!·.name.isEmpty)

end ShaderModule

end ShaderBindings
