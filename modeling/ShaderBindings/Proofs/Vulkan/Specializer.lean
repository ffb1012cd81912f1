import Mathlib
import ShaderBindings.Program.Build
import ShaderBindings.Proofs.Interface.Specialization
import ShaderBindings.Vulkan.Specializer
/-!
# Setting the constants of a stage

The type that is printed for a stage has room for as many entries as the stage has settable
constants, and one setter for each of them. So its entries never run out: ids are not repeated among
the constants, and all values of a constant take the same number of bytes, so that only the first
one makes an entry.

## Main definitions

* `ProgramStage.specializer` - what a stage starts with.
* `SetterCall` - a call of one of the setters of a stage.
* `Specializer.setEach` - the calls of a run.
* `lastValue?` - the value that a constant was set to last.
* `Specializer.Holds` - the state, said by the values in the order in which they were first set.

## Main results

* `overwrite_middle` - overwriting bytes with as many others.
* `Specializer.Holds.set` - what setting a constant leaves behind.
* `setEach_of_build` - setters do not fail, and the bytes of each constant are those of its last
  value.

## Implementation notes

The offset of an entry is a word, and the bytes of all values are not counted against it. Only where
these bytes are more than words can address, which takes more than `2 ^ 29` constants, an entry
points elsewhere. That the bytes of an entry are those of its value is stated for all other runs;
the rest holds of every run.
-/

set_option autoImplicit false

namespace ShaderBindings

/-! ## Settable constants -/

/-- The constants of a stage are those of a module.

**Proof sketch.** The steps of `build` are taken apart down to the module of the stage
(`ShaderModule.nodup_specializations`). -/
theorem nodup_specializations_of_build {options : Options} {modules : List ShaderModule}
    {program : Program} (h : build options modules = .ok program) {stage : ProgramStage}
    (hstage : stage ∈ program.stages) : (stage.specializations.map (·.constantId)).Nodup := by
  simp only [build, Result.bind_eq_ok_iff] at h
  obtain ⟨all, -, structs, -, vertex, -, sets, -, ranges, -, stages, hstages, heq⟩ := h
  cases heq
  obtain ⟨s, -, hs⟩ := Result.forall₂_mem_right (Result.mapM_eq_ok_iff.1 hstages) hstage
  obtain ⟨specs, hspecs, heq⟩ := Result.bind_eq_ok_iff.1 hs
  cases heq
  exact ShaderModule.nodup_specializations hspecs

/-! ## Setters -/

/-- What the printed type of a stage starts with. -/
def ProgramStage.specializer (s : ProgramStage) : Vulkan.Specializer :=
  { stage := s.stage.bit, capacity := s.specializations.length }

namespace Vulkan

/-- A call of the setter of a constant. The setter takes values of the kind of the constant, so a
call with a value of another kind cannot be written down. -/
structure SetterCall (specs : List SpecEntry) where
  spec : SpecEntry
  mem : spec ∈ specs
  value : SpecValue
  kind_eq : value.kind = spec.kind

/-- The id that the setter passes on. -/
def SetterCall.id {specs : List SpecEntry} (c : SetterCall specs) : Nat := c.spec.constantId

/-- Calls setters one after the other, until one fails. -/
def Specializer.setEach {specs : List SpecEntry} (s : Specializer)
    (calls : List (SetterCall specs)) : Except CapacityExceeded Specializer :=
  calls.foldlM (fun s c => s.set c.id c.value) s

/-- The value that a constant was set to last. Constants are known by their ids, and a constant that
was not set has none. -/
def lastValue? {specs : List SpecEntry} (calls : List (SetterCall specs)) (id : Nat) :
    Option SpecValue :=
  (calls.filter (·.id == id)).getLast?.map (·.value)

section LastValue

variable {specs : List SpecEntry} {calls : List (SetterCall specs)} {c : SetterCall specs}
  {id : Nat}

/-- One more call is the last one for its own constant, and changes nothing for others. -/
theorem lastValue?_append :
    lastValue? (calls ++ [c]) id = if c.id = id then some c.value else lastValue? calls id := by
  rw [lastValue?, List.filter_append]
  split
  · next heq => simp [heq]
  · next hne => simp [hne, lastValue?]

/-- A constant has a last value exactly if it was set. -/
theorem isSome_lastValue?_iff : (lastValue? calls id).isSome ↔ ∃ c ∈ calls, c.id = id := by
  simp [lastValue?]

end LastValue

/-! ## Values in order -/

/-- The values with the one of a constant replaced, or behind the others if there was none. -/
def assign (id : Nat) (value : SpecValue) : List (Nat × SpecValue) → List (Nat × SpecValue)
  | [] => [(id, value)]
  | p :: values => if p.1 = id then (id, value) :: values else p :: assign id value values

/-- The bytes of the values, one after the other. -/
def encode (values : List (Nat × SpecValue)) : List UInt8 := values.flatMap (·.2.bytes)

/-- The entries of values whose bytes begin at an offset. -/
def entriesFrom (offset : Nat) : List (Nat × SpecValue) → List MapEntry
  | [] => []
  | p :: values =>
    { constantId := p.1, offset := offset % Word.bound, size := p.2.bytes.length } ::
      entriesFrom (offset + p.2.bytes.length) values

section Values

variable {values front back : List (Nat × SpecValue)} {id offset : Nat} {value old : SpecValue}

/-- The first value of a constant stands behind all others. -/
theorem assign_of_notMem (h : id ∉ values.map (·.1)) :
    assign id value values = values ++ [(id, value)] := by
  induction values with
  | nil => rfl
  | cons p values ih =>
    obtain ⟨hp, hvalues⟩ := not_or.1 (mt List.mem_cons.2 h)
    rw [assign, if_neg (Ne.symm hp), ih hvalues, List.cons_append]

/-- A later value of a constant takes the place of the earlier one. -/
theorem assign_middle (h : id ∉ front.map (·.1)) :
    assign id value (front ++ (id, old) :: back) = front ++ (id, value) :: back := by
  induction front with
  | nil => simp [assign]
  | cons p front ih =>
    obtain ⟨hp, hfront⟩ := not_or.1 (mt List.mem_cons.2 h)
    rw [List.cons_append, assign, if_neg (Ne.symm hp), ih hfront, List.cons_append]

/-- Of different ids each has the value that it had, and the one that is set has the new one.

**Proof sketch.** Induction on the values. The first one is of this constant and is replaced, and
then no other one is of it, or it stays. -/
theorem mem_assign_iff {id' : Nat} {value' : SpecValue} (h : (values.map (·.1)).Nodup) :
    (id', value') ∈ assign id value values ↔
      if id = id' then value = value' else (id', value') ∈ values := by
  induction values with
  | nil =>
    by_cases hid : id = id'
    · simp [assign, hid, eq_comm]
    · simp [assign, hid, Ne.symm hid]
  | cons p values ih =>
    obtain ⟨hp, hvalues⟩ := List.nodup_cons.1 h
    rw [assign]
    by_cases hfirst : p.1 = id
    · subst hfirst
      rw [if_pos rfl, List.mem_cons, List.mem_cons]
      by_cases hid : p.1 = id'
      · subst hid
        have hlater : (p.1, value') ∉ values := fun hmem => hp (List.mem_map.2 ⟨_, hmem, rfl⟩)
        simp [hlater, eq_comm]
      · have hne : (id', value') ≠ p := fun heq => hid (congrArg Prod.fst heq).symm
        simp [hid, hne, Ne.symm hid]
    · rw [if_neg hfirst, List.mem_cons, ih hvalues, List.mem_cons]
      by_cases hid : id = id'
      · have hne : (id', value') ≠ p := fun heq => hfirst (by rw [hid, ← heq])
        simp [hid, hne]
      · simp [hid]

/-- The bytes of values one after the other. -/
@[simp] theorem encode_append : encode (front ++ back) = encode front ++ encode back := by
  simp [encode]

/-- The bytes of the first value, and those of the others. -/
@[simp] theorem encode_cons {p : Nat × SpecValue} :
    encode (p :: values) = p.2.bytes ++ encode values := by
  simp [encode]

/-- The entries of values one after the other. The second ones begin where the bytes of the first
ones end. -/
theorem entriesFrom_append : entriesFrom offset (front ++ back) =
    entriesFrom offset front ++ entriesFrom (offset + (encode front).length) back := by
  induction front generalizing offset with
  | nil => rfl
  | cons p front ih =>
    rw [List.cons_append, entriesFrom, ih, entriesFrom, encode_cons, List.length_append,
      List.cons_append, Nat.add_assoc]

/-- The entries of values have their ids. -/
theorem map_constantId_entriesFrom :
    (entriesFrom offset values).map (·.constantId) = values.map (·.1) := by
  induction values generalizing offset with
  | nil => rfl
  | cons p values ih => rw [entriesFrom, List.map_cons, List.map_cons, ih]

/-- The entry of a value has its size, and its offset if that is a word.

**Proof sketch.** Induction on the values, with the bytes of those in front added up. -/
theorem exists_mem_of_entriesFrom {e : MapEntry} (h : e ∈ entriesFrom offset values) :
    ∃ front value back, values = front ++ (e.constantId, value) :: back ∧
      e.offset = (offset + (encode front).length) % Word.bound ∧ e.size = value.bytes.length := by
  induction values generalizing offset with
  | nil => cases h
  | cons p values ih =>
    rcases List.mem_cons.1 h with rfl | h
    · exact ⟨[], p.2, values, rfl, rfl, rfl⟩
    · obtain ⟨front, value, back, rfl, hoffset, hsize⟩ := ih h
      refine ⟨p :: front, value, back, rfl, ?_, hsize⟩
      rw [hoffset, encode_cons, List.length_append, Nat.add_assoc]

/-- No entry is found for a constant that has no value.

**Proof sketch.** Entries have the ids of the values (`map_constantId_entriesFrom`). -/
theorem find?_entriesFrom_of_notMem {size : Nat} (h : id ∉ values.map (·.1)) :
    (entriesFrom offset values).find? (fun e => e.constantId == id && e.size == size) = none := by
  have hids : (entriesFrom offset values).map (·.constantId) = values.map (·.1) :=
    map_constantId_entriesFrom
  rw [← hids] at h
  rw [List.find?_eq_none]
  intro e he hfound
  have hid : e.constantId = id := by
    simp only [Bool.and_eq_true, beq_iff_eq] at hfound
    exact hfound.1
  exact h (List.mem_map.2 ⟨e, he, hid⟩)

end Values

/-- Every value has bytes. -/
theorem SpecValue.length_bytes_pos (value : SpecValue) : 0 < value.bytes.length := by
  rw [length_bytes]
  cases value.kind <;> decide

/-- No value takes more than eight bytes. -/
theorem length_encode_le (values : List (Nat × SpecValue)) :
    (encode values).length ≤ 8 * values.length := by
  induction values with
  | nil => exact Nat.le_refl _
  | cons p values ih =>
    have hsize : p.2.bytes.length ≤ 8 := by
      rw [SpecValue.length_bytes]
      cases p.2.kind <;> decide
    rw [encode_cons, List.length_append, List.length_cons]
    omega

/-- Overwriting bytes with as many others leaves those around them. -/
theorem overwrite_middle {front old bytes back : List UInt8} (h : old.length = bytes.length) :
    overwrite (front ++ old ++ back) front.length bytes = front ++ bytes ++ back := by
  rw [overwrite, ← h, ← List.length_append, List.drop_left, List.append_assoc front old,
    List.take_left]

/-- Reading bytes that stand between others. -/
theorem take_drop_middle (front bytes back : List UInt8) :
    ((front ++ bytes ++ back).drop front.length).take bytes.length = bytes := by
  rw [List.append_assoc, List.drop_left, List.take_left]

/-! ## The state of a specializer -/

namespace Specializer

/-- The specializer holds values for some of the constants. Its bytes are those of the values as
long as words can address them; their number is right in any case. -/
structure Holds (s : Specializer) (specs : List SpecEntry) (values : List (Nat × SpecValue)) :
    Prop where
  capacity_eq : s.capacity = specs.length
  entries_eq : s.entries = entriesFrom 0 values
  length_eq : s.data.length = (encode values).length
  data_eq : s.data.length ≤ Word.bound → s.data = encode values
  nodup : (values.map (·.1)).Nodup
  known : ∀ p ∈ values, ∃ spec ∈ specs, spec.constantId = p.1 ∧ p.2.kind = spec.kind

variable {s : Specializer} {specs : List SpecEntry} {values front back : List (Nat × SpecValue)}
  {spec : SpecEntry} {value old : SpecValue}

/-- At first no value is held, and there is room for all constants. -/
theorem holds_empty {stage : Nat} :
    Holds { stage, capacity := specs.length } specs [] where
  capacity_eq := rfl
  entries_eq := rfl
  length_eq := rfl
  data_eq _ := rfl
  nodup := .nil
  known _ h := by cases h

/-- Values are held for constants only. -/
theorem Holds.ids_subset (h : s.Holds specs values) :
    values.map (·.1) ⊆ specs.map (·.constantId) := by
  intro id hid
  obtain ⟨p, hp, rfl⟩ := List.mem_map.1 hid
  obtain ⟨spec, hspec, heq, -⟩ := h.known p hp
  exact List.mem_map.2 ⟨spec, hspec, heq⟩

/-- The values of all constants take at most 8 bytes each. -/
theorem Holds.length_data_le (h : s.Holds specs values) : s.data.length ≤ 8 * specs.length := by
  have hle := (h.nodup.subperm h.ids_subset).length_le
  have hbytes := length_encode_le values
  rw [List.length_map, List.length_map] at hle
  rw [h.length_eq]
  omega

/-- A constant that has no value yet leaves room for one more entry.

**Proof sketch.** Its id and those of the values are different ids of constants. -/
theorem Holds.length_lt (h : s.Holds specs values) (hspec : spec ∈ specs)
    (hnew : spec.constantId ∉ values.map (·.1)) : s.entries.length < s.capacity := by
  have hsub : (spec.constantId :: values.map (·.1)) ⊆ specs.map (·.constantId) :=
    List.cons_subset.2 ⟨List.mem_map_of_mem hspec, h.ids_subset⟩
  have hnodup : (spec.constantId :: values.map (·.1)).Nodup := List.nodup_cons.2 ⟨hnew, h.nodup⟩
  have hle := (hnodup.subperm hsub).length_le
  have hlength : s.entries.length = values.length := by
    rw [h.entries_eq, ← List.length_map (·.constantId), map_constantId_entriesFrom,
      List.length_map]
  rw [List.length_cons, List.length_map, List.length_map] at hle
  rw [h.capacity_eq, hlength]
  exact hle

/-- The first value of a constant stands behind all others.

**Proof sketch.** No entry is found (`find?_entriesFrom_of_notMem`), and there is room, since a
constant without a value is left (`Holds.length_lt`). -/
theorem Holds.set_new (h : s.Holds specs values) (hspec : spec ∈ specs)
    (hkind : value.kind = spec.kind) (hnew : spec.constantId ∉ values.map (·.1)) :
    ∃ s', s.set spec.constantId value = .ok s' ∧
      s'.Holds specs (values ++ [(spec.constantId, value)]) := by
  have hnone : s.entry? spec.constantId value.bytes.length = none := by
    unfold entry?
    rw [h.entries_eq]
    exact find?_entriesFrom_of_notMem hnew
  have hroom := h.length_lt hspec hnew
  refine ⟨_, by rw [Specializer.set, setBytes, hnone]; exact if_neg (by omega), ?_⟩
  refine ⟨h.capacity_eq, ?_, ?_, fun hle => ?_, ?_, ?_⟩
  · rw [h.entries_eq, entriesFrom_append, h.length_eq, Nat.zero_add]
    rfl
  · simp [h.length_eq, encode]
  · have hdata : s.data = encode values := h.data_eq (by
      rw [List.length_append] at hle
      omega)
    simp [hdata, encode]
  · rw [List.map_append, List.nodup_append]
    refine ⟨h.nodup, by simp, fun id hid new hmem heq => ?_⟩
    cases List.mem_singleton.1 hmem
    rw [heq] at hid
    exact hnew hid
  · intro p hp
    rcases List.mem_append.1 hp with hp | hp
    · exact h.known p hp
    · cases List.mem_singleton.1 hp
      exact ⟨spec, hspec, rfl, hkind⟩

/-- The value of a constant stands behind values of others. -/
theorem Holds.notMem_front {id : Nat} (h : s.Holds specs (front ++ (id, old) :: back)) :
    id ∉ front.map (·.1) := by
  have hnodup := h.nodup
  rw [List.map_append, List.map_cons, List.nodup_append] at hnodup
  exact fun hmem => hnodup.2.2 _ hmem _ List.mem_cons_self rfl

/-- A later value of a constant takes the place of the earlier one.

**Proof sketch.** The earlier value is of the same kind, as the constant has one kind, so it has as
many bytes. The entry that is found is the one that addresses them, and they are overwritten
(`overwrite_middle`). -/
theorem Holds.set_again (hids : (specs.map (·.constantId)).Nodup)
    (h : s.Holds specs (front ++ (spec.constantId, old) :: back)) (hspec : spec ∈ specs)
    (hkind : value.kind = spec.kind) :
    ∃ s', s.set spec.constantId value = .ok s' ∧
      s'.Holds specs (front ++ (spec.constantId, value) :: back) := by
  have hold : old.bytes.length = value.bytes.length := by
    obtain ⟨spec', hspec', hid, hkind'⟩ := h.known (spec.constantId, old) (by simp)
    have heq : spec' = spec := List.inj_on_of_nodup_map hids hspec' hspec hid
    rw [SpecValue.length_bytes, SpecValue.length_bytes, hkind, hkind', heq]
  have hlength : s.data.length =
      (encode front).length + (value.bytes.length + (encode back).length) := by
    rw [h.length_eq, encode_append, encode_cons, List.length_append, List.length_append, hold]
  have hfound : s.entry? spec.constantId value.bytes.length =
      some { constantId := spec.constantId, offset := (encode front).length % Word.bound,
             size := old.bytes.length } := by
    unfold entry?
    rw [h.entries_eq, entriesFrom_append, List.find?_append,
      find?_entriesFrom_of_notMem h.notMem_front, Nat.zero_add]
    simp [entriesFrom, hold]
  refine ⟨_, by rw [Specializer.set, setBytes, hfound], ?_⟩
  have hle : (encode front).length % Word.bound ≤ (encode front).length := Nat.mod_le _ _
  have hkept : (overwrite s.data ((encode front).length % Word.bound) value.bytes).length =
      s.data.length :=
    length_overwrite (by omega)
  refine ⟨h.capacity_eq, ?_, ?_, fun hbound => ?_, ?_, ?_⟩
  · rw [h.entries_eq, entriesFrom_append, entriesFrom_append, entriesFrom, entriesFrom, hold]
  · rw [hkept, h.length_eq]
    simp [hold]
  · replace hbound : s.data.length ≤ Word.bound := hkept ▸ hbound
    -- a value has bytes, so they begin where words still address
    have hpos := value.length_bytes_pos
    have hoffset : (encode front).length % Word.bound = (encode front).length :=
      Nat.mod_eq_of_lt (by omega)
    rw [hoffset, h.data_eq hbound, encode_append, encode_append, encode_cons, encode_cons,
      ← List.append_assoc, overwrite_middle hold, List.append_assoc]
  · simpa using h.nodup
  · intro p hp
    rcases List.mem_append.1 hp with hp | hp
    · exact h.known p (List.mem_append_left _ hp)
    · rcases List.mem_cons.1 hp with rfl | hp
      · exact ⟨spec, hspec, rfl, hkind⟩
      · exact h.known p (by simp [hp])

/-- Setting a constant does not fail, and changes the value of this constant.

**Proof sketch.** The constant has a value (`Holds.set_again`) or none (`Holds.set_new`). -/
theorem Holds.set (hids : (specs.map (·.constantId)).Nodup) (h : s.Holds specs values)
    (hspec : spec ∈ specs) (hkind : value.kind = spec.kind) :
    ∃ s', s.set spec.constantId value = .ok s' ∧
      s'.Holds specs (assign spec.constantId value values) := by
  by_cases hmem : spec.constantId ∈ values.map (·.1)
  · obtain ⟨p, hp, hid⟩ := List.mem_map.1 hmem
    obtain ⟨id, old⟩ := p
    cases hid
    obtain ⟨front, back, rfl⟩ := List.append_of_mem hp
    rw [assign_middle h.notMem_front]
    exact h.set_again hids hspec hkind
  · rw [assign_of_notMem hmem]
    exact h.set_new hspec hkind hmem

/-- A run of setters does not fail, and leaves the last value of each constant.

**Proof sketch.** Induction on the calls from the back, with the last call by `Holds.set`. -/
theorem exists_holds_setEach (hids : (specs.map (·.constantId)).Nodup) (stage : Nat)
    (calls : List (SetterCall specs)) :
    ∃ s values, setEach { stage, capacity := specs.length } calls = .ok s ∧
      s.Holds specs values ∧
      ∀ id value, (id, value) ∈ values ↔ lastValue? calls id = some value := by
  induction calls using List.reverseRecOn with
  | nil => exact ⟨_, [], rfl, holds_empty, by simp [lastValue?]⟩
  | append_singleton calls c ih =>
    obtain ⟨s, values, hs, hholds, hlast⟩ := ih
    obtain ⟨s', hset, hholds'⟩ := hholds.set hids c.mem c.kind_eq
    refine ⟨s', _, ?_, hholds', fun id value => ?_⟩
    · rw [setEach, List.foldlM_append, Result.bind_eq_ok_iff]
      exact ⟨s, hs, by rw [List.foldlM_cons, SetterCall.id, hset]; rfl⟩
    · rw [mem_assign_iff hholds.nodup, lastValue?_append, hlast]
      show (if c.id = id then _ else _) ↔ _
      split
      · simp
      · rfl

/-- As long as words can address all bytes, an entry addresses those of the value.

**Proof sketch.** The entry belongs to a value and begins where the bytes of those in front end
(`exists_mem_of_entriesFrom`). A value has bytes, so this is a word and nothing is lost of it. -/
theorem Holds.exists_value (h : s.Holds specs values) (hbound : s.data.length ≤ Word.bound)
    {e : MapEntry} (he : e ∈ s.entries) :
    ∃ value, (e.constantId, value) ∈ values ∧ e.size = valueSize value.kind ∧
      e.offset + e.size ≤ s.data.length ∧
      (s.data.drop e.offset).take e.size = value.bytes := by
  rw [h.entries_eq] at he
  obtain ⟨front, value, back, rfl, hoffset, hsize⟩ := exists_mem_of_entriesFrom he
  have hlength : s.data.length =
      (encode front).length + (value.bytes.length + (encode back).length) := by
    rw [h.length_eq, encode_append, encode_cons, List.length_append, List.length_append]
  have hpos := value.length_bytes_pos
  rw [Nat.zero_add, Nat.mod_eq_of_lt (by omega)] at hoffset
  refine ⟨value, by simp, hsize.trans value.length_bytes, by omega, ?_⟩
  rw [h.data_eq hbound, hoffset, hsize, encode_append, encode_cons, ← List.append_assoc]
  exact take_drop_middle _ _ _

end Specializer

/-- The setters of a stage of any program never fail. After a run of them the entries are those of
the constants that were set, one for each, and no constant takes more than 8 bytes. As long as words
can address all bytes, each entry addresses the bytes of the last value of its constant, lowest byte
first.

**Proof sketch.** The ids of the constants differ (`nodup_specializations_of_build`), so after any
run the invariant holds for the last values (`Specializer.exists_holds_setEach`). Entries have the
ids of the values, and their bytes are read by `Holds.exists_value`. -/
theorem setEach_of_build {options : Options} {modules : List ShaderModule} {program : Program}
    (h : build options modules = .ok program) {stage : ProgramStage}
    (hstage : stage ∈ program.stages) (calls : List (SetterCall stage.specializations)) :
    ∃ s, stage.specializer.setEach calls = .ok s ∧
      (s.entries.map (·.constantId)).Nodup ∧
      (∀ id, id ∈ s.entries.map (·.constantId) ↔ ∃ c ∈ calls, c.id = id) ∧
      s.data.length ≤ 8 * stage.specializations.length ∧
      (s.data.length ≤ Word.bound → ∀ e ∈ s.entries, ∃ value,
        lastValue? calls e.constantId = some value ∧ e.size = valueSize value.kind ∧
          e.offset + e.size ≤ s.data.length ∧
          (s.data.drop e.offset).take e.size = value.bytes) := by
  have hids := nodup_specializations_of_build h hstage
  obtain ⟨s, values, hs, hholds, hlast⟩ :=
    Specializer.exists_holds_setEach hids stage.stage.bit calls
  have hentries : s.entries.map (·.constantId) = values.map (·.1) := by
    rw [hholds.entries_eq, map_constantId_entriesFrom]
  refine ⟨s, hs, hentries ▸ hholds.nodup, fun id => ?_, hholds.length_data_le,
    fun hbound e he => ?_⟩
  · rw [hentries, ← isSome_lastValue?_iff, Option.isSome_iff_exists, List.mem_map]
    constructor
    · rintro ⟨p, hp, rfl⟩
      exact ⟨p.2, (hlast _ _).1 hp⟩
    · rintro ⟨value, hvalue⟩
      exact ⟨(id, value), (hlast _ _).2 hvalue, rfl⟩
  · obtain ⟨value, hvalue, hbytes⟩ := hholds.exists_value hbound he
    exact ⟨value, (hlast _ _).1 hvalue, hbytes⟩

/-- Where a stage has at most `2 ^ 29` settable constants, nothing has to be said about the bytes:
after any run of setters each entry addresses the bytes of the last value of its constant.

**Proof sketch.** No constant takes more than 8 bytes (`Specializer.Holds.length_data_le`), so words
can address all bytes, and then every entry addresses those of the value that the state holds for it
(`Specializer.Holds.exists_value`). -/
theorem exists_bytes_setEach {options : Options} {modules : List ShaderModule} {program : Program}
    (h : build options modules = .ok program) {stage : ProgramStage}
    (hstage : stage ∈ program.stages) (hfew : stage.specializations.length ≤ 0x20000000)
    (calls : List (SetterCall stage.specializations)) :
    ∃ s, stage.specializer.setEach calls = .ok s ∧ ∀ e ∈ s.entries, ∃ value,
      lastValue? calls e.constantId = some value ∧ e.size = valueSize value.kind ∧
        e.offset + e.size ≤ s.data.length ∧
        (s.data.drop e.offset).take e.size = value.bytes := by
  obtain ⟨s, values, hs, hholds, hlast⟩ := Specializer.exists_holds_setEach
    (nodup_specializations_of_build h hstage) stage.stage.bit calls
  have hbound : s.data.length ≤ Word.bound := by
    have hsize := hholds.length_data_le
    unfold Word.bound
    omega
  refine ⟨s, hs, fun e he => ?_⟩
  obtain ⟨value, hvalue, hbytes⟩ := hholds.exists_value hbound he
  exact ⟨value, (hlast _ _).1 hvalue, hbytes⟩

/-- A compute stage with a named constant of its own, one without a name, and one that gives the
width of a work group. -/
def tunableModule : ShaderModule where
  entry := some { name := "main", model := "GLCompute", stage := some .compute }
  specConstants :=
    [{ constantId := 4, name := "scale", ty := { base := .float 64 } },
     { constantId := 2, ty := .int32 }]
  workGroupSize := { x := some { constantId := 1, ty := .uint32 } }

/-- What is printed of the stage. -/
def tunableStage : ProgramStage where
  ident := "comp"
  stage := .compute
  entry := "main"
  specializations :=
    [{ constantId := 1, name := "WorkGroupSizeX", kind := .u32 },
     { constantId := 4, name := "scale", kind := .f64 }]
  code := []

/-- The scale is set, then the width, then the scale again. -/
def tuningCalls : List (SetterCall tunableStage.specializations) :=
  let scale (bits : UInt64) : SetterCall tunableStage.specializations :=
    { spec := { constantId := 4, name := "scale", kind := .f64 }, mem := by decide
      value := .f64 bits, kind_eq := rfl }
  [scale 0x3ff0000000000000,
   { spec := { constantId := 1, name := "WorkGroupSizeX", kind := .u32 }, mem := by decide
     value := .u32 64, kind_eq := rfl },
   scale 0x4000000000000000]

/-- After the run both constants have entries, and that of the scale addresses its second value.

The number two, with its lowest byte first. -/
theorem setEach_tuningCalls :
    ∃ program, build {} [tunableModule] = .ok program ∧ tunableStage ∈ program.stages ∧
      ∃ s, tunableStage.specializer.setEach tuningCalls = .ok s ∧ s.data.length ≤ Word.bound ∧
        ∃ e ∈ s.entries, e.constantId = 4 ∧
          (s.data.drop e.offset).take e.size = [0, 0, 0, 0, 0, 0, 0, 64] := by
  have hbuild : (build {} [tunableModule]).map (·.stages) = .ok [tunableStage] := by cbv
  obtain ⟨program, hprogram, hstages⟩ := Result.map_eq_ok_iff.1 hbuild
  have hstage : tunableStage ∈ program.stages := by simp [hstages]
  obtain ⟨s, hs, -, hids, hsize, hbytes⟩ := setEach_of_build hprogram hstage tuningCalls
  have hbound : s.data.length ≤ Word.bound := Nat.le_trans hsize (by decide)
  refine ⟨program, hprogram, hstage, s, hs, hbound, ?_⟩
  obtain ⟨e, he, hid⟩ := List.mem_map.1 ((hids 4).2 (by decide))
  obtain ⟨value, hvalue, -, -, hread⟩ := hbytes hbound e he
  refine ⟨e, he, hid, ?_⟩
  rw [hid] at hvalue
  have hlast : lastValue? tuningCalls 4 = some (.f64 0x4000000000000000) := by decide
  rw [hlast] at hvalue
  cases hvalue
  rw [hread]
  decide

end Vulkan

end ShaderBindings
