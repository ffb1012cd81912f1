import ShaderBindings.Proofs.Consecutive
import ShaderBindings.Proofs.Vulkan.Slots
/-!
# How specialization data is packed

Values set again are overwritten where they stand, and all others are put behind the last one, in
the same bytes. So entries never move and leave no gap, a call touches the bytes of one entry only,
and a call that finds no room touches none.

## Main definitions

* `lastIn?` - the last assignment to a slot.
* `Specializer.Writes` - a call changes the bytes of one entry, and no others.

## Main results

* `getElem?_overwrite` - bytes outside the overwritten ones stay.
* `Specializer.setBytes_eq_error_iff` - when a call fails.
* `Specializer.Stores.exists_writes` - what a call that succeeds does.
* `Specializer.run_packed` - entries and bytes after any calls.

## Implementation notes

The setter of a value hands its bytes on, so its calls are those of `Assignment.ofValue`. Calls with
any other bytes are covered as well, and so are calls without bytes, which still take an entry.
-/

set_option autoImplicit false

namespace ShaderBindings.Vulkan

/-- The last assignment to a slot. Assignments to the same constant with another number of bytes
belong to another slot. -/
def lastIn? (done : List Assignment) (key : Nat × Nat) : Option Assignment :=
  (done.filter (·.key == key)).getLast?

/-! ## Bytes -/

section Bytes

variable {data bytes : List UInt8} {offset : Nat}

/-- Bytes outside the overwritten ones stay.

**Proof sketch.** The bytes in front and those behind are taken over, and the new bytes are as many
as the old ones. -/
theorem getElem?_overwrite (h : offset + bytes.length ≤ data.length) {k : Nat}
    (hk : k < offset ∨ offset + bytes.length ≤ k) :
    (overwrite data offset bytes)[k]? = data[k]? := by
  have hfront : (data.take offset).length = offset := List.length_take_of_le (by omega)
  rw [overwrite, List.append_assoc]
  rcases hk with hk | hk
  · rw [List.getElem?_append_left (by omega), List.getElem?_take_of_lt hk]
  · rw [List.getElem?_append_right (by omega), hfront, List.getElem?_append_right (by omega),
      List.getElem?_drop]
    congr 1
    omega

/-- The overwritten bytes are the new ones. -/
theorem take_drop_overwrite (h : offset + bytes.length ≤ data.length) :
    ((overwrite data offset bytes).drop offset).take bytes.length = bytes := by
  have hfront : (data.take offset).length = offset := List.length_take_of_le (by omega)
  have hmiddle := take_drop_middle (data.take offset) bytes (data.drop (offset + bytes.length))
  rwa [hfront] at hmiddle

/-- The entries of slots leave no gap, as long as words can address all bytes.

**Proof sketch.** Induction on the slots. Offsets are words here, so that nothing is lost of
them. -/
theorem consecutive_entriesAt {slots : List Assignment}
    (h : offset + (bytesOf slots).length < Word.bound) :
    Consecutive offset ((entriesAt offset slots).map fun e => (e.offset, e.size))
      (offset + (bytesOf slots).length) := by
  induction slots generalizing offset with
  | nil => rfl
  | cons a slots ih =>
    rw [bytesOf_cons, List.length_append, ← Nat.add_assoc] at h ⊢
    exact ⟨Nat.mod_eq_of_lt (by omega), ih h⟩

end Bytes

namespace Specializer

variable {s s' : Specializer} {slots calls done : List Assignment} {a : Assignment}

/-! ## One call -/

/-- There is no entry for a slot if none of the entries is of it. -/
theorem entry?_eq_none_iff :
    s.entry? a.id a.bytes.length = none ↔ ∀ e ∈ s.entries, e.key ≠ a.key := by
  rw [entry?_eq_find?, List.find?_eq_none]
  simp only [beq_iff_eq, ne_eq, Assignment.key]

/-- The entry that is found for a slot is one of the entries, and it is of this slot. -/
theorem key_of_entry?_eq_some {e : MapEntry} (h : s.entry? a.id a.bytes.length = some e) :
    e ∈ s.entries ∧ e.key = a.key := by
  rw [entry?_eq_find?] at h
  have hkey := List.find?_some h
  exact ⟨List.mem_of_find?_eq_some h, beq_iff_eq.1 hkey⟩

/-- A call fails if it needs a new entry and there is no room for it.

**Proof sketch.** If there is an entry its bytes are overwritten, which cannot fail, and else the
number of entries is compared with the room for them. -/
theorem setBytes_eq_error_iff {err : CapacityExceeded} :
    s.setBytes a.id a.bytes = .error err ↔
      (∀ e ∈ s.entries, e.key ≠ a.key) ∧ s.capacity ≤ s.entries.length ∧
        err = { capacity := s.capacity } := by
  rw [← entry?_eq_none_iff, setBytes]
  cases hentry : s.entry? a.id a.bytes.length with
  | some e => simp
  | none =>
    by_cases hfull : s.capacity ≤ s.entries.length
    · simp [hfull, eq_comm]
    · simp [hfull]

/-- A call that succeeds overwrites the bytes of an entry or adds an entry behind all others.

**Proof sketch.** By the same cases as `setBytes_eq_error_iff`. -/
theorem setBytes_eq_ok_iff :
    s.setBytes a.id a.bytes = .ok s' ↔
      (∃ e, s.entry? a.id a.bytes.length = some e ∧
        s' = { s with data := overwrite s.data e.offset a.bytes }) ∨
      (s.entry? a.id a.bytes.length = none ∧ s.entries.length < s.capacity ∧
        s' = { s with
          entries := s.entries ++ [{ constantId := a.id, offset := s.data.length % Word.bound,
                                     size := a.bytes.length }]
          data := s.data ++ a.bytes }) := by
  rw [setBytes]
  cases hentry : s.entry? a.id a.bytes.length with
  | some e => simp [eq_comm]
  | none =>
    by_cases hfull : s.capacity ≤ s.entries.length
    · simp [hfull]
    · simp [hfull, Nat.lt_of_not_le hfull, eq_comm]

/-- A call sets an entry: it is there then and has the new bytes, the entries before are still
there, and all other bytes are what they were. -/
structure Writes (s : Specializer) (a : Assignment) (e : MapEntry) (s' : Specializer) : Prop where
  key : e.key = a.key
  mem : e ∈ s'.entries
  read : (s'.data.drop e.offset).take e.size = a.bytes
  kept : s.entries <+: s'.entries
  outside : ∀ k, k < e.offset ∨ e.offset + e.size ≤ k → s'.data[k]? = s.data[k]?

/-- A call that succeeds sets an entry.

**Proof sketch.** By the two ways to succeed (`setBytes_eq_ok_iff`). An entry that is found lies
within the data (`Stores.read`), so its bytes are the new ones (`take_drop_overwrite`) and all
others stay (`getElem?_overwrite`). A new entry has the bytes behind all others. -/
theorem Stores.exists_writes (h : s.Stores slots) (hbound : s.data.length < Word.bound)
    (hset : s.setBytes a.id a.bytes = .ok s') : ∃ e, s.Writes a e s' := by
  rcases setBytes_eq_ok_iff.1 hset with ⟨e, hentry, rfl⟩ | ⟨-, -, rfl⟩
  · obtain ⟨hmem, hkey⟩ := key_of_entry?_eq_some hentry
    have hsize : e.size = a.bytes.length := (Prod.mk.inj hkey).2
    obtain ⟨-, -, -, hend, -⟩ := h.read (Nat.le_of_lt hbound) hmem
    rw [hsize] at hend
    refine ⟨e, hkey, hmem, ?_, List.prefix_refl _, fun k hk => ?_⟩
    · rw [hsize]
      exact take_drop_overwrite hend
    · exact getElem?_overwrite hend (hsize ▸ hk)
  · refine ⟨_, rfl, List.mem_append_right _ List.mem_cons_self, ?_, List.prefix_append _ _,
      fun k hk => ?_⟩
    · change ((s.data ++ a.bytes).drop (s.data.length % Word.bound)).take a.bytes.length = a.bytes
      rw [Nat.mod_eq_of_lt hbound, List.drop_left, List.take_length]
    · replace hk : k < s.data.length ∨ s.data.length + a.bytes.length ≤ k := by
        simpa only [Nat.mod_eq_of_lt hbound] using hk
      rcases hk with hk | hk
      · exact List.getElem?_append_left hk
      · -- the new bytes are the last ones, before and after
        change (s.data ++ a.bytes)[k]? = s.data[k]?
        rw [List.getElem?_eq_none (by simpa using hk), List.getElem?_eq_none (by omega)]

/-! ## Runs -/

/-- The calls after others start from what those leave behind.

**Proof sketch.** Induction on the first calls, whether each of them succeeds or not. -/
theorem run_append (s : Specializer) (calls calls' : List Assignment) :
    s.run (calls ++ calls') =
      ((s.run calls).1 ++ ((s.run calls).2.run calls').1, ((s.run calls).2.run calls').2) := by
  induction calls generalizing s with
  | nil => rfl
  | cons a calls ih =>
    rw [List.cons_append, run, run]
    cases s.setBytes a.id a.bytes with
    | error err => exact ih s
    | ok s₁ =>
      change (a :: (s₁.run (calls ++ calls')).1, (s₁.run (calls ++ calls')).2) = _
      rw [ih s₁]
      rfl

/-- A call takes an entry only if there is room for it.

**Proof sketch.** By the two ways to succeed (`setBytes_eq_ok_iff`). -/
theorem length_le_of_setBytes (h : s.entries.length ≤ s.capacity)
    (hset : s.setBytes a.id a.bytes = .ok s') :
    s'.capacity = s.capacity ∧ s'.entries.length ≤ s'.capacity := by
  rcases setBytes_eq_ok_iff.1 hset with ⟨e, -, rfl⟩ | ⟨-, hlt, rfl⟩
  · exact ⟨rfl, h⟩
  · refine ⟨rfl, ?_⟩
    rw [List.length_append]
    exact hlt

/-- Calls never take more entries than there is room for, nor change how much room there is.

**Proof sketch.** Induction on the calls (`length_le_of_setBytes`). A call that fails changes
nothing. -/
theorem length_le_of_run (h : s.entries.length ≤ s.capacity) (hrun : s.run calls = (done, s')) :
    s'.capacity = s.capacity ∧ s'.entries.length ≤ s'.capacity := by
  induction calls generalizing s done with
  | nil =>
    cases hrun
    exact ⟨rfl, h⟩
  | cons a calls ih =>
    rw [run] at hrun
    cases hset : s.setBytes a.id a.bytes with
    | error err =>
      rw [hset] at hrun
      exact ih h hrun
    | ok s₁ =>
      cases hrest : s₁.run calls with
      | mk done₁ s₂ =>
        simp only [hset, hrest] at hrun
        cases hrun
        obtain ⟨hcapacity, hle⟩ := length_le_of_setBytes h hset
        obtain ⟨hcapacity', hle'⟩ := ih hle hrest
        exact ⟨hcapacity'.trans hcapacity, hle'⟩

/-- **How specialization data is packed.** After any calls whose bytes can be addressed by words,
there are at most as many entries as there is room for, and they follow one another without a gap. A
further call fails exactly if there is neither an entry for its slot nor room for a new one, and
then it changes nothing; otherwise it sets the bytes of one entry and leaves all others, and all
earlier entries. The bytes of an entry are those of the last successful call for its slot.

**Proof sketch.** A run leaves the slots of the calls that succeed (`Stores.run`) and takes no more
entries than there is room for (`length_le_of_run`). Entries then leave no gap
(`consecutive_entriesAt`), and each addresses the bytes of its slot (`Stores.read`), which are the
last ones (`mem_slotsOf_iff`). What a further call does is `setBytes_eq_error_iff` and
`Stores.exists_writes`. -/
theorem run_packed {stage capacity : Nat} {calls done : List Assignment} {s : Specializer}
    (h : Specializer.run { stage, capacity } calls = (done, s))
    (hbound : s.data.length < Word.bound) :
    s.entries.length ≤ capacity ∧
    Consecutive 0 (s.entries.map fun e => (e.offset, e.size)) s.data.length ∧
    (∀ a : Assignment,
      ((∃ err, s.setBytes a.id a.bytes = .error err) ↔
        (∀ e ∈ s.entries, e.key ≠ a.key) ∧ s.entries.length = capacity) ∧
      (∀ err, s.setBytes a.id a.bytes = .error err → err = { capacity } ∧
        Specializer.run { stage, capacity } (calls ++ [a]) = (done, s)) ∧
      ∀ s', s.setBytes a.id a.bytes = .ok s' →
        Specializer.run { stage, capacity } (calls ++ [a]) = (done ++ [a], s') ∧
          ∃ e, s.Writes a e s') ∧
    ∀ e ∈ s.entries, ∃ a, lastIn? done e.key = some a ∧
      e.offset + e.size ≤ s.data.length ∧ (s.data.drop e.offset).take e.size = a.bytes := by
  have hstores : s.Stores (slotsOf done) := stores_empty.run h
  have hroom : s.capacity = capacity ∧ s.entries.length ≤ s.capacity :=
    length_le_of_run (Nat.zero_le _) h
  obtain ⟨hcapacity, hle⟩ := hroom
  refine ⟨hcapacity ▸ hle, ?_, fun a => ⟨?_, fun err herr => ?_, fun s' hset => ?_⟩,
    fun e he => ?_⟩
  · rw [hstores.length_eq] at hbound ⊢
    rw [hstores.entries_eq]
    have hpieces : Consecutive 0 _ (0 + (bytesOf (slotsOf done)).length) :=
      consecutive_entriesAt (by rwa [Nat.zero_add])
    rwa [Nat.zero_add] at hpieces
  · simp only [setBytes_eq_error_iff, exists_and_left, exists_eq, and_true, ← hcapacity]
    exact and_congr_right fun _ => ⟨Nat.le_antisymm hle, fun h => Nat.le_of_eq h.symm⟩
  · have hsame := (setBytes_eq_error_iff.1 herr).2.2
    refine ⟨hcapacity ▸ hsame, ?_⟩
    rw [run_append, h]
    simp [run, herr]
  · refine ⟨?_, hstores.exists_writes hbound hset⟩
    rw [run_append, h]
    simp [run, hset]
  · obtain ⟨a, ha, hkey, hend, hread⟩ := hstores.read (Nat.le_of_lt hbound) he
    exact ⟨a, by rw [lastIn?, hkey, mem_slotsOf_iff.1 ha], hend, hread⟩

/-- Two constants in all the room there is, the second one of no bytes; a third one that is refused;
and the first one again. -/
def crowdedCalls : List Assignment :=
  [.ofValue 4 (.u32 7), { id := 1, bytes := [] }, .ofValue 9 (.bool true),
   .ofValue 4 (.f32 0x3f800000)]

/-- The two entries take up the four bytes of the first constant, which are those of its second
value, and a fourth constant is refused as well. -/
theorem run_packed_crowdedCalls :
    ∃ done s, Specializer.run { stage := 32, capacity := 2 } crowdedCalls = (done, s) ∧
      s.data.length < Word.bound ∧ s.entries.length ≤ 2 ∧
      Consecutive 0 (s.entries.map fun e => (e.offset, e.size)) 4 ∧
      (∃ err, s.setBytes 5 [1] = .error err) ∧
      ∃ e ∈ s.entries, (s.data.drop e.offset).take e.size = [0, 0, 128, 63] := by
  cases hrun : Specializer.run { stage := 32, capacity := 2 } crowdedCalls with
  | mk done s =>
    have hdone : (Specializer.run { stage := 32, capacity := 2 } crowdedCalls).1 = done := by
      rw [hrun]
    have hs : (Specializer.run { stage := 32, capacity := 2 } crowdedCalls).2 = s := by
      rw [hrun]
    have hlength : s.data.length = 4 := hs ▸ by decide
    have hbound : s.data.length < Word.bound := hs ▸ by decide
    obtain ⟨hroom, hpieces, hcall, hread⟩ := run_packed hrun hbound
    refine ⟨done, s, rfl, hbound, hroom, hlength ▸ hpieces, ?_, ?_⟩
    · exact (hcall { id := 5, bytes := [1] }).1.2 (hs ▸ by decide)
    · have hmem : { constantId := 4, offset := 0, size := 4 } ∈ s.entries := hs ▸ by decide
      obtain ⟨a, ha, -, hbytes⟩ := hread _ hmem
      have hlast : lastIn? done (4, 4) = some (.ofValue 4 (.f32 0x3f800000)) := hdone ▸ by decide
      cases hlast.symm.trans ha
      exact ⟨_, hmem, hbytes⟩

end Specializer

end ShaderBindings.Vulkan
