import Mathlib
import ShaderBindings.Proofs.Result
import ShaderBindings.Proofs.Vulkan.Specializer
/-!
# The slots of a specializer

A specializer is handed ids and bytes, and need not be told what constants there are. It keeps the
bytes of each id in a slot for as many bytes as were set, so a constant that is set to values of two
lengths takes two slots, and its id stands in two entries.

## Main definitions

* `Assignment` - an id with the bytes it is set to, and its slot `Assignment.key`.
* `Specializer.run` - calls of any setters, and those of them that succeed.
* `Specializer.Stores` - the state, said by the last assignment to each slot.

## Main results

* `Specializer.Stores.setBytes` - what a call leaves behind.
* `mem_slotsOf_iff` - a slot keeps the last assignment to it.
* `Specializer.run_overwrites` - ids are not repeated exactly if every constant is set to values of
  one length, and then its entry addresses the last value.

## Implementation notes

As in the runs of printed setters, the offset of an entry is a word, and that an entry addresses the
bytes of its slot is stated for data that words can address.
-/

set_option autoImplicit false

namespace ShaderBindings.Vulkan

/-- A constant is set to some bytes. -/
structure Assignment where
  id : Nat
  bytes : List UInt8
deriving DecidableEq

namespace Assignment

/-- The constant is set to a value. -/
def ofValue (id : Nat) (value : SpecValue) : Assignment := { id, bytes := value.bytes }

/-- The slot of the bytes: the id and the number of bytes. -/
def key (a : Assignment) : Nat × Nat := (a.id, a.bytes.length)

end Assignment

/-- The slot that an entry describes. -/
def MapEntry.key (e : MapEntry) : Nat × Nat := (e.constantId, e.size)

/-! ## Slots in order -/

/-- The slots with the bytes of one replaced, or a new slot behind the others. It is what setting a
constant does to the bytes, without the offsets. -/
def put (a : Assignment) : List Assignment → List Assignment
  | [] => [a]
  | b :: slots => if b.key = a.key then a :: slots else b :: put a slots

/-- The slots after assignments, in the order in which they were first used. A slot that is used
again keeps its place. -/
def slotsOf (done : List Assignment) : List Assignment :=
  done.foldl (fun slots a => put a slots) []

/-- The bytes of all slots, one after the other. -/
def bytesOf (slots : List Assignment) : List UInt8 := slots.flatMap (·.bytes)

/-- The entries of slots whose bytes begin at an offset. -/
def entriesAt (offset : Nat) : List Assignment → List MapEntry
  | [] => []
  | a :: slots =>
    { constantId := a.id, offset := offset % Word.bound, size := a.bytes.length } ::
      entriesAt (offset + a.bytes.length) slots

/-- The last assignment to a constant. -/
def lastTo? (done : List Assignment) (id : Nat) : Option Assignment :=
  (done.filter (·.id == id)).getLast?

/-- No constant is set to values of different lengths. This is the condition under which a constant
that is set again is overwritten in place. -/
def SetsOneLength (done : List Assignment) : Prop :=
  ∀ a ∈ done, ∀ b ∈ done, a.id = b.id → a.bytes.length = b.bytes.length

/-- For given calls the lengths can be compared. -/
instance (done : List Assignment) : Decidable (SetsOneLength done) :=
  inferInstanceAs (Decidable (∀ a ∈ done, ∀ b ∈ done, a.id = b.id →
    a.bytes.length = b.bytes.length))

section Slots

variable {slots front back done : List Assignment} {a b old : Assignment} {offset : Nat}

/-- A new slot stands behind all others. -/
theorem put_of_notMem (h : a.key ∉ slots.map Assignment.key) : put a slots = slots ++ [a] := by
  induction slots with
  | nil => rfl
  | cons b slots ih =>
    obtain ⟨hb, hslots⟩ := not_or.1 (mt List.mem_cons.2 h)
    rw [put, if_neg (Ne.symm hb), ih hslots, List.cons_append]

/-- A used slot stays at its place. -/
theorem put_middle (h : a.key ∉ front.map Assignment.key) (hold : old.key = a.key) :
    put a (front ++ old :: back) = front ++ a :: back := by
  induction front with
  | nil => simp [put, hold]
  | cons b front ih =>
    obtain ⟨hb, hfront⟩ := not_or.1 (mt List.mem_cons.2 h)
    rw [List.cons_append, put, if_neg (Ne.symm hb), ih hfront, List.cons_append]

/-- A used slot stands behind other slots.

**Proof sketch.** The slot that is found is the only one, so there is none of it in front. -/
theorem exists_middle (hnodup : (slots.map Assignment.key).Nodup)
    (h : a.key ∈ slots.map Assignment.key) :
    ∃ front old back, slots = front ++ old :: back ∧ old.key = a.key ∧
      a.key ∉ front.map Assignment.key := by
  obtain ⟨old, hold, hkey⟩ := List.mem_map.1 h
  obtain ⟨front, back, rfl⟩ := List.append_of_mem hold
  rw [List.map_append, List.map_cons, List.nodup_append] at hnodup
  exact ⟨front, old, back, rfl, hkey, fun hmem =>
    hnodup.2.2 _ hmem _ List.mem_cons_self hkey.symm⟩

/-- Setting a slot makes no second one of it. -/
theorem nodup_put (h : (slots.map Assignment.key).Nodup) :
    ((put a slots).map Assignment.key).Nodup := by
  by_cases hmem : a.key ∈ slots.map Assignment.key
  · obtain ⟨front, old, back, rfl, hkey, hfront⟩ := exists_middle h hmem
    rw [put_middle hfront hkey]
    rw [List.map_append, List.map_cons, hkey] at h
    rw [List.map_append, List.map_cons]
    exact h
  · rw [put_of_notMem hmem, List.map_append, List.nodup_append]
    refine ⟨h, List.nodup_singleton _, fun key hkey key' hkey' heq => hmem ?_⟩
    cases List.mem_singleton.1 hkey'
    exact heq ▸ hkey

/-- Every slot keeps its bytes, and the one that is set has the new ones.

**Proof sketch.** A used slot is replaced at its place (`put_middle`), and it stands nowhere else. A
new slot is added (`put_of_notMem`). -/
theorem mem_put_iff (h : (slots.map Assignment.key).Nodup) :
    b ∈ put a slots ↔ if b.key = a.key then b = a else b ∈ slots := by
  by_cases hmem : a.key ∈ slots.map Assignment.key
  · obtain ⟨front, old, back, rfl, hkey, hfront⟩ := exists_middle h hmem
    have hback : a.key ∉ back.map Assignment.key := by
      rw [List.map_append, List.map_cons, hkey] at h
      exact (List.nodup_cons.1 (List.nodup_append.1 h).2.1).1
    rw [put_middle hfront hkey, List.mem_append, List.mem_cons, List.mem_append, List.mem_cons]
    split
    · next heq =>
      have hf : b ∉ front := fun hb => hfront (heq ▸ List.mem_map_of_mem hb)
      have hb : b ∉ back := fun hb => hback (heq ▸ List.mem_map_of_mem hb)
      simp [hf, hb]
    · next hne =>
      have ha : b ≠ a := fun heq => hne (congrArg Assignment.key heq)
      have ho : b ≠ old := fun heq => hne (heq ▸ hkey)
      simp [ha, ho]
  · rw [put_of_notMem hmem, List.mem_append, List.mem_singleton]
    split
    · next heq =>
      have hb : b ∉ slots := fun hb => hmem (heq ▸ List.mem_map_of_mem hb)
      simp [hb]
    · next hne =>
      have ha : b ≠ a := fun heq => hne (congrArg Assignment.key heq)
      simp [ha]

/-- One more assignment sets its slot. -/
theorem slotsOf_append : slotsOf (done ++ [a]) = put a (slotsOf done) := by
  simp [slotsOf]

/-- No slot stands twice. -/
theorem nodup_slotsOf : ((slotsOf done).map Assignment.key).Nodup := by
  induction done using List.reverseRecOn with
  | nil => exact List.nodup_nil
  | append_singleton done a ih =>
    rw [slotsOf_append]
    exact nodup_put ih

/-- A slot keeps the last assignment to it.

**Proof sketch.** Induction from the right: the last assignment is kept (`mem_put_iff`), and slots
of others are as before. -/
theorem mem_slotsOf_iff : b ∈ slotsOf done ↔ (done.filter (·.key == b.key)).getLast? = some b := by
  induction done using List.reverseRecOn with
  | nil => simp [slotsOf]
  | append_singleton done a ih =>
    rw [slotsOf_append, mem_put_iff nodup_slotsOf, ih, List.filter_append]
    by_cases heq : a.key = b.key
    · simp [heq, eq_comm]
    · simp [heq, Ne.symm heq]

/-- The slots are those that were assigned to.

**Proof sketch.** A slot was assigned to, and a slot that was assigned to keeps the last assignment
(`mem_slotsOf_iff`). -/
theorem mem_map_key_slotsOf_iff {key : Nat × Nat} :
    key ∈ (slotsOf done).map Assignment.key ↔ key ∈ done.map Assignment.key := by
  constructor
  · intro h
    obtain ⟨b, hb, rfl⟩ := List.mem_map.1 h
    exact List.mem_map_of_mem
      (List.mem_of_mem_filter (List.mem_of_getLast? (mem_slotsOf_iff.1 hb)))
  · intro h
    obtain ⟨a, ha, rfl⟩ := List.mem_map.1 h
    have hne : done.filter (·.key == a.key) ≠ [] :=
      List.ne_nil_of_mem (List.mem_filter.2 ⟨ha, beq_self_eq_true _⟩)
    obtain ⟨b, hb⟩ : ∃ b, (done.filter (·.key == a.key)).getLast? = some b :=
      ⟨_, List.getLast?_eq_some_getLast hne⟩
    have hkey : b.key = a.key := by
      simpa using (List.mem_filter.1 (List.mem_of_getLast? hb)).2
    rw [← hkey]
    exact List.mem_map_of_mem (mem_slotsOf_iff.2 (hkey ▸ hb))

/-- The bytes of slots one after the other. -/
theorem bytesOf_append : bytesOf (front ++ back) = bytesOf front ++ bytesOf back := by
  simp [bytesOf]

/-- The bytes of the first slot, and those of the others. -/
theorem bytesOf_cons : bytesOf (a :: slots) = a.bytes ++ bytesOf slots := by
  simp [bytesOf]

/-- The entries of slots one after the other. The second ones begin where the bytes of the first
ones end. -/
theorem entriesAt_append : entriesAt offset (front ++ back) =
    entriesAt offset front ++ entriesAt (offset + (bytesOf front).length) back := by
  induction front generalizing offset with
  | nil => rfl
  | cons a front ih =>
    rw [List.cons_append, entriesAt, ih, entriesAt, bytesOf_cons, List.length_append,
      List.cons_append, Nat.add_assoc]

/-- The entries describe the slots. -/
theorem map_key_entriesAt :
    (entriesAt offset slots).map MapEntry.key = slots.map Assignment.key := by
  induction slots generalizing offset with
  | nil => rfl
  | cons a slots ih => rw [entriesAt, List.map_cons, List.map_cons, ih]; rfl

/-- The entry of a slot has its size, and its offset if that is a word.

**Proof sketch.** Induction on the slots, with the bytes of those in front added up. -/
theorem exists_mem_of_entriesAt {e : MapEntry} (h : e ∈ entriesAt offset slots) :
    ∃ front a back, slots = front ++ a :: back ∧ e.key = a.key ∧
      e.offset = (offset + (bytesOf front).length) % Word.bound := by
  induction slots generalizing offset with
  | nil => cases h
  | cons a slots ih =>
    rw [entriesAt] at h
    rcases List.mem_cons.1 h with rfl | h
    · exact ⟨[], a, slots, rfl, rfl, rfl⟩
    · obtain ⟨front, b, back, rfl, hkey, hoffset⟩ := ih h
      refine ⟨a :: front, b, back, rfl, hkey, ?_⟩
      rw [hoffset, bytesOf_cons, List.length_append, Nat.add_assoc]

/-- Ids are repeated among slots of different lengths only.

**Proof sketch.** Slots are told apart by ids and lengths (`nodup_slotsOf`). So two slots of one id
are two assignments of different lengths, and such assignments leave two slots. -/
theorem nodup_ids_iff :
    ((slotsOf done).map (·.id)).Nodup ↔ SetsOneLength done := by
  have hkey (a b : Assignment) : a.key = b.key ↔ a.id = b.id ∧ a.bytes.length = b.bytes.length :=
    Prod.mk.injEq .. ▸ Iff.rfl
  constructor
  · intro h a ha b hb hid
    obtain ⟨a', ha', hkeya⟩ := List.mem_map.1 (mem_map_key_slotsOf_iff.2 (List.mem_map_of_mem ha))
    obtain ⟨b', hb', hkeyb⟩ := List.mem_map.1 (mem_map_key_slotsOf_iff.2 (List.mem_map_of_mem hb))
    obtain ⟨hida, hlena⟩ := (hkey _ _).1 hkeya
    obtain ⟨hidb, hlenb⟩ := (hkey _ _).1 hkeyb
    have heq : a' = b' := List.inj_on_of_nodup_map h ha' hb' (by rw [hida, hidb, hid])
    rw [← hlena, ← hlenb, heq]
  · intro h
    refine List.pairwise_map.2 ((List.pairwise_map.1 nodup_slotsOf).imp_of_mem ?_)
    intro a b ha hb hne hid
    have hmem {c : Assignment} (hc : c ∈ slotsOf done) : c ∈ done :=
      List.mem_of_mem_filter (List.mem_of_getLast? (mem_slotsOf_iff.1 hc))
    exact hne ((hkey a b).2 ⟨hid, h a (hmem ha) b (hmem hb) hid⟩)

/-- If no constant is set to values of different lengths, its slot keeps its last value.

**Proof sketch.** All assignments to this constant are to one slot, so the last one to the constant
is the last one to the slot (`mem_slotsOf_iff`). -/
theorem mem_slotsOf_of_lastTo? (h : SetsOneLength done) {id : Nat} (ha : lastTo? done id = some a) :
    a ∈ slotsOf done ∧ a.id = id := by
  have hmem := List.mem_filter.1 (List.mem_of_getLast? ha)
  have hid : a.id = id := by simpa using hmem.2
  have hsame : done.filter (·.key == a.key) = done.filter (·.id == id) := by
    refine List.filter_congr fun b hb => ?_
    rw [Bool.eq_iff_iff, beq_iff_eq, beq_iff_eq, ← hid, Assignment.key, Assignment.key,
      Prod.mk.injEq]
    exact and_iff_left_of_imp fun hbid => h b hb a hmem.1 hbid
  exact ⟨mem_slotsOf_iff.2 (hsame ▸ ha), hid⟩

end Slots

/-! ## The state of a specializer -/

namespace Specializer

/-- Makes calls one after the other. Returns those that succeed, and the specializer that is left; a
call that fails leaves it as it is. -/
def run (s : Specializer) : List Assignment → List Assignment × Specializer
  | [] => ([], s)
  | a :: rest =>
    match s.setBytes a.id a.bytes with
    | .ok s =>
      match s.run rest with
      | (done, s) => (a :: done, s)
    | .error _ => s.run rest

/-- The specializer has these slots. Its bytes are those of the slots as long as words can address
them; their number is right in any case. -/
structure Stores (s : Specializer) (slots : List Assignment) : Prop where
  entries_eq : s.entries = entriesAt 0 slots
  length_eq : s.data.length = (bytesOf slots).length
  data_eq : s.data.length ≤ Word.bound → s.data = bytesOf slots
  nodup : (slots.map Assignment.key).Nodup

variable {s s' : Specializer} {slots front back done calls : List Assignment} {a old : Assignment}

/-- At first no slot is stored. -/
theorem stores_empty {stage capacity : Nat} : Stores { stage, capacity } [] where
  entries_eq := rfl
  length_eq := rfl
  data_eq _ := rfl
  nodup := .nil

/-- An entry is looked up by its slot. -/
theorem entry?_eq_find? (s : Specializer) (id size : Nat) :
    s.entry? id size = s.entries.find? (·.key == (id, size)) :=
  rfl

/-- No entry is found for a slot that is not used. -/
theorem find?_entriesAt_of_notMem {key : Nat × Nat} {offset : Nat}
    (h : key ∉ slots.map Assignment.key) :
    (entriesAt offset slots).find? (·.key == key) = none := by
  rw [List.find?_eq_none]
  intro e he heq
  rw [beq_iff_eq] at heq
  refine h (heq ▸ ?_)
  rw [← map_key_entriesAt]
  exact List.mem_map_of_mem he

/-- The bytes of a new slot stand behind all others.

**Proof sketch.** No entry is found (`find?_entriesAt_of_notMem`), so one is added. Its bytes begin
where those of the other slots end (`entriesAt_append`). -/
theorem Stores.set_new (h : s.Stores slots) (hnew : a.key ∉ slots.map Assignment.key)
    (hset : s.setBytes a.id a.bytes = .ok s') : s'.Stores (slots ++ [a]) := by
  have hnone : s.entry? a.id a.bytes.length = none := by
    rw [entry?_eq_find?, h.entries_eq]
    exact find?_entriesAt_of_notMem hnew
  rw [Specializer.setBytes, hnone] at hset
  simp only [Result.ite_error_eq_ok_iff, Except.ok.injEq] at hset
  obtain ⟨-, rfl⟩ := hset
  refine ⟨?_, ?_, fun hle => ?_, ?_⟩
  · rw [h.entries_eq, entriesAt_append, h.length_eq, Nat.zero_add]
    rfl
  · simp [h.length_eq, bytesOf]
  · have hdata : s.data = bytesOf slots := h.data_eq (by
      rw [List.length_append] at hle
      omega)
    simp [hdata, bytesOf]
  · rw [← put_of_notMem hnew]
    exact nodup_put h.nodup

/-- The bytes of a used slot take the place of the earlier ones.

**Proof sketch.** The entry that is found is that of the slot, as none in front is of it. It begins
where the bytes in front end, and it has as many bytes as are given, so all others stay where they
are (`overwrite_middle`). -/
theorem Stores.set_again (h : s.Stores (front ++ old :: back)) (hold : old.key = a.key)
    (hfront : a.key ∉ front.map Assignment.key) (hset : s.setBytes a.id a.bytes = .ok s') :
    s'.Stores (front ++ a :: back) := by
  obtain ⟨hid, hlength⟩ : old.id = a.id ∧ old.bytes.length = a.bytes.length :=
    Prod.mk.inj hold
  have hfound : s.entry? a.id a.bytes.length =
      some { constantId := a.id, offset := (bytesOf front).length % Word.bound,
             size := a.bytes.length } := by
    rw [Assignment.key] at hfront
    rw [entry?_eq_find?, h.entries_eq, entriesAt_append, List.find?_append,
      find?_entriesAt_of_notMem hfront, Nat.zero_add]
    simp [entriesAt, MapEntry.key, hid, hlength]
  have hdata : s.data.length =
      (bytesOf front).length + (a.bytes.length + (bytesOf back).length) := by
    rw [h.length_eq, bytesOf_append, bytesOf_cons, List.length_append, List.length_append, hlength]
  rw [Specializer.setBytes, hfound] at hset
  simp only [Except.ok.injEq] at hset
  subst hset
  have hle : (bytesOf front).length % Word.bound ≤ (bytesOf front).length := Nat.mod_le _ _
  have hkept : (overwrite s.data ((bytesOf front).length % Word.bound) a.bytes).length =
      s.data.length :=
    length_overwrite (by omega)
  refine ⟨?_, ?_, fun hbound => ?_, ?_⟩
  · rw [h.entries_eq, entriesAt_append, entriesAt_append, entriesAt, entriesAt, hid, hlength]
  · rw [hkept, hdata, bytesOf_append, bytesOf_cons, List.length_append, List.length_append]
  · replace hbound : s.data.length ≤ Word.bound := hkept ▸ hbound
    change overwrite s.data ((bytesOf front).length % Word.bound) a.bytes = _
    rw [h.data_eq hbound, bytesOf_append, bytesOf_append, bytesOf_cons, bytesOf_cons,
      ← List.append_assoc, ← List.append_assoc]
    by_cases hnil : a.bytes = []
    · have hnil' : old.bytes = [] := List.length_eq_zero_iff.1 (by rw [hlength, hnil]; rfl)
      rw [hnil, hnil', overwrite]
      simp
    · -- there are bytes, so they begin where words still address
      have hpos := List.length_pos_of_ne_nil hnil
      rw [Nat.mod_eq_of_lt (by omega), overwrite_middle hlength]
  · have hnodup := h.nodup
    rw [List.map_append, List.map_cons, hold] at hnodup
    rw [List.map_append, List.map_cons]
    exact hnodup

/-- A call that succeeds sets its slot and leaves all others.

**Proof sketch.** The slot is new (`Stores.set_new`) or used (`Stores.set_again`). -/
theorem Stores.setBytes (h : s.Stores slots) (hset : s.setBytes a.id a.bytes = .ok s') :
    s'.Stores (put a slots) := by
  by_cases hmem : a.key ∈ slots.map Assignment.key
  · obtain ⟨front, old, back, rfl, hold, hfront⟩ := exists_middle h.nodup hmem
    rw [put_middle hfront hold]
    exact h.set_again hold hfront hset
  · rw [put_of_notMem hmem]
    exact h.set_new hmem hset

/-- A run leaves the slots of the calls that succeed.

**Proof sketch.** Induction on the calls (`Stores.setBytes`). A call that fails sets no slot. -/
theorem Stores.run (h : s.Stores slots) (hrun : s.run calls = (done, s')) :
    s'.Stores (done.foldl (fun slots a => put a slots) slots) := by
  induction calls generalizing s slots done with
  | nil =>
    cases hrun
    exact h
  | cons a calls ih =>
    rw [Specializer.run] at hrun
    split at hrun
    · next s₁ hset =>
      cases hrest : s₁.run calls with
      | mk done₁ s₂ =>
        rw [hrest] at hrun
        cases hrun
        rw [List.foldl_cons]
        exact ih (h.setBytes hset) hrest
    · exact ih h hrun

/-- As long as words can address all bytes, an entry addresses those of its slot.

**Proof sketch.** An entry belongs to a slot and begins where the bytes of the slots in front end
(`exists_mem_of_entriesAt`). If the slot has bytes this is a word, so nothing is lost of the
offset. -/
theorem Stores.read (h : s.Stores slots) (hbound : s.data.length ≤ Word.bound) {e : MapEntry}
    (he : e ∈ s.entries) :
    ∃ a ∈ slots, e.key = a.key ∧ e.offset + e.size ≤ s.data.length ∧
      (s.data.drop e.offset).take e.size = a.bytes := by
  rw [h.entries_eq] at he
  obtain ⟨front, a, back, rfl, hkey, hoffset⟩ := exists_mem_of_entriesAt he
  have hsize : e.size = a.bytes.length := (Prod.mk.inj hkey).2
  have hlength : s.data.length =
      (bytesOf front).length + (a.bytes.length + (bytesOf back).length) := by
    rw [h.length_eq, bytesOf_append, bytesOf_cons, List.length_append, List.length_append]
  have hle : e.offset ≤ (bytesOf front).length := by
    rw [hoffset, Nat.zero_add]
    exact Nat.mod_le _ _
  refine ⟨a, by simp, hkey, by omega, ?_⟩
  by_cases hnil : a.bytes = []
  · rw [hsize, hnil, List.length_nil, List.take_zero]
  · have hpos := List.length_pos_of_ne_nil hnil
    rw [Nat.zero_add, Nat.mod_eq_of_lt (by omega)] at hoffset
    rw [h.data_eq hbound, hoffset, hsize, bytesOf_append, bytesOf_cons, ← List.append_assoc]
    exact take_drop_middle _ _ _

/-- **Setting constants again.** After any calls, in any order and with any bytes, no id stands in
two entries exactly if no constant was set, with success, to values of different lengths. Then, as
long as words can address all bytes, the one entry of each constant that was set addresses the last
value that it was set to.

**Proof sketch.** A run leaves the slots of the calls that succeed (`Stores.run`), with entries for
them. So ids are repeated as among the slots (`nodup_ids_iff`). If they are not, the slot of a
constant keeps its last value (`mem_slotsOf_of_lastTo?`), and its entry addresses that
(`Stores.read`). -/
theorem run_overwrites {stage capacity : Nat} {calls done : List Assignment} {s : Specializer}
    (h : Specializer.run { stage, capacity } calls = (done, s)) :
    ((s.entries.map (·.constantId)).Nodup ↔ SetsOneLength done) ∧
      (SetsOneLength done → s.data.length ≤ Word.bound → ∀ id a, lastTo? done id = some a →
        ∃ e, s.entries.filter (·.constantId == id) = [e] ∧ e.size = a.bytes.length ∧
          e.offset + e.size ≤ s.data.length ∧ (s.data.drop e.offset).take e.size = a.bytes) := by
  have hstores : s.Stores (slotsOf done) := stores_empty.run h
  have hids : s.entries.map (·.constantId) = (slotsOf done).map (·.id) := by
    have hkeys : s.entries.map MapEntry.key = (slotsOf done).map Assignment.key := by
      rw [hstores.entries_eq, map_key_entriesAt]
    have hfst := congrArg (List.map Prod.fst) hkeys
    rw [List.map_map, List.map_map] at hfst
    exact hfst
  have hnodup : (s.entries.map (·.constantId)).Nodup ↔ SetsOneLength done := by
    rw [hids, nodup_ids_iff]
  refine ⟨hnodup, fun hone hbound id a ha => ?_⟩
  obtain ⟨hmem, hid⟩ := mem_slotsOf_of_lastTo? hone ha
  obtain ⟨e, he, hkey⟩ : ∃ e ∈ s.entries, e.key = a.key := by
    rw [← List.mem_map, hstores.entries_eq, map_key_entriesAt]
    exact List.mem_map_of_mem hmem
  obtain ⟨b, hb, hkeyb, hend, hread⟩ := hstores.read hbound he
  obtain rfl : b = a := List.inj_on_of_nodup_map hstores.nodup hb hmem (hkeyb.symm.trans hkey)
  obtain ⟨hconstant, hsize⟩ := Prod.mk.inj hkey
  have hsingle := filter_eq_singleton (hnodup.2 hone) he
  rw [hconstant, hid] at hsingle
  exact ⟨e, hsingle, hsize, hend, hread⟩

/-- Two constants in all the room there is, and the first one again after a third one was refused.
-/
def refilledCalls : List Assignment :=
  [.ofValue 4 (.u32 7), .ofValue 1 (.f64 0x3ff0000000000000), .ofValue 9 (.bool true),
   .ofValue 4 (.f32 0x3f800000)]

/-- The entry of the first constant addresses its second value.

The constant is set to two values of four bytes each. -/
theorem run_refilledCalls :
    ∃ done s, Specializer.run { stage := 32, capacity := 2 } refilledCalls = (done, s) ∧
      SetsOneLength done ∧ s.data.length ≤ Word.bound ∧
        lastTo? done 4 = some (.ofValue 4 (.f32 0x3f800000)) ∧
          ∃ e, s.entries.filter (·.constantId == 4) = [e] ∧
            (s.data.drop e.offset).take e.size = [0, 0, 128, 63] := by
  cases hrun : Specializer.run { stage := 32, capacity := 2 } refilledCalls with
  | mk done s =>
    have hdone : (Specializer.run { stage := 32, capacity := 2 } refilledCalls).1 = done := by
      rw [hrun]
    have hs : (Specializer.run { stage := 32, capacity := 2 } refilledCalls).2 = s := by
      rw [hrun]
    have hone : SetsOneLength done := hdone ▸ by decide
    have hbound : s.data.length ≤ Word.bound := hs ▸ by decide
    have hlast : lastTo? done 4 = some (.ofValue 4 (.f32 0x3f800000)) := hdone ▸ by decide
    obtain ⟨e, hsingle, -, -, hread⟩ := (run_overwrites hrun).2 hone hbound 4 _ hlast
    exact ⟨done, s, rfl, hone, hbound, hlast, e, hsingle, hread.trans (by decide)⟩

/-- A constant that is set to values of different lengths stands in two entries.

Entries are looked up by id and length, so the second value gets an entry of its own. -/
theorem exists_repeated_id :
    ∃ s, Specializer.run { stage := 16, capacity := 2 }
        [.ofValue 0 (.u32 1), .ofValue 0 (.u64 2)] =
      ([.ofValue 0 (.u32 1), .ofValue 0 (.u64 2)], s) ∧
        s.entries.map (·.constantId) = [0, 0] ∧ ¬(s.entries.map (·.constantId)).Nodup :=
  ⟨_, rfl, by decide, by decide⟩

end Specializer

end ShaderBindings.Vulkan
