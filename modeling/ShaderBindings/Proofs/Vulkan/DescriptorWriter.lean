import Mathlib.Data.List.DropRight
import ShaderBindings.Proofs.Sorted
import ShaderBindings.Vulkan.DescriptorWriter
/-!
# What a descriptor queue holds

A queue keeps two counts that limit each other: of all writes, and of the writes to each binding.
Over any run of writes and clears only the second one decides. A write to a binding goes through as
long as the binding has descriptors left, and fills the first of them that no write fills yet.

## Main definitions

* `DescriptorWriter.declared` - the number of descriptors listed for a binding.
* `DescriptorWriter.accepted` - the writes that went through since the last clear.
* `DescriptorWriter.Holds` - a queue holds given writes, and nothing else shows in it.

## Main results

* `Holds.push_eq` - what a write answers, said by the writes that the queue holds.
* `Holds.push`, `Holds.clear`, `holds_run` - what a call leaves behind, and a run of calls.
* `Holds.run_eq` - queues that hold the same writes answer every run alike.
* `run_new_spec` - all of it for the runs of a new queue.
-/

set_option autoImplicit false

namespace ShaderBindings.Vulkan

/-- The write that an event queues: the one that was asked for, if it went through. -/
def WriterEvent.queued? : WriterEvent → Option PendingWrite
  | { call := .write binding type info, answer := some (.ok element) } =>
    some { binding, element, type, info }
  | _ => none

namespace DescriptorWriter

/-- The number of descriptors listed for a binding. The last entry of a binding counts, and a
binding that is not listed has none. -/
def declared (bindings : List (Nat × Nat)) (binding : Nat) : Nat :=
  ((bindings.filter (·.1 == binding)).getLast?.map (·.2)).getD 0

/-- The number of writes to a binding. -/
def filled (writes : List PendingWrite) (binding : Nat) : Nat :=
  (writes.map (·.binding)).count binding

/-- The writes that went through since the last clear, in the order of the calls. They are taken
from the events alone, so a queue can be compared with what was answered. -/
def accepted (history : List WriterEvent) : List PendingWrite :=
  (history.rtakeWhile (·.call != .clear)).filterMap WriterEvent.queued?

/-- What a write to a binding answers if the queue holds the given writes. If there is no room in
the binding nor in the whole queue, the answer names the room of the queue. -/
def answerOf (bindings : List (Nat × Nat)) (writes : List PendingWrite) (binding : Nat) :
    Except CapacityExceeded Nat :=
  if filled writes binding < declared bindings binding then .ok (filled writes binding)
  else if (Table.ofList bindings).values.foldr (· + ·) 0 ≤ writes.length then
    .error { capacity := (Table.ofList bindings).values.foldr (· + ·) 0 }
  else .error { capacity := declared bindings binding }

section Lists

variable {bindings : List (Nat × Nat)} {writes : List PendingWrite} {write : PendingWrite}
  {binding element : Nat} {refusal : CapacityExceeded}

/-- Without writes no descriptor is filled. -/
@[simp] theorem filled_nil : filled [] binding = 0 := rfl

/-- One more write counts for its own binding and for no other one. -/
theorem filled_append (writes : List PendingWrite) (write : PendingWrite) (binding : Nat) :
    filled (writes ++ [write]) binding =
      if binding = write.binding then filled writes binding + 1 else filled writes binding := by
  by_cases h : binding = write.binding
  · simp [filled, h]
  · simp [filled, h, Ne.symm h]

/-- One more write fills no fewer descriptors. -/
theorem filled_le_append : filled writes binding ≤ filled (writes ++ [write]) binding := by
  rw [filled_append]
  split <;> omega

/-- A binding has as many descriptors as the table of a new queue says. -/
theorem getD_get?_ofList :
    ((Table.ofList bindings).get? binding).getD 0 = declared bindings binding := by
  rw [Table.get?_ofList, declared]

/-- A write goes through if its binding has a descriptor left, and then it fills the next one. -/
theorem answerOf_eq_ok_iff :
    answerOf bindings writes binding = .ok element ↔
      filled writes binding < declared bindings binding ∧ element = filled writes binding := by
  unfold answerOf
  split
  · next hlt => simp [hlt, eq_comm]
  · next hge => split <;> simp [hge]

/-- A write is refused only if its binding has no descriptor left. -/
theorem le_filled_of_answerOf (h : answerOf bindings writes binding = .error refusal) :
    declared bindings binding ≤ filled writes binding := by
  by_contra hlt
  rw [answerOf_eq_ok_iff.2 ⟨Nat.lt_of_not_le hlt, rfl⟩] at h
  cases h

end Lists

/-! ## The state of a queue -/

/-- The queue of the set with these bindings holds the writes. Of the rest of its state only the
next element of each binding shows, which is the number of writes to it. -/
structure Holds (w : DescriptorWriter) (set : Nat) (bindings : List (Nat × Nat))
    (writes : List PendingWrite) : Prop where
  set_eq : w.set = set
  counts_eq : w.counts = Table.ofList bindings
  capacity_eq : w.capacity = (Table.ofList bindings).values.foldr (· + ·) 0
  pending_eq : w.pending = writes
  next_eq : ∀ binding, w.next binding = filled writes binding
  /-- No binding has more writes than descriptors. -/
  filled_le : ∀ binding, filled writes binding ≤ declared bindings binding
  /-- The writes to a binding have the elements below their number. -/
  element_lt : ∀ write ∈ writes, write.element < filled writes write.binding
  nodup : (writes.map fun write => (write.binding, write.element)).Nodup

variable {w w' : DescriptorWriter} {set : Nat} {bindings : List (Nat × Nat)}
  {writes : List PendingWrite} {binding : Nat} {type : Int} {info : DescriptorInfo}

/-- A new queue holds no writes. -/
theorem holds_new : Holds (new set bindings) set bindings [] where
  set_eq := rfl
  counts_eq := rfl
  capacity_eq := rfl
  pending_eq := rfl
  next_eq _ := rfl
  filled_le _ := Nat.zero_le _
  element_lt _ h := by cases h
  nodup := .nil

/-- A binding has as many descriptors as were declared for it. -/
theorem Holds.count_eq (h : w.Holds set bindings writes) :
    w.count binding = declared bindings binding := by
  rw [count, h.counts_eq, getD_get?_ofList]

/-- The queue counts the writes that it holds. -/
theorem Holds.length_eq (h : w.Holds set bindings writes) : w.length = writes.length :=
  congrArg List.length h.pending_eq

/-- The writes to all bindings are no more than the descriptors of all bindings. -/
theorem Holds.length_le (h : w.Holds set bindings writes) : writes.length ≤ w.capacity := by
  rw [h.capacity_eq, ← List.length_map (·.binding)]
  refine Table.length_le_sum_values fun key => ?_
  rw [getD_get?_ofList]
  exact h.filled_le key

/-- As long as a binding has descriptors left the queue is not full.

**Proof sketch.** One more write to the binding leaves no binding with more writes than
descriptors, so all writes together with this one still fit. -/
theorem Holds.length_lt (h : w.Holds set bindings writes)
    (hlt : filled writes binding < declared bindings binding) : writes.length < w.capacity := by
  have hmore : (binding :: writes.map (·.binding)).length ≤ w.capacity := by
    rw [h.capacity_eq]
    refine Table.length_le_sum_values fun key => ?_
    rw [getD_get?_ofList]
    by_cases heq : key = binding
    · rw [heq, List.count_cons_self]
      exact hlt
    · rw [List.count_cons_of_ne (Ne.symm heq)]
      exact h.filled_le key
  rw [List.length_cons, List.length_map] at hmore
  omega

/-- What a write answers depends on the writes held by the queue only, and its refusal on the number
of writes to its own binding only.

**Proof sketch.** If the binding has a descriptor left there is room in the queue
(`Holds.length_lt`), so the write goes through. If not, one of the two limits refuses it, and the
queue is looked at first. -/
theorem Holds.push_eq (h : w.Holds set bindings writes) :
    (w.push binding type info).1 = answerOf bindings writes binding := by
  have hlength := h.length_eq
  unfold push answerOf
  by_cases hlt : filled writes binding < declared bindings binding
  · have hroom := h.length_lt hlt
    rw [if_neg (by omega), if_neg (by rw [h.count_eq, h.next_eq]; omega), if_pos hlt, h.next_eq]
  · rw [if_neg hlt, ← h.capacity_eq, hlength]
    split
    · rfl
    · rw [if_pos (by rw [h.count_eq, h.next_eq]; omega), h.count_eq]

/-! ## Calls -/

/-- A write that goes through is the last one that the queue then holds.

**Proof sketch.** The invariant is gone through field by field. The number of the element is the
number of writes to this binding so far, so none of these has it. -/
theorem Holds.push (h : w.Holds set bindings writes)
    (hlt : filled writes binding < declared bindings binding) :
    (w.push binding type info).2.Holds set bindings
      (writes ++ [{ binding, element := filled writes binding, type, info }]) := by
  have hroom := h.length_lt hlt
  have hlength := h.length_eq
  have hpush : (w.push binding type info).2 =
      { w with
        elements := w.elements.insert binding (filled writes binding + 1)
        pending := writes ++ [{ binding, element := filled writes binding, type, info }] } := by
    unfold DescriptorWriter.push
    rw [if_neg (by omega), if_neg (by rw [h.count_eq, h.next_eq]; omega), h.next_eq, h.pending_eq]
  rw [hpush]
  refine ⟨h.set_eq, h.counts_eq, h.capacity_eq, rfl, fun b => ?_, fun b => ?_, fun p hp => ?_, ?_⟩
  · rw [filled_append, next, Table.get?_insert, ← h.next_eq b, next]
    by_cases hb : b = binding
    · rw [if_pos hb, if_pos hb, Option.getD_some, hb, ← h.next_eq, next]
    · rw [if_neg hb, if_neg hb]
  · rw [filled_append]
    split
    · next hb =>
      subst hb
      exact hlt
    · exact h.filled_le b
  · rcases List.mem_append.1 hp with hp | hp
    · exact Nat.lt_of_lt_of_le (h.element_lt p hp) filled_le_append
    · cases List.mem_singleton.1 hp
      rw [filled_append, if_pos rfl]
      exact Nat.lt_succ_self _
  · -- the new element is the number of writes so far, so no earlier write has it
    rw [List.map_append, List.map_singleton, List.nodup_append]
    refine ⟨h.nodup, by simp, fun place hplace new hnew heq => ?_⟩
    obtain ⟨p, hp, rfl⟩ := List.mem_map.1 hplace
    cases List.mem_singleton.1 hnew
    obtain ⟨hbinding, helement⟩ := Prod.mk.inj heq
    have hlt := h.element_lt p hp
    rw [hbinding, helement] at hlt
    exact Nat.lt_irrefl _ hlt

/-- After a refused write the queue holds what it held.

**Proof sketch.** A refused write changes nothing, except that the binding may then have a number of
zero writes where it had none. -/
theorem Holds.push_refused (h : w.Holds set bindings writes)
    (hge : declared bindings binding ≤ filled writes binding) :
    (w.push binding type info).2.Holds set bindings writes := by
  unfold DescriptorWriter.push
  split
  · exact h
  · rw [if_pos (by rw [h.count_eq, h.next_eq]; exact hge)]
    refine { h with next_eq := fun b => ?_ }
    rw [← h.next_eq b]
    by_cases hb : b = binding
    · simp [next, hb]
    · simp [next, hb]

/-- After a clear the queue holds no writes. -/
theorem Holds.clear (h : w.Holds set bindings writes) : w.clear.Holds set bindings [] :=
  { h with
    pending_eq := rfl
    next_eq := fun _ => rfl
    filled_le := fun _ => Nat.zero_le _
    element_lt := fun _ hmem => by cases hmem
    nodup := .nil }

/-! ## Runs -/

/-- A write is recorded with its answer. -/
theorem call_write (w : DescriptorWriter) :
    w.call (.write binding type info) =
      ({ call := .write binding type info, answer := some (w.push binding type info).1 },
        (w.push binding type info).2) :=
  rfl

/-- A clear is recorded without an answer. -/
theorem call_clear (w : DescriptorWriter) :
    w.call .clear = ({ call := .clear, answer := none }, w.clear) :=
  rfl

/-- The first call of a run is made on the queue, and the others on what it leaves. -/
theorem run_cons (w : DescriptorWriter) (c : WriterCall) (rest : List WriterCall) :
    w.run (c :: rest) =
      ((w.call c).1 :: ((w.call c).2.run rest).1, ((w.call c).2.run rest).2) :=
  rfl

/-- The last call of a run is made on what the others leave. -/
theorem run_append (w : DescriptorWriter) (calls : List WriterCall) (c : WriterCall) :
    w.run (calls ++ [c]) =
      ((w.run calls).1 ++ [((w.run calls).2.call c).1], ((w.run calls).2.call c).2) := by
  induction calls generalizing w with
  | nil => rfl
  | cons first rest ih => rw [List.cons_append, run_cons, ih, run_cons, List.cons_append]

/-- One more write is among those that went through if it did. -/
theorem accepted_append_write (history : List WriterEvent)
    (answer : Except CapacityExceeded Nat) :
    accepted (history ++ [{ call := .write binding type info, answer := some answer }]) =
      accepted history ++ (WriterEvent.queued?
        { call := .write binding type info, answer := some answer }).toList := by
  unfold accepted
  rw [List.rtakeWhile_concat_pos _ _ _ (by simp), List.filterMap_append]
  cases answer <;> rfl

/-- A write that is refused queues nothing. -/
theorem queued?_answerOf_of_le (hge : declared bindings binding ≤ filled writes binding) :
    WriterEvent.queued?
      { call := .write binding type info, answer := some (answerOf bindings writes binding) } =
      none := by
  cases heq : answerOf bindings writes binding with
  | error refusal => rfl
  | ok element => exact absurd (answerOf_eq_ok_iff.1 heq).1 (Nat.not_lt_of_le hge)

/-- After a clear no write has gone through. -/
theorem accepted_append_clear (history : List WriterEvent) :
    accepted (history ++ [{ call := .clear, answer := none }]) = [] := by
  unfold accepted
  rw [List.rtakeWhile_concat_neg _ _ _ (by simp), List.filterMap_nil]

/-- After a run a new queue holds the writes that went through since the last clear.

**Proof sketch.** Induction on the calls from the back. The last call is a write, which goes through
exactly if its binding has descriptors left, or a clear. -/
theorem holds_run (set : Nat) (bindings : List (Nat × Nat)) (calls : List WriterCall) :
    ((new set bindings).run calls).2.Holds set bindings
      (accepted ((new set bindings).run calls).1) := by
  induction calls using List.reverseRecOn with
  | nil => exact holds_new
  | append_singleton calls c ih =>
    rw [run_append]
    cases c with
    | clear =>
      rw [call_clear, accepted_append_clear]
      exact ih.clear
    | write binding type info =>
      rw [call_write, accepted_append_write, ih.push_eq]
      by_cases hlt : filled (accepted ((new set bindings).run calls).1) binding <
          declared bindings binding
      · rw [answerOf_eq_ok_iff.2 ⟨hlt, rfl⟩]
        exact ih.push hlt
      · have hge := Nat.le_of_not_lt hlt
        rw [queued?_answerOf_of_le hge, Option.toList_none, List.append_nil]
        exact ih.push_refused hge

/-- Queues that hold the same writes answer a call alike, and then hold the same writes again.

**Proof sketch.** A clear empties both. The answer to a write follows from the writes that are held
(`Holds.push_eq`), and both queues then hold one more (`Holds.push`) or what they held
(`Holds.push_refused`). -/
theorem Holds.call_eq (h : w.Holds set bindings writes) (h' : w'.Holds set bindings writes)
    (c : WriterCall) :
    (w.call c).1 = (w'.call c).1 ∧
      ∃ later, (w.call c).2.Holds set bindings later ∧ (w'.call c).2.Holds set bindings later := by
  cases c with
  | clear => exact ⟨rfl, [], h.clear, h'.clear⟩
  | write binding type info =>
    refine ⟨?_, ?_⟩
    · rw [call_write, call_write, h.push_eq, h'.push_eq]
    · by_cases hlt : filled writes binding < declared bindings binding
      · exact ⟨_, h.push hlt, h'.push hlt⟩
      · have hge := Nat.le_of_not_lt hlt
        exact ⟨writes, h.push_refused hge, h'.push_refused hge⟩

/-- Queues that hold the same writes answer every run alike.

**Proof sketch.** Induction on the calls (`Holds.call_eq`). -/
theorem Holds.run_eq (h : w.Holds set bindings writes) (h' : w'.Holds set bindings writes)
    (calls : List WriterCall) :
    (w.run calls).1 = (w'.run calls).1 ∧
      ∃ later, (w.run calls).2.Holds set bindings later ∧
        (w'.run calls).2.Holds set bindings later := by
  induction calls generalizing w w' writes with
  | nil => exact ⟨rfl, writes, h, h'⟩
  | cons c rest ih =>
    obtain ⟨hevent, later, hw, hw'⟩ := h.call_eq h' c
    obtain ⟨hevents, hlater⟩ := ih hw hw'
    rw [run_cons, run_cons]
    exact ⟨by rw [hevent, hevents], hlater⟩

/-- What a queue hands out follows from the writes it holds. -/
theorem Holds.writes_eq (h : w.Holds set bindings writes) :
    w.writes = writes.map fun write => { set, write } := by
  rw [DescriptorWriter.writes, h.pending_eq, h.set_eq]

/-- After any run of writes and clears on a new queue:

* a write to a binding goes through exactly if fewer writes to it went through since the last clear
  than the binding has descriptors, and then it fills the element of that number;
* the queue hands out the writes that went through since the last clear, as they were asked for;
* these fill different elements, all of them below the number of descriptors of their binding;
* there are no more of them than the queue has room for;
* a refused write changes neither what is handed out nor what any later run of calls answers.

**Proof sketch.** The queue holds the writes that went through since the last clear (`holds_run`).
The answers to writes follow from that (`Holds.push_eq`, `answerOf_eq_ok_iff`), and so does what is
handed out (`Holds.writes_eq`). After a refused write the same writes are held
(`Holds.push_refused`), so later runs are answered alike (`Holds.run_eq`). -/
theorem run_new_spec (set : Nat) (bindings : List (Nat × Nat)) (calls : List WriterCall) :
    let history := ((new set bindings).run calls).1
    let w := ((new set bindings).run calls).2
    (∀ binding type info,
      ((∃ element, (w.push binding type info).1 = .ok element) ↔
        filled (accepted history) binding < declared bindings binding) ∧
      ∀ element, (w.push binding type info).1 = .ok element →
        element = filled (accepted history) binding) ∧
    w.writes = (accepted history).map (fun write => { set, write }) ∧
    (w.writes.map fun write => (write.write.binding, write.write.element)).Nodup ∧
    (∀ write ∈ w.writes, write.write.element < declared bindings write.write.binding) ∧
    w.length = w.writes.length ∧ w.length ≤ w.capacity ∧
    ∀ binding type info refusal, (w.push binding type info).1 = .error refusal →
      let w' := (w.push binding type info).2
      w'.writes = w.writes ∧ w'.length = w.length ∧
        ∀ later, (w'.run later).1 = (w.run later).1 ∧
          (w'.run later).2.writes = (w.run later).2.writes ∧
          (w'.run later).2.length = (w.run later).2.length := by
  intro history w
  have h : w.Holds set bindings (accepted history) := holds_run set bindings calls
  refine ⟨fun binding type info => ?_, h.writes_eq, ?_, ?_, ?_, ?_, ?_⟩
  · simp only [h.push_eq, answerOf_eq_ok_iff]
    exact ⟨⟨fun ⟨_, hlt, _⟩ => hlt, fun hlt => ⟨_, hlt, rfl⟩⟩, fun _ hok => hok.2⟩
  · rw [h.writes_eq, List.map_map]
    exact h.nodup
  · rw [h.writes_eq]
    intro write hwrite
    obtain ⟨p, hp, rfl⟩ := List.mem_map.1 hwrite
    exact Nat.lt_of_lt_of_le (h.element_lt p hp) (h.filled_le p.binding)
  · rw [h.writes_eq, List.length_map, h.length_eq]
  · rw [h.length_eq]
    exact h.length_le
  · intro binding type info refusal herror w'
    rw [h.push_eq] at herror
    have h' : w'.Holds set bindings (accepted history) :=
      h.push_refused (le_filled_of_answerOf herror)
    refine ⟨by rw [h'.writes_eq, h.writes_eq], by rw [h'.length_eq, h.length_eq], fun later => ?_⟩
    obtain ⟨hevents, held, hw', hw⟩ := h'.run_eq h later
    exact ⟨hevents, by rw [hw'.writes_eq, hw.writes_eq], by rw [hw'.length_eq, hw.length_eq]⟩

/-- A binding that is listed twice, the second time with fewer descriptors. -/
def twiceListed : List (Nat × Nat) := [(2, 5), (0, 1), (2, 2)]

/-- Writes to two bindings: the last one before the clear is refused. -/
def interruptedCalls : List WriterCall :=
  let write (binding : Nat) : WriterCall := .write binding 6 (.buffer 40 0 64)
  [write 2, write 0, write 2, write 2, .clear, write 0, write 2]

/-- After the clear one of the two descriptors is left, and the next write fills it. -/
theorem exists_push_interruptedCalls :
    ∃ element, (((new 9 twiceListed).run interruptedCalls).2.push 2 6 (.buffer 48 0 16)).1 =
      .ok element ∧ element = 1 := by
  obtain ⟨hpush, -⟩ := run_new_spec 9 twiceListed interruptedCalls
  obtain ⟨hiff, hfills⟩ := hpush 2 6 (.buffer 48 0 16)
  obtain ⟨element, hok⟩ := hiff.2 (by decide)
  exact ⟨element, hok, hfills element hok⟩

end DescriptorWriter

end ShaderBindings.Vulkan
