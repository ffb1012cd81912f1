import ShaderBindings.Table
import ShaderBindings.Vulkan.Capacity
/-!
# Writing descriptors

Queues writes to the descriptors of one set. Writes to one binding fill its array elements one after
the other, up to the number of descriptors of the binding.

## Main definitions

* `ShaderBindings.Vulkan.DescriptorWriter` - the queue, with `push`, `write`, `clear`, `writes`,
  `update`.
* `DescriptorWriter.run` - a run of calls on a queue, with their answers.

## Implementation notes

The queue keeps the next array element of a binding beside the writes themselves, and enters a
binding there as soon as a write to it is asked for. A refused write can so leave an entry behind,
which says no more than a missing one: that the next element is the first.
-/

set_option autoImplicit false

namespace ShaderBindings.Vulkan

/-- What a descriptor is made to refer to. Objects are given by their handles. -/
inductive DescriptorInfo where
  | buffer (buffer offset range : Nat)
  | image (sampler view : Nat) (layout : Int)
deriving DecidableEq, Repr

/-- A queued write. The set is that of the queue, and each write is for a single descriptor. -/
structure PendingWrite where
  binding : Nat
  /-- The array element to fill. -/
  element : Nat
  type : Int
  info : DescriptorInfo
deriving DecidableEq, Repr

/-- A write to one descriptor of a set. -/
structure DescriptorWrite where
  set : Nat
  write : PendingWrite
deriving DecidableEq, Repr

/-- A queue of writes to the descriptors of a set. The next element of a binding is counted up from
zero with each write, and `clear` starts all of them again. -/
structure DescriptorWriter where
  /-- The handle of the set. -/
  set : Nat
  /-- The number of descriptors of all bindings. -/
  capacity : Nat
  /-- The number of descriptors of each binding. -/
  counts : Table Nat
  /-- The array element that the next write fills, for the bindings that were asked for. -/
  elements : Table Nat := ∅
  pending : List PendingWrite := []

namespace DescriptorWriter

/-- An empty queue for a set whose bindings have the given numbers of descriptors. If a binding is
listed twice, its last number counts, also towards the capacity. -/
def new (set : Nat) (bindings : List (Nat × Nat)) : DescriptorWriter :=
  let counts : Table Nat := .ofList bindings
  { set, capacity := counts.values.foldr (· + ·) 0, counts }

/-- The number of descriptors of a binding; a binding that is not listed has none. -/
def count (w : DescriptorWriter) (binding : Nat) : Nat := (w.counts.get? binding).getD 0

/-- The array element that the next write to a binding fills. -/
def next (w : DescriptorWriter) (binding : Nat) : Nat := (w.elements.get? binding).getD 0

/-- The number of queued writes. -/
def length (w : DescriptorWriter) : Nat := w.pending.length

/-- Queues a write to the next array element of a binding, and answers with the element. A write is
refused if the queue is full, and otherwise if the binding is; then the binding has been entered
among the elements already. -/
def push (w : DescriptorWriter) (binding : Nat) (type : Int) (info : DescriptorInfo) :
    Except CapacityExceeded Nat × DescriptorWriter :=
  if w.capacity ≤ w.length then (.error { capacity := w.capacity }, w)
  else
    let element := w.next binding
    if w.count binding ≤ element then
      (.error { capacity := w.count binding },
        { w with elements := w.elements.insert binding element })
    else
      (.ok element,
        { w with
          elements := w.elements.insert binding (element + 1)
          pending := w.pending ++ [{ binding, element, type, info }] })

/-- Queues a write, and returns the element it fills with the queue that holds it. A queue that
refuses is not returned, so the caller goes on with the one before. -/
def write (w : DescriptorWriter) (binding : Nat) (type : Int) (info : DescriptorInfo) :
    Except CapacityExceeded (Nat × DescriptorWriter) :=
  match w.push binding type info with
  | (answer, w) => answer.map (·, w)

/-- Drops all queued writes. -/
def clear (w : DescriptorWriter) : DescriptorWriter := { w with elements := ∅, pending := [] }

/-- The queued writes in order. -/
def writes (w : DescriptorWriter) : List DescriptorWrite :=
  w.pending.map fun write => { set := w.set, write }

/-- The writes handed to the device in one call; without any no call is made. The queue keeps them
until it is cleared. -/
def update (w : DescriptorWriter) : Option (List DescriptorWrite) :=
  if w.pending.isEmpty then none else some w.writes

end DescriptorWriter

/-! ## Runs -/

/-- A call that changes a queue. -/
inductive WriterCall where
  | write (binding : Nat) (type : Int) (info : DescriptorInfo)
  | clear
deriving DecidableEq, Repr

/-- A call with its answer: for a write the element that it fills or its refusal. -/
structure WriterEvent where
  call : WriterCall
  answer : Option (Except CapacityExceeded Nat)

namespace DescriptorWriter

/-- Makes a call. Only a write is answered; `clear` always does what it should. -/
def call (w : DescriptorWriter) : WriterCall → WriterEvent × DescriptorWriter
  | .write binding type info =>
    match w.push binding type info with
    | (answer, w) => ({ call := .write binding type info, answer := some answer }, w)
  | .clear => ({ call := .clear, answer := none }, w.clear)

/-- Makes calls one after the other. Returns what happened and the queue that is left. -/
def run (w : DescriptorWriter) : List WriterCall → List WriterEvent × DescriptorWriter
  | [] => ([], w)
  | c :: rest =>
    match w.call c with
    | (event, w) =>
      match w.run rest with
      | (events, w) => (event :: events, w)

end DescriptorWriter

end ShaderBindings.Vulkan
