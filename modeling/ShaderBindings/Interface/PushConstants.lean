import ShaderBindings.Ascending
import ShaderBindings.Host.Layout
/-!
# Push constants

Each stage reads the bytes that the members of its push-constant block cover. The ranges of all
stages are cut at every boundary and put together again, as few as can be, each with the stages that
read it.

## Main definitions

* `Layout.blockRanges` - the bytes covered by the members of a block.
* `ShaderBindings.mergeRanges` - the ranges of all stages together.
* `ShaderBindings.pushRanges` - the push-constant ranges of all modules.
-/

set_option autoImplicit false

namespace ShaderBindings

/-- The bytes from `start` up to `stop`. The byte at `stop` is not among them, so a range that stops
where it starts is empty. -/
structure ByteRange where
  start : Nat
  stop : Nat
deriving DecidableEq, Repr

/-- Bytes with the stages that read them. -/
structure PushRange where
  start : Nat
  stop : Nat
  stages : StageSet
deriving DecidableEq

/-- The number of bytes; a range that ends before it starts has none. -/
def PushRange.size (r : PushRange) : Result Nat := Word.sub r.stop r.start

namespace Layout

/-- The ranges covered by members that follow the range `current`: members that touch are joined.
The ranges are those of the fields, so filler bytes between two members belong to none. -/
def joinMembers (l : Layout) (block : StructType) (current : Option ByteRange) :
    List Member → Result (List ByteRange)
  | [] => .ok current.toList
  | mem :: rest => do
    let context := contextOf block mem
    let (field, _) ← l.memberField block mem
    let stop ← inWord context .pushOverflow (Word.add? mem.offset field.size)
    match current with
    | none => l.joinMembers block (some { start := mem.offset, stop }) rest
    | some range =>
      if mem.offset < range.stop then
        .error (.layout context (.pushOverlap mem.offset range.stop))
      else if mem.offset = range.stop then
        l.joinMembers block (some { range with stop }) rest
      else
        let ranges ← l.joinMembers block (some { start := mem.offset, stop }) rest
        return range :: ranges

/-- The bytes covered by the members of a block, as few ranges as can be. -/
def blockRanges (l : Layout) (block : StructType) : Result (List ByteRange) :=
  l.joinMembers block none block.members

end Layout

/-- The ranges that a stage reads. -/
structure StageRanges where
  stage : Stage
  ranges : List ByteRange
deriving DecidableEq, Repr

namespace StageRanges

/-- Whether one of the ranges holds all bytes from `start` to `stop`. Two ranges that hold them
together do not count, which makes no difference between neighbouring boundaries. -/
def covers (s : StageRanges) (start stop : Nat) : Bool :=
  s.ranges.any fun r => r.start ≤ start && stop ≤ r.stop

/-- The stages that read all bytes from `start` to `stop`. -/
def readers (all : List StageRanges) (start stop : Nat) : StageSet :=
  (all.filter (·.covers start stop)).foldl (fun t s => t ∪ {s.stage}) ∅

/-- The bytes at which some range starts or stops, in ascending order. -/
def boundaries (all : List StageRanges) : List Nat :=
  Ascending.ofList (all.flatMap fun s => s.ranges.flatMap fun r => [r.start, r.stop])

/-- The pieces between neighbouring boundaries that some stage reads. No range begins or ends within
a piece, so a stage that reads one byte of it reads all of them. -/
def pieces (all : List StageRanges) : List PushRange :=
  let points := boundaries all
  (points.zip points.tail).filterMap fun (start, stop) =>
    let stages := readers all start stop
    if stages.isEmpty then none else some { start, stop, stages }

end StageRanges

/-- Joins neighbours that touch and are read by the same stages. It is a fold from the right: what
is behind the first piece is joined already, so only its first range has to be looked at. -/
def joinTouching : List PushRange → List PushRange
  | [] => []
  | p :: ps =>
    match joinTouching ps with
    | [] => [p]
    | q :: qs =>
      if p.stop = q.start ∧ p.stages = q.stages then { p with stop := q.stop } :: qs
      else p :: q :: qs

/-- The ranges of all stages together, as few as can be. Stages can be given several times, and
their ranges may overlap, touch or be empty. -/
def mergeRanges (all : List StageRanges) : List PushRange :=
  joinTouching (StageRanges.pieces all)

/-- The ranges of the first push-constant block of a module, if it has one. A module may have only
one that its entry point uses, so further blocks are left out. -/
def Layout.pushBlockRanges? (l : Layout) : Result (Option (List ByteRange)) :=
  match l.module.resources.pushConstantBlocks with
  | [] => .ok none
  | block :: _ =>
    match block.ty.base.structId? with
    | none => .error (.invalidModule (.pushBlockNotStruct block.name))
    | some id => do
      let st ← l.module.struct id
      some <$> l.blockRanges st

/-- The push-constant ranges of all modules, each given with its stage. Modules without such a block
have no part in them, but one whose block cannot be laid out makes the whole fail. -/
def pushRanges (modules : List (Stage × Layout)) : Result (List PushRange) := do
  let found ← modules.mapM fun (stage, l) => do
    let ranges? ← l.pushBlockRanges?
    return ranges?.map fun ranges => ({ stage, ranges } : StageRanges)
  return mergeRanges (found.filterMap id)

end ShaderBindings
