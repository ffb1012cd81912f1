import Mathlib.Data.List.Chain
import ShaderBindings.Interface.PushConstants
import ShaderBindings.Proofs.Sorted
/-!
# The canonical form of push ranges

Ranges that are told apart by the stages that read them have a canonical form: they ascend, none is
empty, and two of them touch only where the stages change. Merging the ranges of all stages gives
this form of the bytes that are read, whatever ranges they were given by.

## Main definitions

* `StageRanges.Reads` - a stage reads a byte.
* `PushRange.Covers` - among ranges, one of the stage holds the byte.
* `PushRange.IsOrdered`, `PushRange.IsCanonical` - ranges in order, as few as can be.

## Main results

* `PushRange.IsCanonical.eq_of_covers_iff` - canonical ranges that cover the same bytes are equal.
* `StageRanges.covers_pieces` - the pieces between boundaries cover what is read.
* `ShaderBindings.joinTouching_spec` - joining pieces that touch gives the canonical form.
* `ShaderBindings.mergeRanges_isCanonical` - merging gives the canonical form of what is read.
-/

set_option autoImplicit false

namespace ShaderBindings

/-! ## Bytes -/

/-- A byte is in a range from its first byte up to the one in front of its end. -/
instance : Membership Nat ByteRange := ⟨fun r byte => r.start ≤ byte ∧ byte < r.stop⟩

/-- A byte is in a range of some stages as in a range of bytes. -/
instance : Membership Nat PushRange := ⟨fun r byte => r.start ≤ byte ∧ byte < r.stop⟩

/-- What it is for a byte to be in a range. -/
theorem ByteRange.mem_iff {r : ByteRange} {byte : Nat} :
    byte ∈ r ↔ r.start ≤ byte ∧ byte < r.stop :=
  Iff.rfl

/-- What it is for a byte to be in a range of some stages. -/
theorem PushRange.mem_iff {r : PushRange} {byte : Nat} :
    byte ∈ r ↔ r.start ≤ byte ∧ byte < r.stop :=
  Iff.rfl

/-- The stage reads the byte: it lies in one of the ranges given with the stage. A stage can be
given several times, with ranges that overlap. -/
def StageRanges.Reads (all : List StageRanges) (stage : Stage) (byte : Nat) : Prop :=
  ∃ s ∈ all, s.stage = stage ∧ ∃ r ∈ s.ranges, byte ∈ r

namespace PushRange

/-- One of the ranges that the stage reads holds the byte. -/
def Covers (ranges : List PushRange) (stage : Stage) (byte : Nat) : Prop :=
  ∃ r ∈ ranges, stage ∈ r.stages ∧ byte ∈ r

/-- The ranges ascend and share no byte; each has bytes and is read by some stage. They can touch,
and there may be bytes between them that no stage reads. -/
structure IsOrdered (ranges : List PushRange) : Prop where
  lt : ∀ r ∈ ranges, r.start < r.stop
  read : ∀ r ∈ ranges, ∃ stage, stage ∈ r.stages
  apart : ranges.Pairwise fun p q => p.start < q.start ∧ p.stop ≤ q.start

/-- The ranges are as few as can be: where two of them touch, the stages change. There is only one
such list for given bytes and stages. -/
structure IsCanonical (ranges : List PushRange) : Prop extends IsOrdered ranges where
  minimal : ranges.IsChain fun p q => p.stop = q.start → p.stages ≠ q.stages

variable {p q : PushRange} {ps qs : List PushRange} {stage : Stage} {byte : Nat}

/-- No ranges cover nothing. -/
@[simp] theorem covers_nil : ¬Covers [] stage byte := by
  simp [Covers]

/-- Ranges cover what the first one does, and what the others do. -/
@[simp] theorem covers_cons :
    Covers (p :: ps) stage byte ↔ stage ∈ p.stages ∧ byte ∈ p ∨ Covers ps stage byte := by
  simp [Covers]

/-- Ranges are in order if the first one is not empty, has a stage and lies in front of the others,
and these are in order. -/
theorem isOrdered_cons :
    IsOrdered (p :: ps) ↔ p.start < p.stop ∧ (∃ stage, stage ∈ p.stages) ∧
      (∀ q ∈ ps, p.stop ≤ q.start) ∧ IsOrdered ps := by
  constructor
  · rintro ⟨hlt, hread, hapart⟩
    obtain ⟨hp, hps⟩ := List.forall_mem_cons.1 hlt
    obtain ⟨hp', hps'⟩ := List.forall_mem_cons.1 hread
    obtain ⟨hp'', hps''⟩ := List.pairwise_cons.1 hapart
    exact ⟨hp, hp', fun q hq => (hp'' q hq).2, hps, hps', hps''⟩
  · rintro ⟨hp, hp', hp'', hps⟩
    refine ⟨List.forall_mem_cons.2 ⟨hp, hps.lt⟩, List.forall_mem_cons.2 ⟨hp', hps.read⟩, ?_⟩
    refine List.pairwise_cons.2 ⟨fun q hq => ?_, hps.apart⟩
    exact ⟨Nat.lt_of_lt_of_le hp (hp'' q hq), hp'' q hq⟩

/-- Ranges are in canonical form if they are in order, the first one cannot be joined to the next,
and the others are in canonical form. -/
theorem isCanonical_cons :
    IsCanonical (p :: ps) ↔ IsOrdered (p :: ps) ∧
      (∀ q ∈ ps.head?, p.stop = q.start → p.stages ≠ q.stages) ∧ IsCanonical ps := by
  constructor
  · rintro ⟨hordered, hminimal⟩
    obtain ⟨hp, hps⟩ := List.isChain_cons.1 hminimal
    exact ⟨hordered, hp, (isOrdered_cons.1 hordered).2.2.2, hps⟩
  · rintro ⟨hordered, hp, hps⟩
    exact ⟨hordered, List.isChain_cons.2 ⟨hp, hps.minimal⟩⟩

/-! ## Ranges in order -/

/-- Whatever the other ranges cover stands behind the first one. -/
theorem IsOrdered.stop_le_of_covers (h : IsOrdered (p :: ps)) (hbyte : Covers ps stage byte) :
    p.stop ≤ byte := by
  obtain ⟨-, -, hapart, -⟩ := isOrdered_cons.1 h
  obtain ⟨q, hq, -, hmem⟩ := hbyte
  exact Nat.le_trans (hapart q hq) (mem_iff.1 hmem).1

/-- Nothing in front of the first range is covered. -/
theorem IsOrdered.start_le_of_covers (h : IsOrdered (p :: ps))
    (hbyte : Covers (p :: ps) stage byte) : p.start ≤ byte := by
  rcases covers_cons.1 hbyte with ⟨-, hmem⟩ | hps
  · exact (mem_iff.1 hmem).1
  · have hlt := (isOrdered_cons.1 h).1
    have hle := h.stop_le_of_covers hps
    omega

/-- The bytes of the first range are read by its stages only.

**Proof sketch.** The other ranges lie behind the first one (`IsOrdered.stop_le_of_covers`). -/
theorem IsOrdered.covers_first_iff (h : IsOrdered (p :: ps)) (hbyte : byte ∈ p) :
    Covers (p :: ps) stage byte ↔ stage ∈ p.stages := by
  rw [covers_cons]
  constructor
  · rintro (⟨hstage, -⟩ | hps)
    · exact hstage
    · have hle := h.stop_le_of_covers hps
      have hlt := (mem_iff.1 hbyte).2
      omega
  · exact fun hstage => .inl ⟨hstage, hbyte⟩

/-- The other ranges cover what is covered behind the first one.

**Proof sketch.** Nothing behind the first range is in it, and all of the others is behind it
(`IsOrdered.stop_le_of_covers`). -/
theorem IsOrdered.covers_rest_iff (h : IsOrdered (p :: ps)) :
    Covers ps stage byte ↔ p.stop ≤ byte ∧ Covers (p :: ps) stage byte := by
  constructor
  · exact fun hps => ⟨h.stop_le_of_covers hps, covers_cons.2 (.inr hps)⟩
  · rintro ⟨hle, hbyte⟩
    rcases covers_cons.1 hbyte with ⟨-, hmem⟩ | hps
    · have hlt := (mem_iff.1 hmem).2
      omega
    · exact hps

/-- The first byte of the first range is covered. -/
theorem IsOrdered.exists_covers (h : IsOrdered (p :: ps)) :
    ∃ stage, Covers (p :: ps) stage p.start := by
  obtain ⟨hlt, ⟨stage, hstage⟩, -⟩ := isOrdered_cons.1 h
  exact ⟨stage, covers_cons.2 (.inl ⟨hstage, Nat.le_refl _, hlt⟩)⟩

/-! ## The canonical form -/

section Unique

variable (h : IsCanonical (p :: ps)) (h' : IsCanonical (q :: qs))
  (hsame : ∀ stage byte, Covers (p :: ps) stage byte ↔ Covers (q :: qs) stage byte)
include h h' hsame

/-- The first range of one form starts no later than that of the other, whose first byte it covers,
too. -/
theorem IsCanonical.start_le : q.start ≤ p.start := by
  obtain ⟨stage, hstage⟩ := h.exists_covers
  exact h'.start_le_of_covers ((hsame stage _).1 hstage)

/-- Where two canonical forms start alike, neither goes on behind the end of the other.

**Proof sketch.** Otherwise the byte behind the shorter range is read by the same stages as the
range itself. The next range holds that byte, so it touches the first one without a change of
stages. -/
theorem IsCanonical.stop_le (hstart : p.start = q.start) (hstages : p.stages = q.stages) :
    q.stop ≤ p.stop := by
  by_contra hlt
  obtain ⟨hpos, ⟨stage, hstage⟩, hapart, -⟩ := isOrdered_cons.1 h.toIsOrdered
  have hmem : p.stop ∈ q := ⟨by omega, by omega⟩
  have hread (s : Stage) : Covers ps s p.stop ↔ s ∈ p.stages := by
    rw [h.covers_rest_iff, hsame, h'.covers_first_iff hmem, hstages]
    exact and_iff_right (Nat.le_refl _)
  cases ps with
  | nil => exact covers_nil ((hread stage).2 hstage)
  | cons r rs =>
    obtain ⟨-, hchange, hrest⟩ := isCanonical_cons.1 h
    have htouch : p.stop = r.start :=
      Nat.le_antisymm (hapart r List.mem_cons_self)
        (hrest.start_le_of_covers ((hread stage).2 hstage))
    refine hchange r rfl htouch (StageSet.eq_of_mem_iff fun s => ?_)
    have hr : p.stop ∈ r :=
      ⟨Nat.le_of_eq htouch.symm, htouch ▸ (isOrdered_cons.1 hrest.toIsOrdered).1⟩
    rw [← hread s, hrest.covers_first_iff hr]

end Unique

/-- Canonical forms that cover the same bytes begin with the same range.

**Proof sketch.** They start at the same byte (`IsCanonical.start_le`, both ways round). This byte
is read by the stages of both, so the stages are the same, and then they stop at the same byte
(`IsCanonical.stop_le`). -/
theorem IsCanonical.first_eq (h : IsCanonical (p :: ps)) (h' : IsCanonical (q :: qs))
    (hsame : ∀ stage byte, Covers (p :: ps) stage byte ↔ Covers (q :: qs) stage byte) : p = q := by
  have hsame' : ∀ stage byte, Covers (q :: qs) stage byte ↔ Covers (p :: ps) stage byte :=
    fun stage byte => (hsame stage byte).symm
  have hstart : p.start = q.start := Nat.le_antisymm (h'.start_le h hsame') (h.start_le h' hsame)
  have hp : p.start ∈ p := ⟨Nat.le_refl _, (isOrdered_cons.1 h.toIsOrdered).1⟩
  have hq : p.start ∈ q := hstart ▸ ⟨Nat.le_refl _, (isOrdered_cons.1 h'.toIsOrdered).1⟩
  have hstages : p.stages = q.stages := by
    refine StageSet.eq_of_mem_iff fun stage => ?_
    rw [← h.covers_first_iff hp, hsame, h'.covers_first_iff hq]
  have hstop : p.stop = q.stop :=
    Nat.le_antisymm (h'.stop_le h hsame' hstart.symm hstages.symm)
      (h.stop_le h' hsame hstart hstages)
  cases p
  cases q
  simp_all

/-- Canonical ranges are determined by the bytes that they cover for each stage.

**Proof sketch.** Induction on the ranges. The first ranges are equal (`IsCanonical.first_eq`), and
what is covered behind them is what the others cover (`IsOrdered.covers_rest_iff`). -/
theorem IsCanonical.eq_of_covers_iff (h : IsCanonical ps) (h' : IsCanonical qs)
    (hsame : ∀ stage byte, Covers ps stage byte ↔ Covers qs stage byte) : ps = qs := by
  induction ps generalizing qs with
  | nil =>
    cases qs with
    | nil => rfl
    | cons q qs =>
      obtain ⟨stage, hstage⟩ := h'.exists_covers
      exact absurd ((hsame stage _).2 hstage) covers_nil
  | cons p ps ih =>
    cases qs with
    | nil =>
      obtain ⟨stage, hstage⟩ := h.exists_covers
      exact absurd ((hsame stage _).1 hstage) covers_nil
    | cons q qs =>
      obtain rfl := h.first_eq h' hsame
      have hrest : ∀ stage byte, Covers ps stage byte ↔ Covers qs stage byte := by
        intro stage byte
        rw [h.covers_rest_iff, h'.covers_rest_iff, hsame]
      rw [ih (isCanonical_cons.1 h).2.2 (isCanonical_cons.1 h').2.2 hrest]

end PushRange

/-! ## Pieces -/

namespace StageRanges

variable {all : List StageRanges} {stage : Stage} {start stop byte : Nat}

/-- A stage covers a piece if one of its ranges holds it. -/
theorem covers_eq_true_iff {s : StageRanges} :
    s.covers start stop = true ↔ ∃ r ∈ s.ranges, r.start ≤ start ∧ stop ≤ r.stop := by
  simp [covers]

/-- A stage is collected if one of the given ranges is its own. -/
theorem mem_foldl_stage {found : StageSet} :
    stage ∈ all.foldl (fun t s => t ∪ {s.stage}) found ↔
      stage ∈ found ∨ ∃ s ∈ all, s.stage = stage := by
  induction all generalizing found with
  | nil => simp
  | cons s all ih =>
    rw [List.foldl_cons, ih, StageSet.mem_union, StageSet.mem_singleton, List.exists_mem_cons_iff,
      or_assoc, eq_comm (a := stage)]

/-- The readers of a piece are the stages with a range around it. -/
theorem mem_readers :
    stage ∈ readers all start stop ↔
      ∃ s ∈ all, s.stage = stage ∧ ∃ r ∈ s.ranges, r.start ≤ start ∧ stop ≤ r.stop := by
  rw [readers, mem_foldl_stage]
  simp only [StageSet.notMem_empty, false_or, List.mem_filter, covers_eq_true_iff]
  constructor
  · rintro ⟨s, ⟨hs, hr⟩, hstage⟩
    exact ⟨s, hs, hstage, hr⟩
  · rintro ⟨s, hs, hstage, hr⟩
    exact ⟨s, ⟨hs, hr⟩, hstage⟩

/-- The boundaries are where ranges start or stop. -/
theorem mem_boundaries :
    byte ∈ boundaries all ↔ ∃ s ∈ all, ∃ r ∈ s.ranges, byte = r.start ∨ byte = r.stop := by
  simp [boundaries]

/-- The boundaries ascend. -/
theorem pairwise_boundaries (all : List StageRanges) : (boundaries all).Pairwise (· < ·) :=
  Ascending.pairwise_ofList _

/-- A piece lies between two neighbouring boundaries, is read, and has as its stages all that read
it. -/
theorem mem_pieces {p : PushRange} :
    p ∈ pieces all ↔ (p.start, p.stop) ∈ (boundaries all).zip (boundaries all).tail ∧
      (∃ stage, stage ∈ p.stages) ∧ p.stages = readers all p.start p.stop := by
  simp only [pieces, List.mem_filterMap, Prod.exists]
  constructor
  · rintro ⟨start, stop, hmem, hp⟩
    split at hp
    · cases hp
    · next hread =>
      cases hp
      exact ⟨hmem, StageSet.isEmpty_eq_false_iff.1 (by simpa using hread), rfl⟩
  · rintro ⟨hmem, hread, hstages⟩
    refine ⟨p.start, p.stop, hmem, ?_⟩
    rw [← hstages, if_neg (by simp [StageSet.isEmpty_eq_false_iff.2 hread])]

/-- No piece is empty. -/
theorem lt_of_mem_pieces {p : PushRange} (hp : p ∈ pieces all) : p.start < p.stop :=
  Ascending.lt_of_mem_zip_tail (pairwise_boundaries all) (mem_pieces.1 hp).1

/-- The pieces between boundaries are in order.

**Proof sketch.** Boundaries ascend, so two pieces between neighbours do not overlap
(`Ascending.pairwise_zip_tail`). -/
theorem isOrdered_pieces (all : List StageRanges) : PushRange.IsOrdered (pieces all) where
  lt := fun _ hp => lt_of_mem_pieces hp
  read := fun _ hp => (mem_pieces.1 hp).2.1
  apart := by
    have hstop : (pieces all).Pairwise fun p q => p.stop ≤ q.start := by
      refine List.pairwise_filterMap.2 ?_
      refine (Ascending.pairwise_zip_tail (pairwise_boundaries all)).imp ?_
      rintro ⟨start, stop⟩ ⟨start', stop'⟩ hle p hp q hq
      obtain ⟨-, hp⟩ := Option.ite_none_left_eq_some.1 hp
      obtain ⟨-, hq⟩ := Option.ite_none_left_eq_some.1 hq
      cases hp
      cases hq
      exact hle
    refine hstop.imp_of_mem fun hp _ hle => ⟨?_, hle⟩
    exact Nat.lt_of_lt_of_le (lt_of_mem_pieces hp) hle

/-- The pieces cover what is read.

**Proof sketch.** A byte that is read lies between two neighbouring boundaries. The range that it is
read through starts and stops at boundaries, so it does not end between these two. -/
theorem covers_pieces : PushRange.Covers (pieces all) stage byte ↔ Reads all stage byte := by
  constructor
  · rintro ⟨p, hp, hstage, hbyte⟩
    obtain ⟨-, -, hstages⟩ := mem_pieces.1 hp
    obtain ⟨s, hs, rfl, r, hr, hstart, hstop⟩ := mem_readers.1 (hstages ▸ hstage)
    obtain ⟨hle, hlt⟩ := PushRange.mem_iff.1 hbyte
    exact ⟨s, hs, rfl, r, hr, Nat.le_trans hstart hle, Nat.lt_of_lt_of_le hlt hstop⟩
  · rintro ⟨s, hs, rfl, r, hr, hle, hlt⟩
    have hstart : r.start ∈ boundaries all := mem_boundaries.2 ⟨s, hs, r, hr, .inl rfl⟩
    have hstop : r.stop ∈ boundaries all := mem_boundaries.2 ⟨s, hs, r, hr, .inr rfl⟩
    obtain ⟨⟨start, stop⟩, hpair, hstartle, hltstop, hclosest⟩ :=
      Ascending.exists_neighbours (pairwise_boundaries all) ⟨_, hstart, hle⟩ ⟨_, hstop, hlt⟩
    have hread : s.stage ∈ readers all start stop :=
      mem_readers.2 ⟨s, hs, rfl, r, hr, (hclosest _ hstart).1 hle, (hclosest _ hstop).2 hlt⟩
    exact ⟨{ start, stop, stages := readers all start stop },
      mem_pieces.2 ⟨hpair, ⟨_, hread⟩, rfl⟩, hread, hstartle, hltstop⟩

end StageRanges

/-! ## Joining pieces -/

namespace PushRange

variable {p q : PushRange} {qs : List PushRange} {stage : Stage} {byte : Nat}

/-- A range in front of canonical ones, with which it shares no byte. -/
theorem isOrdered_cons_of_covers (hlt : p.start < p.stop) (hread : ∃ stage, stage ∈ p.stages)
    (hapart : ∀ stage byte, Covers qs stage byte → p.stop ≤ byte) (h : IsOrdered qs) :
    IsOrdered (p :: qs) := by
  refine isOrdered_cons.2 ⟨hlt, hread, fun q hq => ?_, h⟩
  obtain ⟨stage, hstage⟩ := h.read q hq
  exact hapart stage q.start ⟨q, hq, hstage, Nat.le_refl _, h.lt q hq⟩

/-- A range joined to the first of canonical ranges, which it touches.

**Proof sketch.** The joined range has the stages and the end of the first of the old ones, so it is
in front of the others as this was. The bytes of the two are those from the start of the one to the
end of the other, because they touch. -/
theorem IsCanonical.join (h : IsCanonical (q :: qs)) (hlt : p.start < p.stop)
    (htouch : p.stop = q.start) (hstages : p.stages = q.stages) :
    IsCanonical ({ p with stop := q.stop } :: qs) ∧
      ∀ stage byte, Covers ({ p with stop := q.stop } :: qs) stage byte ↔
        Covers (p :: q :: qs) stage byte := by
  obtain ⟨hordered, hchange, hrest⟩ := isCanonical_cons.1 h
  obtain ⟨hqlt, hread, hapart, hqs⟩ := isOrdered_cons.1 hordered
  constructor
  · refine isCanonical_cons.2 ⟨isOrdered_cons.2 ⟨?_, hstages ▸ hread, hapart, hqs⟩, ?_, hrest⟩
    · change p.start < q.stop
      omega
    · exact fun r hr hstop => hstages ▸ hchange r hr hstop
  · intro stage byte
    rw [covers_cons, covers_cons, covers_cons, ← or_assoc, hstages, ← and_or_left]
    refine or_congr_left (and_congr_right fun _ => ?_)
    simp only [mem_iff]
    omega

end PushRange

/-- Pieces in order, joined where they touch and are read alike, are in canonical form and cover
the same bytes.

**Proof sketch.** Induction on the pieces: the others are joined already, and the first one is put
in front of them or becomes one with the first of them. -/
theorem joinTouching_spec {ps : List PushRange} (h : PushRange.IsOrdered ps) :
    PushRange.IsCanonical (joinTouching ps) ∧ ∀ stage byte,
      PushRange.Covers (joinTouching ps) stage byte ↔ PushRange.Covers ps stage byte := by
  induction ps with
  | nil => exact ⟨⟨h, .nil⟩, fun _ _ => Iff.rfl⟩
  | cons p ps ih =>
    obtain ⟨hlt, hread, -, hps⟩ := PushRange.isOrdered_cons.1 h
    obtain ⟨hcanonical, hcovers⟩ := ih hps
    have hordered : PushRange.IsOrdered (p :: joinTouching ps) :=
      PushRange.isOrdered_cons_of_covers hlt hread
        (fun stage byte hbyte => h.stop_le_of_covers ((hcovers stage byte).1 hbyte))
        hcanonical.toIsOrdered
    have hsame (stage : Stage) (byte : Nat) :
        PushRange.Covers (p :: joinTouching ps) stage byte ↔
          PushRange.Covers (p :: ps) stage byte := by
      rw [PushRange.covers_cons, PushRange.covers_cons, hcovers]
    rw [joinTouching]
    split
    · next hnone =>
      rw [hnone] at hordered hsame
      exact ⟨⟨hordered, .singleton p⟩, hsame⟩
    · next q qs hsome =>
      rw [hsome] at hcanonical hordered hsame
      split
      · next hjoin =>
        obtain ⟨hjoined, hcovered⟩ := hcanonical.join hlt hjoin.1 hjoin.2
        exact ⟨hjoined, fun stage byte => (hcovered stage byte).trans (hsame stage byte)⟩
      · next hapart =>
        refine ⟨PushRange.isCanonical_cons.2 ⟨hordered, ?_, hcanonical⟩, hsame⟩
        rintro _ ⟨⟩ htouch hstages
        exact hapart ⟨htouch, hstages⟩

/-- **Merged ranges are the canonical form of what is read.** They cover for each stage the bytes
that some range given with the stage holds, in ascending order and in as few ranges as can be. So
ranges that come to the same bytes for every stage, in whatever order and pieces they are given, are
merged to the same ranges.

**Proof sketch.** The pieces cover what is read (`StageRanges.covers_pieces`), and joining them
gives a canonical form that covers the same (`joinTouching_spec`). There is only one canonical form
for what is covered (`PushRange.IsCanonical.eq_of_covers_iff`). -/
theorem mergeRanges_isCanonical (all : List StageRanges) :
    (∀ stage byte, PushRange.Covers (mergeRanges all) stage byte ↔
      StageRanges.Reads all stage byte) ∧
    PushRange.IsCanonical (mergeRanges all) ∧
    ∀ all', (∀ stage byte, StageRanges.Reads all stage byte ↔ StageRanges.Reads all' stage byte) →
      mergeRanges all' = mergeRanges all := by
  have hspec (all : List StageRanges) := joinTouching_spec (StageRanges.isOrdered_pieces all)
  have hcovers (all : List StageRanges) (stage : Stage) (byte : Nat) :
      PushRange.Covers (mergeRanges all) stage byte ↔ StageRanges.Reads all stage byte :=
    ((hspec all).2 stage byte).trans StageRanges.covers_pieces
  refine ⟨hcovers all, (hspec all).1, fun all' hsame => ?_⟩
  refine (hspec all').1.eq_of_covers_iff (hspec all).1 fun stage byte => ?_
  exact (hcovers all' stage byte).trans
    ((hsame stage byte).symm.trans (hcovers all stage byte).symm)

/-- A merged range has bytes, and its last byte is in one of the ranges that were merged.

**Proof sketch.** The last byte of a merged range is covered, so it is in a piece and this in a
range that some stage was given. -/
theorem exists_stop_le_of_mem_mergeRanges {all : List StageRanges} {p : PushRange}
    (hp : p ∈ mergeRanges all) :
    p.start < p.stop ∧ ∃ s ∈ all, ∃ r ∈ s.ranges, p.stop ≤ r.stop := by
  obtain ⟨hcanonical, hcovers⟩ := joinTouching_spec (StageRanges.isOrdered_pieces all)
  have hlt := hcanonical.lt p hp
  obtain ⟨stage, hstage⟩ := hcanonical.read p hp
  have hlast : PushRange.Covers (mergeRanges all) stage (p.stop - 1) :=
    ⟨p, hp, hstage, PushRange.mem_iff.2 ⟨by omega, by omega⟩⟩
  obtain ⟨s, hs, -, r, hr, -, hstop⟩ :=
    StageRanges.covers_pieces.1 ((hcovers stage _).1 hlast)
  exact ⟨hlt, s, hs, r, hr, by omega⟩

/-- Ranges of two stages that overlap, and one that ends before it starts. -/
def overlappingRanges : List StageRanges :=
  [{ stage := .vertex, ranges := [⟨0, 16⟩] }, { stage := .fragment, ranges := [⟨6, 2⟩, ⟨8, 24⟩] }]

/-- The same bytes, the stages in another order and one of the ranges in two. So it has to be merged
to the same result as `overlappingRanges`. -/
def dividedRanges : List StageRanges :=
  [{ stage := .fragment, ranges := [⟨16, 24⟩] }, { stage := .vertex, ranges := [⟨0, 16⟩] },
   { stage := .fragment, ranges := [⟨8, 16⟩, ⟨9, 12⟩] }]

/-- Dividing ranges and changing their order makes no difference to what they are merged to.

**Proof sketch.** That the two come to the same bytes is checked stage by stage. What follows is a
case of `mergeRanges_isCanonical`. -/
theorem mergeRanges_dividedRanges :
    (∀ stage byte, StageRanges.Reads overlappingRanges stage byte ↔
      StageRanges.Reads dividedRanges stage byte) ∧
    mergeRanges dividedRanges = mergeRanges overlappingRanges ∧
    mergeRanges overlappingRanges =
      [{ start := 0, stop := 8, stages := {.vertex} },
       { start := 8, stop := 16, stages := {.vertex} ∪ {.fragment} },
       { start := 16, stop := 24, stages := {.fragment} }] := by
  have hsame : ∀ stage byte, StageRanges.Reads overlappingRanges stage byte ↔
      StageRanges.Reads dividedRanges stage byte := by
    intro stage byte
    simp only [StageRanges.Reads, overlappingRanges, dividedRanges, List.exists_mem_cons_iff,
      List.not_mem_nil, false_and, exists_false, or_false, ByteRange.mem_iff]
    cases stage with
    | fragment =>
      simp only [reduceCtorEq, true_and, false_and, false_or]
      omega
    | _ => simp
  exact ⟨hsame, (mergeRanges_isCanonical overlappingRanges).2.2 dividedRanges hsame, by decide⟩

end ShaderBindings
