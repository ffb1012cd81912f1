import ShaderBindings.Proofs.Host.Elements
import ShaderBindings.Proofs.Host.Numbers
import ShaderBindings.Proofs.Interface.PushRanges
/-!
# Ranges of a block and fields of its declaration

Two walks go over the members of a push-constant block. The one puts them into a declaration, with
fillers between them, the other joins them to ranges of bytes. Both want every member to start
behind the one before, and come to the same bytes: those that the ranges hold are those of the
fields that are no fillers.

## Main definitions

* `Layout.InOrder` - members that start behind one another.
* `Field.Holds`, `Layout.Reaches` - the bytes of a field, and those of members.
* `ByteRange.extend` - the range that is put together, with a further member.

## Main results

* `Layout.exists_joinMembers_iff` - the ranges are found exactly if the members are in order.
* `Layout.pairwise_of_joinMembers`, `Layout.mem_joinMembers_iff` - they are apart, and hold the
  bytes of the members.
* `Tiles.eq_of_holds` - of touching fields, no two hold the same byte.
* `Layout.blockRanges_agree` - the ranges of a block and the fields of its declaration.
-/

set_option autoImplicit false

namespace ShaderBindings

/-! ## Bytes of fields -/

/-- The byte is one of the field. Filler bytes inside the type of a field count as bytes of the
field. -/
def Field.Holds (f : Field) (byte : Nat) : Prop := f.offset ≤ byte ∧ byte < f.offset + f.size

/-- Fields that touch one another from `start` on have no byte in front of it, since none of them
starts there. -/
theorem Tiles.le_of_holds {start stop byte : Nat} {fields : List Field}
    (h : Tiles start fields stop) {f : Field} (hf : f ∈ fields) (hbyte : f.Holds byte) :
    start ≤ byte := by
  induction fields generalizing start with
  | nil => cases hf
  | cons g fields ih =>
    obtain ⟨hoffset, hrest⟩ := h
    rcases List.mem_cons.1 hf with rfl | hf
    · exact hoffset ▸ hbyte.1
    · exact Nat.le_of_add_right_le (ih hrest hf)

/-- Fields that touch one another leave out no byte.

**Proof sketch.** Induction on the fields. A byte that is not in the first one is behind it, where
the others start. -/
theorem Tiles.exists_holds {start stop byte : Nat} {fields : List Field}
    (h : Tiles start fields stop) (hle : start ≤ byte) (hlt : byte < stop) :
    ∃ f ∈ fields, f.Holds byte := by
  induction fields generalizing start with
  | nil =>
    obtain rfl : start = stop := h
    omega
  | cons f fields ih =>
    obtain ⟨rfl, hrest⟩ := h
    rcases Nat.lt_or_ge byte (f.offset + f.size) with hin | hbehind
    · exact ⟨f, List.mem_cons_self, hle, hin⟩
    · obtain ⟨g, hg, hbyte⟩ := ih hrest hbehind
      exact ⟨g, List.mem_cons_of_mem _ hg, hbyte⟩

/-- No two fields that touch one another hold the same byte.

**Proof sketch.** Induction on the fields. The bytes of all others are behind the first one
(`Tiles.le_of_holds`). -/
theorem Tiles.eq_of_holds {start stop byte : Nat} {fields : List Field}
    (h : Tiles start fields stop) {f g : Field} (hf : f ∈ fields) (hg : g ∈ fields)
    (hfbyte : f.Holds byte) (hgbyte : g.Holds byte) : f = g := by
  induction fields generalizing start with
  | nil => cases hf
  | cons first fields ih =>
    obtain ⟨rfl, hrest⟩ := h
    have hbehind {k : Field} (hk : k ∈ fields) (hkbyte : k.Holds byte) : ¬first.Holds byte :=
      fun hfirst => Nat.not_le.2 hfirst.2 (hrest.le_of_holds hk hkbyte)
    rcases List.mem_cons.1 hf with rfl | hf' <;> rcases List.mem_cons.1 hg with rfl | hg'
    · rfl
    · exact absurd hfbyte (hbehind hg' hgbyte)
    · exact absurd hgbyte (hbehind hf' hfbyte)
    · exact ih hrest hf' hg'

/-! ## Extending a range -/

/-- What becomes of a range that is put together when a further one comes behind it: the ranges that
are complete then, and the one that goes on. -/
def ByteRange.extend (current : Option ByteRange) (next : ByteRange) : List ByteRange × ByteRange :=
  match current with
  | none => ([], next)
  | some range =>
    if next.start = range.stop then ([], { range with stop := next.stop }) else ([range], next)

namespace ByteRange

variable {current : Option ByteRange} {next : ByteRange}

/-- The range that goes on ends where the new one does. -/
theorem stop_extend : (extend current next).2.stop = next.stop := by
  unfold extend
  split
  · rfl
  · split <;> rfl

/-- The range that goes on starts no later than the further one, and behind complete ranges.

**Proof sketch.** If the two touch they are joined, and the range starts where the old one did. If
not, the old one is complete, and it ends in front of the new one. -/
theorem extend_spec (hcurrent : ∀ c ∈ current, c.start ≤ c.stop ∧ c.stop ≤ next.start) :
    (extend current next).2.start ≤ next.start ∧
      (∀ c ∈ current, c.start ≤ (extend current next).2.start) ∧
      (∀ r ∈ (extend current next).1, r ∈ current ∧ r.stop < (extend current next).2.start) := by
  unfold extend
  split
  · simp
  · next range =>
    obtain ⟨hle, hnext⟩ := hcurrent range rfl
    split
    · simp only [Option.mem_some_iff, forall_eq', List.not_mem_nil, false_imp_iff, implies_true,
        and_true]
      omega
    · simp only [Option.mem_some_iff, forall_eq', List.mem_singleton, forall_eq, true_and]
      omega

/-- The range that goes on does not run backwards. -/
theorem start_le_stop_extend (hcurrent : ∀ c ∈ current, c.start ≤ c.stop ∧ c.stop ≤ next.start)
    (hnext : next.start ≤ next.stop) :
    (extend current next).2.start ≤ (extend current next).2.stop := by
  rw [stop_extend]
  exact Nat.le_trans (extend_spec hcurrent).1 hnext

/-- Only the old range can become complete. -/
theorem mem_of_mem_extend {r : ByteRange} (h : r ∈ (extend current next).1) : r ∈ current := by
  unfold extend at h
  split at h
  · cases h
  · split at h
    · cases h
    · exact congrArg some (List.mem_singleton.1 h).symm

/-- At most one range becomes complete, so any relation holds between two of them. -/
theorem pairwise_extend (R : ByteRange → ByteRange → Prop) :
    (extend current next).1.Pairwise R := by
  unfold extend
  split
  · exact .nil
  · split
    · exact .nil
    · exact List.pairwise_singleton _ _

/-- Nothing is lost or added, whether the ranges are joined or not. -/
theorem mem_extend_iff (hcurrent : ∀ c ∈ current, c.start ≤ c.stop ∧ c.stop ≤ next.start)
    (hnext : next.start ≤ next.stop) (byte : Nat) :
    ((∃ r ∈ (extend current next).1, byte ∈ r) ∨ byte ∈ (extend current next).2) ↔
      (∃ c ∈ current, byte ∈ c) ∨ byte ∈ next := by
  unfold extend
  split
  · simp
  · next range =>
    obtain ⟨hle, hnext'⟩ := hcurrent range rfl
    split
    · simp only [List.not_mem_nil, false_and, exists_false, false_or, Option.mem_some_iff,
        exists_eq_left', mem_iff]
      omega
    · simp

end ByteRange

namespace Layout

variable {l : Layout} {block owner : StructType} {current : Option ByteRange} {start : Nat}
  {mem : Member} {members : List Member} {ranges : List ByteRange}

/-! ## Members in order -/

/-- The members have fields, each starts behind the one before, and their ends are words.

It is asked from a byte `start` on, as the two loops are that it is compared with: one forms the
ranges of push constants, the other the declaration. -/
def InOrder (l : Layout) (owner : StructType) (start : Nat) : List Member → Prop
  | [] => True
  | mem :: rest => ∃ field align, l.memberField owner mem = .ok (field, align) ∧
      start ≤ mem.offset ∧ mem.offset + field.size < Word.bound ∧
      l.InOrder owner (mem.offset + field.size) rest

/-- Members that are laid out are in order: laying out one after the other checks just this, among
other things. -/
theorem inOrder_of_placeMembers {laid : Laid} (h : l.placeMembers owner start members = .ok laid) :
    l.InOrder owner start members := by
  induction members generalizing start laid with
  | nil => trivial
  | cons mem rest ih =>
    obtain ⟨field, align, laid', hfield, hle, -, -, hlt, hrest, -⟩ :=
      placeMembers_cons_eq_ok_iff.1 h
    exact ⟨field, align, hfield, hle, hlt, ih hrest⟩

/-- In order, a member does not start in front of the end of the one before.

**Proof sketch.** Induction on the members. The second one has to start behind the end of the
first. -/
theorem InOrder.le_offset (h : l.InOrder owner start members) {i : Nat} {next : Member}
    (hmem : members[i]? = some mem) (hnext : members[i + 1]? = some next) {field : Field}
    {align : Nat} (hfield : l.memberField owner mem = .ok (field, align)) :
    mem.offset + field.size ≤ next.offset := by
  induction members generalizing start i with
  | nil => cases hmem
  | cons first rest ih =>
    obtain ⟨field', align', hfield', -, -, hrest⟩ := h
    cases i with
    | zero =>
      cases hmem
      cases hfield.symm.trans hfield'
      cases rest with
      | nil => cases hnext
      | cons second rest =>
        cases hnext
        obtain ⟨_, _, -, hle, -⟩ := hrest
        exact hle
    | succ i => exact ih hrest hmem hnext

/-! ## Ranges -/

/-- What joining one more member comes to.

**Proof sketch.** Without a range to go on from nothing is checked but the end. With one the member
may touch it, and then the two are joined, or not, and then it is complete. -/
theorem joinMembers_cons_eq_ok_iff :
    l.joinMembers block current (mem :: members) = .ok ranges ↔
      ∃ field align, l.memberField block mem = .ok (field, align) ∧
        mem.offset + field.size < Word.bound ∧ (∀ c ∈ current, c.stop ≤ mem.offset) ∧
        ∃ others, l.joinMembers block
            (some (ByteRange.extend current ⟨mem.offset, mem.offset + field.size⟩).2) members =
              .ok others ∧
          ranges =
            (ByteRange.extend current ⟨mem.offset, mem.offset + field.size⟩).1 ++ others := by
  simp only [joinMembers, Result.bind_eq_ok_iff, inWord_add?_eq_ok_iff, Prod.exists]
  refine exists_congr fun field => exists_congr fun align => and_congr_right fun _ => ?_
  cases current with
  | none =>
    constructor
    · rintro ⟨_, ⟨hlt, rfl⟩, h⟩
      exact ⟨hlt, by simp, ranges, h, rfl⟩
    · rintro ⟨hlt, -, others, h, rfl⟩
      exact ⟨_, ⟨hlt, rfl⟩, h⟩
  | some range =>
    simp only [Result.ite_error_eq_ok_iff, Nat.not_lt, Option.mem_some_iff, forall_eq',
      ByteRange.extend]
    by_cases htouch : mem.offset = range.stop
    · simp only [if_pos htouch]
      constructor
      · rintro ⟨_, ⟨hlt, rfl⟩, hle, h⟩
        exact ⟨hlt, hle, ranges, h, rfl⟩
      · rintro ⟨hlt, hle, others, h, rfl⟩
        exact ⟨_, ⟨hlt, rfl⟩, hle, h⟩
    · simp only [if_neg htouch, Result.bind_eq_ok_iff]
      constructor
      · rintro ⟨_, ⟨hlt, rfl⟩, hle, others, h, heq⟩
        cases heq
        exact ⟨hlt, hle, others, h, rfl⟩
      · rintro ⟨hlt, hle, others, h, rfl⟩
        exact ⟨_, ⟨hlt, rfl⟩, hle, others, h, rfl⟩

/-- The ranges are found exactly if the members are in order.

**Proof sketch.** Induction on the members. What is checked for each is its end and its start,
against the end of the range that goes on, and that is the end of the member before it
(`ByteRange.stop_extend`). -/
theorem exists_joinMembers_iff :
    (∃ ranges, l.joinMembers block current members = .ok ranges) ↔
      l.InOrder block ((current.map (·.stop)).getD 0) members := by
  induction members generalizing current with
  | nil => exact ⟨fun _ => trivial, fun _ => ⟨_, rfl⟩⟩
  | cons mem rest ih =>
    have hstart : (∀ c ∈ current, c.stop ≤ mem.offset) ↔
        (current.map (·.stop)).getD 0 ≤ mem.offset := by
      cases current <;> simp
    have hrest (stop : Nat) : (∃ ranges, l.joinMembers block
          (some (ByteRange.extend current ⟨mem.offset, stop⟩).2) rest = .ok ranges) ↔
        l.InOrder block stop rest := by
      rw [ih, Option.map_some, Option.getD_some, ByteRange.stop_extend]
    simp only [joinMembers_cons_eq_ok_iff, InOrder, ← hstart]
    constructor
    · rintro ⟨ranges, field, align, hfield, hlt, hle, others, hothers, -⟩
      exact ⟨field, align, hfield, hle, hlt, (hrest _).1 ⟨others, hothers⟩⟩
    · rintro ⟨field, align, hfield, hle, hlt, hothers⟩
      obtain ⟨others, hothers⟩ := (hrest _).2 hothers
      exact ⟨_, field, align, hfield, hlt, hle, others, hothers, rfl⟩

/-- The ranges of members are apart, and none starts in front of the range that they follow.

**Proof sketch.** Induction on the members. A range is complete when a member starts behind it, and
all that follow start no earlier than the range that goes on. -/
theorem pairwise_of_joinMembers (h : l.joinMembers block current members = .ok ranges)
    (hcurrent : ∀ c ∈ current, c.start ≤ c.stop) :
    (∀ r ∈ ranges, r.start ≤ r.stop ∧ ∀ c ∈ current, c.start ≤ r.start) ∧
      ranges.Pairwise fun p q => p.stop < q.start := by
  induction members generalizing current ranges with
  | nil =>
    cases h
    cases current with
    | none => simp
    | some range => simpa using hcurrent
  | cons mem rest ih =>
    obtain ⟨field, align, -, -, hle, others, hothers, rfl⟩ := joinMembers_cons_eq_ok_iff.1 h
    set next : ByteRange := ⟨mem.offset, mem.offset + field.size⟩
    have hbounds (c : ByteRange) (hc : c ∈ current) : c.start ≤ c.stop ∧ c.stop ≤ next.start :=
      ⟨hcurrent c hc, hle c hc⟩
    obtain ⟨-, hmono, hdone⟩ := ByteRange.extend_spec hbounds
    have hgoes := ByteRange.start_le_stop_extend hbounds (Nat.le_add_right _ _)
    obtain ⟨hall, hapart⟩ := ih hothers (by simpa using hgoes)
    have hbehind (r : ByteRange) (hr : r ∈ others) :
        (ByteRange.extend current next).2.start ≤ r.start := (hall r hr).2 _ rfl
    constructor
    · intro r hr
      rcases List.mem_append.1 hr with hr | hr
      · have hown := (hdone r hr).1
        exact ⟨hcurrent r hown, fun c hc => Nat.le_of_eq (Option.mem_unique hc hown ▸ rfl)⟩
      · exact ⟨(hall r hr).1, fun c hc => Nat.le_trans (hmono c hc) (hbehind r hr)⟩
    · refine List.pairwise_append.2 ⟨ByteRange.pairwise_extend _, hapart, fun r hr q hq => ?_⟩
      exact Nat.lt_of_lt_of_le (hdone r hr).2 (hbehind q hq)

/-- The ranges end with members, or with the range that these follow.

**Proof sketch.** Induction on the members. A complete range is the one that went on
(`ByteRange.mem_of_mem_extend`), and the next one that goes on ends with the member. -/
theorem stop_le_of_joinMembers (h : l.joinMembers block current members = .ok ranges) {stop : Nat}
    (hcurrent : ∀ c ∈ current, c.stop ≤ stop)
    (hmembers : ∀ mem ∈ members, ∀ field align, l.memberField block mem = .ok (field, align) →
      mem.offset + field.size ≤ stop) : ∀ r ∈ ranges, r.stop ≤ stop := by
  induction members generalizing current ranges with
  | nil =>
    cases h
    simpa using hcurrent
  | cons mem rest ih =>
    obtain ⟨field, align, hfield, -, -, others, hothers, rfl⟩ := joinMembers_cons_eq_ok_iff.1 h
    obtain ⟨hmem, hrest⟩ := List.forall_mem_cons.1 hmembers
    intro r hr
    rcases List.mem_append.1 hr with hr | hr
    · exact hcurrent r (ByteRange.mem_of_mem_extend hr)
    · refine ih hothers ?_ hrest r hr
      simpa [ByteRange.stop_extend] using hmem field align hfield

/-- The byte is one of a member. -/
def Reaches (l : Layout) (block : StructType) (members : List Member) (byte : Nat) : Prop :=
  ∃ mem ∈ members, ∃ field align, l.memberField block mem = .ok (field, align) ∧ field.Holds byte

/-- The bytes of members are those of the first one and those of the others. -/
theorem reaches_cons {field : Field} {align byte : Nat}
    (hfield : l.memberField block mem = .ok (field, align)) :
    l.Reaches block (mem :: members) byte ↔
      byte ∈ (⟨mem.offset, mem.offset + field.size⟩ : ByteRange) ∨
        l.Reaches block members byte := by
  obtain ⟨-, hoffset, -⟩ := memberField_place hfield
  rw [Reaches, List.exists_mem_cons_iff, Reaches, hfield]
  simp [Field.Holds, hoffset, ByteRange.mem_iff]

/-- The ranges hold the bytes of the members, besides those of the range that they follow.

**Proof sketch.** Induction on the members. Putting a member to the range that goes on neither loses
nor adds a byte (`ByteRange.mem_extend_iff`). -/
theorem mem_joinMembers_iff (h : l.joinMembers block current members = .ok ranges)
    (hcurrent : ∀ c ∈ current, c.start ≤ c.stop) (byte : Nat) :
    (∃ r ∈ ranges, byte ∈ r) ↔ (∃ c ∈ current, byte ∈ c) ∨ l.Reaches block members byte := by
  induction members generalizing current ranges with
  | nil =>
    cases h
    simp [Reaches]
  | cons mem rest ih =>
    obtain ⟨field, align, hfield, -, hle, others, hothers, rfl⟩ := joinMembers_cons_eq_ok_iff.1 h
    set next : ByteRange := ⟨mem.offset, mem.offset + field.size⟩ with hnext
    have hbounds (c : ByteRange) (hc : c ∈ current) : c.start ≤ c.stop ∧ c.stop ≤ next.start :=
      ⟨hcurrent c hc, hle c hc⟩
    have hgoes := ByteRange.start_le_stop_extend hbounds (Nat.le_add_right _ _)
    have hothers := ih hothers (by simpa using hgoes)
    have hextend := ByteRange.mem_extend_iff hbounds (Nat.le_add_right _ _) byte
    rw [reaches_cons hfield, ← hnext, ← or_assoc, ← hextend, or_assoc]
    simp only [List.mem_append, or_and_right, exists_or, hothers, Option.mem_some_iff,
      exists_eq_left']

/-! ## Blocks and declarations -/

section Declaration

variable {st : StructType} {decl : StructDecl}

/-- The bytes of the members are those of the fields that are no fillers.

**Proof sketch.** The fields that are no fillers are those of the members, one for one
(`mapM_memberField_of_declaration`). -/
theorem reaches_iff_of_declaration (h : l.declaration st = .ok decl) (byte : Nat) :
    l.Reaches st st.members byte ↔ ∃ f ∈ decl.fields, f.padding = false ∧ f.Holds byte := by
  have hpairs := Result.mapM_eq_ok_iff.1 (mapM_memberField_of_declaration h)
  constructor
  · rintro ⟨mem, hmem, field, align, hfield, hbyte⟩
    obtain ⟨i, hi⟩ := List.mem_iff_getElem?.1 hmem
    obtain ⟨f, hf, hmap⟩ := Result.forall₂_getElem? hpairs hi
    obtain ⟨_, hfield', rfl⟩ := Result.map_eq_ok_iff.1 hmap
    cases hfield.symm.trans hfield'
    obtain ⟨hfields, hplain⟩ := List.mem_filter.1 (List.mem_of_getElem? hf)
    exact ⟨field, hfields, by simpa using hplain, hbyte⟩
  · rintro ⟨f, hf, hplain, hbyte⟩
    obtain ⟨mem, hmem, hmap⟩ :=
      Result.forall₂_mem_right hpairs (List.mem_filter.2 ⟨hf, by simp [hplain]⟩)
    obtain ⟨⟨_, align⟩, hfield, rfl⟩ := Result.map_eq_ok_iff.1 hmap
    exact ⟨mem, hmem, _, align, hfield, hbyte⟩

/-- Members end within the size of a declaration.

**Proof sketch.** The field of the member is one of the declaration, whose fields tile its bytes
(`tiles_of_declaration`), so none of them ends behind the size. -/
theorem stop_le_of_declaration (h : l.declaration st = .ok decl) {mem : Member}
    (hmem : mem ∈ st.members) {field : Field} {align : Nat}
    (hfield : l.memberField st mem = .ok (field, align)) :
    mem.offset + field.size ≤ decl.size := by
  obtain ⟨i, hi⟩ := List.mem_iff_getElem?.1 hmem
  obtain ⟨f, hf, hmap⟩ := Result.forall₂_getElem?
    (Result.mapM_eq_ok_iff.1 (mapM_memberField_of_declaration h)) hi
  obtain ⟨_, hfield', rfl⟩ := Result.map_eq_ok_iff.1 hmap
  cases hfield.symm.trans hfield'
  obtain ⟨-, hoffset, -⟩ := memberField_place hfield
  rw [← hoffset]
  exact (tiles_of_declaration h).le.2 field (List.mem_of_mem_filter (List.mem_of_getElem? hf))

end Declaration

/-- **Ranges and declarations agree.** A block that has a declaration has ranges. They are apart,
with bytes between any two of them, and end within the size of the declaration. A byte below this
size is in one of them exactly if it is in a field that is no filler, that is, in no filler. A block
in which a member starts in front of the end of the one before has neither a declaration nor ranges.

**Proof sketch.** Both walks want the members in order and nothing else that the other does not want
(`exists_joinMembers_iff`, `inOrder_of_placeMembers`). The bytes of the ranges are those of the
members (`mem_joinMembers_iff`), which are those of the fields that are no fillers
(`reaches_iff_of_declaration`), and as the fields tile the struct every other byte is in a
filler. -/
theorem blockRanges_agree (l : Layout) (st : StructType) :
    (∀ decl, l.declaration st = .ok decl →
      ∃ ranges, l.blockRanges st = .ok ranges ∧
        ranges.Pairwise (fun p q => p.stop < q.start) ∧
        (∀ r ∈ ranges, r.start ≤ r.stop ∧ r.stop ≤ decl.size) ∧
        ∀ byte < decl.size,
          ((∃ r ∈ ranges, byte ∈ r) ↔ ∃ f ∈ decl.fields, f.padding = false ∧ f.Holds byte) ∧
            ((∃ r ∈ ranges, byte ∈ r) ↔ ∀ f ∈ decl.fields, f.padding → ¬f.Holds byte)) ∧
      ∀ i mem next field, st.members[i]? = some mem → st.members[i + 1]? = some next →
        l.member st i = .ok field → next.offset < mem.offset + field.size →
          (∀ decl, l.declaration st ≠ .ok decl) ∧ ∀ ranges, l.blockRanges st ≠ .ok ranges := by
  have horder : (∃ ranges, l.blockRanges st = .ok ranges) ↔ l.InOrder st 0 st.members :=
    exists_joinMembers_iff
  have hdeclared (decl : StructDecl) (h : l.declaration st = .ok decl) :
      l.InOrder st 0 st.members := by
    obtain ⟨name, size, laid, -, -, hlaid, -⟩ := declaration_eq_ok_iff.1 h
    exact inOrder_of_placeMembers hlaid
  constructor
  · intro decl h
    obtain ⟨ranges, hranges⟩ := horder.2 (hdeclared decl h)
    obtain ⟨hstarts, hapart⟩ := pairwise_of_joinMembers hranges (by simp)
    have hstops : ∀ r ∈ ranges, r.stop ≤ decl.size :=
      stop_le_of_joinMembers hranges (by simp) fun mem hmem _ _ => stop_le_of_declaration h hmem
    refine ⟨ranges, hranges, hapart, fun r hr => ⟨(hstarts r hr).1, hstops r hr⟩,
      fun byte hlt => ?_⟩
    have hfields : (∃ r ∈ ranges, byte ∈ r) ↔
        ∃ f ∈ decl.fields, f.padding = false ∧ f.Holds byte := by
      rw [mem_joinMembers_iff hranges (by simp), ← reaches_iff_of_declaration h]
      simp
    have htiles := tiles_of_declaration h
    refine ⟨hfields, hfields.trans ⟨?_, fun hnone => ?_⟩⟩
    · rintro ⟨f, hf, hplain, hbyte⟩ g hg hfiller hgbyte
      cases htiles.eq_of_holds hf hg hbyte hgbyte
      simp [hplain] at hfiller
    · obtain ⟨f, hf, hbyte⟩ := htiles.exists_holds (Nat.zero_le byte) hlt
      exact ⟨f, hf, Bool.eq_false_iff.2 fun hfiller => hnone f hf hfiller hbyte, hbyte⟩
  · intro i mem next field hmem hnext hfield hlt
    simp only [member, hmem, Result.map_eq_ok_iff] at hfield
    obtain ⟨⟨_, align⟩, hfield, rfl⟩ := hfield
    have hnot : ¬l.InOrder st 0 st.members :=
      fun h => Nat.not_le.2 hlt (h.le_offset hmem hnext hfield)
    exact ⟨fun decl h => hnot (hdeclared decl h), fun ranges h => hnot (horder.1 ⟨ranges, h⟩)⟩

/-- A block whose second member starts within the first. -/
def foldedBlock : StructType where
  id := 1
  name := "Block"
  size := 8
  members :=
    [{ name := "a", ty := .float32, offset := 0 }, { name := "b", ty := .float32, offset := 2 }]

/-- The members of the one block come to three ranges, with the fillers between them. The other
block has neither ranges nor a declaration. -/
theorem blockRanges_lightBlock :
    lightLayout.declaration lightBlock = .ok lightDecl ∧
      lightLayout.blockRanges lightBlock = .ok [⟨0, 4⟩, ⟨8, 28⟩, ⟨32, 112⟩] ∧
      (∀ byte < 112, (∃ r ∈ [(⟨0, 4⟩ : ByteRange), ⟨8, 28⟩, ⟨32, 112⟩], byte ∈ r) ↔
        ∀ f ∈ lightDecl.fields, f.padding → ¬f.Holds byte) ∧
      lightLayout.member foldedBlock 0 = .ok { name := "a", type := .scalar .f32, size := 4 } ∧
      ∀ ranges, lightLayout.blockRanges foldedBlock ≠ .ok ranges := by
  have hdecl : lightLayout.declaration lightBlock = .ok lightDecl := by cbv
  have hranges : lightLayout.blockRanges lightBlock = .ok [⟨0, 4⟩, ⟨8, 28⟩, ⟨32, 112⟩] := by cbv
  have hfield : lightLayout.member foldedBlock 0 =
      .ok { name := "a", type := .scalar .f32, size := 4 } := by cbv
  obtain ⟨ranges, hranges', -, -, hbytes⟩ :=
    (blockRanges_agree lightLayout lightBlock).1 lightDecl hdecl
  cases hranges.symm.trans hranges'
  obtain ⟨-, hnone⟩ := (blockRanges_agree lightLayout foldedBlock).2 0
    { name := "a", ty := .float32, offset := 0 } { name := "b", ty := .float32, offset := 2 } _
    rfl rfl hfield (by decide)
  exact ⟨hdecl, hranges, fun byte hlt => (hbytes byte hlt).2, hfield, hnone⟩

end Layout

end ShaderBindings
