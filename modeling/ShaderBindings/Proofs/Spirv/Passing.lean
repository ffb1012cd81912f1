import ShaderBindings.Spirv.Module
/-!
# Operations that are passed over

Most instructions of a module stand in the bodies of its functions and say nothing about its
interface. The reader knows how they start and goes by their length for the rest: as soon as an
instruction has as many words as its start takes, and the stream holds all of its words, it is read
to its end. What comes of it has no influence on the declarations.

## Main definitions

* `Cursor.advance`, `Cursor.Has` - a cursor some words further, and that there are so many.
* `OperandKind.isWord` - the operands that are any word.
* `OpcodeFamily.least` - the words that an instruction of a family takes at least.
* `Opcode.isNamed` - the operations that do not belong to a family.

## Main results

* `OpcodeFamily.exists_operands` - the operands of a family use an instruction up.
* `readInstruction_other` - no instruction of a family is refused that has the words of its start.
* `Declarations.ofInstructions_filter_isNamed` - such instructions make no difference to the
  declarations.
-/

set_option autoImplicit false

namespace ShaderBindings.Spirv

/-! ## Cursors -/

/-- The cursor that stands `n` words further. -/
def Cursor.advance (c : Cursor) (n : Nat) : Cursor :=
  { offset := c.offset + 4 * n, left := c.left - n, rest := c.rest.drop n }

/-- The instruction has `n` more words, and the stream holds them. -/
structure Cursor.Has (c : Cursor) (n : Nat) : Prop where
  left : n ≤ c.left
  rest : n ≤ c.rest.length

section Cursor

variable {c : Cursor} {m n : Nat}

/-- The words that are left are fewer by those that were passed. -/
@[simp] theorem Cursor.left_advance : (c.advance n).left = c.left - n := rfl

/-- To pass no word is to stay. -/
@[simp] theorem Cursor.advance_zero : c.advance 0 = c := by
  simp [advance]

/-- Words that are passed one after the other are passed together. -/
theorem Cursor.advance_advance : (c.advance m).advance n = c.advance (m + n) := by
  simp only [advance, List.drop_drop, Cursor.mk.injEq, and_true]
  omega

/-- Behind the first words of many there are the other ones. -/
theorem Cursor.Has.advance (h : c.Has (m + n)) : (c.advance m).Has n where
  left := Nat.le_sub_of_add_le' h.left
  rest := by
    rw [Cursor.advance, List.length_drop]
    exact Nat.le_sub_of_add_le' h.rest

/-- Where there are many words there are fewer. -/
theorem Cursor.Has.mono (h : c.Has n) (hmn : m ≤ n) : c.Has m where
  left := Nat.le_trans hmn h.left
  rest := Nat.le_trans hmn h.rest

/-- To pass some of the words that are left, and then all others, is to pass all of them. -/
theorem Cursor.advance_left (hn : n ≤ c.left) :
    (c.advance n).advance (c.advance n).left = c.advance c.left := by
  rw [advance_advance, left_advance, Nat.add_sub_cancel' hn]

/-- If the stream holds all words of the instruction, it holds those behind the first ones. -/
theorem Cursor.Has.behind (h : c.Has c.left) (hn : n ≤ c.left) :
    (c.advance n).Has (c.advance n).left := by
  have hsplit : c.Has (n + (c.left - n)) := by rwa [Nat.add_sub_cancel' hn]
  exact hsplit.advance

/-- A step that succeeds hands over what it found, and the place where it ended. -/
theorem run_bind_of_ok {ε α β : Type} {step : Read ε α} {next : α → Read ε β} {c' : Cursor} {a : α}
    (h : step.run.run c = (.ok a, c')) : (step >>= next).run.run c = (next a).run.run c' := by
  have hrun : (step >>= next).run.run c =
      (ExceptT.bindCont next (step.run.run c).1).run (step.run.run c).2 := rfl
  rw [hrun, h]
  rfl

end Cursor

/-! ## Operands of one word -/

/-- Whether an operand is a word, whatever the word is. -/
def OperandKind.isWord : OperandKind → Bool
  | .resultType | .result | .plain .id | .plain .integer => true
  | _ => false

section Operands

variable {kind : OperandKind} {specs : List OperandSpec} {c : Cursor} (place : Place)
  (before : List Operand)

/-- An operand that is a word takes one word. -/
theorem exists_operand (hkind : kind.isWord) (hc : c.Has 1) :
    ∃ os, (operand place before kind).run.run c = (.ok os, c.advance 1) := by
  obtain ⟨offset, left, rest⟩ := c
  obtain ⟨hleft, hrest⟩ := hc
  obtain ⟨left, rfl⟩ := Nat.exists_eq_succ_of_ne_zero (Nat.one_le_iff_ne_zero.1 hleft)
  cases rest with
  | nil => cases hrest
  | cons w rest =>
    match kind with
    | .resultType => exact ⟨[.resultType w.toNat], rfl⟩
    | .result => exact ⟨[.result w.toNat], rfl⟩
    | .plain .id => exact ⟨[.id w.toNat], rfl⟩
    | .plain .integer => exact ⟨[.integer w.toNat], rfl⟩

/-- Operands that are words are repeated up to the end of the instruction.

**Proof sketch.** Induction on the fuel. As long as a word is left one operand takes it
(`exists_operand`). The stream holds the words behind it (`Cursor.Has.behind`), and one unit of fuel
less is enough for them. -/
theorem exists_repeated (hkind : kind.isWord) {fuel : Nat} (hfuel : c.left ≤ fuel)
    (hc : c.Has c.left) :
    ∃ os, (repeated place kind fuel).run.run c = (.ok os, c.advance c.left) := by
  induction fuel generalizing c with
  | zero => exact ⟨[], by rw [Nat.le_zero.1 hfuel, Cursor.advance_zero]; rfl⟩
  | succ fuel ih =>
    change ∃ os, (if c.left = 0 then pure [] else _ : Read StreamFault _).run.run c = _
    by_cases hleft : c.left = 0
    · exact ⟨[], by rw [if_pos hleft, hleft, Cursor.advance_zero]; rfl⟩
    · have hone : 1 ≤ c.left := by omega
      have hfuel' : (c.advance 1).left ≤ fuel := Nat.sub_le_of_le_add hfuel
      obtain ⟨os, hos⟩ := exists_operand place [] hkind (hc.mono hone)
      obtain ⟨os', hos'⟩ := ih hfuel' (hc.behind hone)
      refine ⟨os ++ os', ?_⟩
      rw [if_neg hleft, run_bind_of_ok hos, run_bind_of_ok hos', Cursor.advance_left hone]
      rfl

/-- Operands that are words, and have to stand, are read one after the other. What follows them is
read where they end.

**Proof sketch.** Induction on the operands. The first one finds its word, since there are as many
words as operands, and then there are as many as the others need (`Cursor.Has.advance`). -/
theorem exists_operands_append (hspecs : ∀ spec ∈ specs, spec.arity = .one ∧ spec.kind.isWord)
    (hc : c.Has specs.length) (others : List OperandSpec) :
    ∃ os, (operands place before (specs ++ others)).run.run c =
      (operands place os others).run.run (c.advance specs.length) := by
  induction specs generalizing before c with
  | nil => exact ⟨before, by simp⟩
  | cons spec specs ih =>
    obtain ⟨⟨hone, hkind⟩, hspecs⟩ := List.forall_mem_cons.1 hspecs
    rw [List.length_cons, Nat.add_comm] at hc
    have hfirst : c.Has 1 := hc.mono (Nat.le_add_right _ _)
    have hleft : c.left ≠ 0 := Nat.one_le_iff_ne_zero.1 hfirst.left
    obtain ⟨os, hos⟩ := exists_operand place before hkind hfirst
    obtain ⟨os', hos'⟩ := ih (before ++ os) hspecs hc.advance
    refine ⟨os', ?_⟩
    calc (operands place before (spec :: specs ++ others)).run.run c
      _ = (operands place (before ++ os) (specs ++ others)).run.run (c.advance 1) := by
        change (if c.left = 0 then _ else _ : Read StreamFault _).run.run c = _
        rw [if_neg hleft, hone, run_bind_of_ok hos]
        rfl
      _ = (operands place os' others).run.run ((c.advance 1).advance specs.length) := hos'
      _ = (operands place os' others).run.run (c.advance (spec :: specs).length) := by
        rw [Cursor.advance_advance, Nat.add_comm, List.length_cons]

/-- Where the instruction is used up, operands that need not stand are not read. -/
theorem operands_of_left_eq_zero (hspecs : ∀ spec ∈ specs, spec.arity = .many)
    (hleft : c.left = 0) : (operands place before specs).run.run c = (.ok before, c) := by
  cases specs with
  | nil => rfl
  | cons spec specs =>
    change (if c.left = 0 then _ else _ : Read StreamFault _).run.run c = _
    rw [if_pos hleft, hspecs spec List.mem_cons_self]
    rfl

/-- Operands that stand any number of times use the instruction up, if there are any.

**Proof sketch.** The first of them is repeated to the end of the instruction (`exists_repeated`).
Those behind it find nothing left (`operands_of_left_eq_zero`). -/
theorem exists_operands_many {spec : OperandSpec} (hkind : spec.kind.isWord)
    (hspecs : ∀ s ∈ spec :: specs, s.arity = .many) (hc : c.Has c.left) :
    ∃ os, (operands place before (spec :: specs)).run.run c = (.ok os, c.advance c.left) := by
  by_cases hleft : c.left = 0
  · refine ⟨before, ?_⟩
    rw [operands_of_left_eq_zero place before hspecs hleft, hleft, Cursor.advance_zero]
  · obtain ⟨hmany, hspecs⟩ := List.forall_mem_cons.1 hspecs
    obtain ⟨os, hos⟩ := exists_repeated place hkind (Nat.le_refl _) hc
    refine ⟨before ++ os, ?_⟩
    change (if c.left = 0 then _ else _ : Read StreamFault _).run.run c = _
    rw [if_neg hleft, hmany, run_bind_of_ok hos,
      operands_of_left_eq_zero place (before ++ os) hspecs (Nat.sub_self _)]

end Operands

/-! ## Instructions -/

/-- The words that an instruction of the family takes at least, behind the one with its number. -/
def OpcodeFamily.least (family : OpcodeFamily) : Nat := family.yield.operands.length + family.ids

/-- The start of an instruction consists of words. -/
theorem OpcodeFamily.isWord_start (family : OpcodeFamily) :
    ∀ spec ∈ family.yield.operands ++ List.replicate family.ids OperandSpec.ref,
      spec.arity = .one ∧ spec.kind.isWord := by
  have hyield : ∀ spec ∈ family.yield.operands, spec.arity = .one ∧ spec.kind.isWord := by
    cases family.yield <;> decide
  intro spec hspec
  rcases List.mem_append.1 hspec with hspec | hspec
  · exact hyield spec hspec
  · obtain rfl := List.eq_of_mem_replicate hspec
    exact ⟨rfl, rfl⟩

/-- Operands of a family use up an instruction that has the words of its start.

**Proof sketch.** What an instruction gives and its ids are words (`OpcodeFamily.isWord_start`), and
are read one by one (`exists_operands_append`). Behind them every family ends in operands that stand
any number of times, and these take the words that are left (`exists_operands_many`). -/
theorem OpcodeFamily.exists_operands (family : OpcodeFamily) (place : Place) {c : Cursor}
    (hleast : family.least ≤ c.left) (hc : c.Has c.left) :
    ∃ os, (Spirv.operands place [] family.operands).run.run c = (.ok os, c.advance c.left) := by
  have hbehind := hc.behind hleast
  have hlength : (family.yield.operands ++ List.replicate family.ids OperandSpec.ref).length =
      family.least := by
    rw [List.length_append, List.length_replicate, least]
  obtain ⟨start, hstart⟩ := exists_operands_append place [] family.isWord_start
    (hlength ▸ hc.mono hleast) ((if family.openEnd then [.refs] else []) ++ [.ints])
  obtain ⟨os, hos⟩ : ∃ os, (Spirv.operands place start
      ((if family.openEnd then [.refs] else []) ++ [.ints])).run.run (c.advance family.least) =
        (.ok os, (c.advance family.least).advance (c.advance family.least).left) := by
    cases family.openEnd with
    | true => exact exists_operands_many place start rfl (by decide) hbehind
    | false => exact exists_operands_many place start rfl (by decide) hbehind
  refine ⟨os, ?_⟩
  rw [operands, List.append_assoc, hstart, hlength, hos, Cursor.advance_left hleast]

/-- **Instructions are passed over.** An instruction of an operation without a name of its own is
read, and read to its end, if it has the words of its start and the stream holds all its words.

**Proof sketch.** The number of the instruction leads to its operation
(`Opcode.ofCode?_eq_some_iff`), whose operands use the instruction up
(`OpcodeFamily.exists_operands`). So no word is left over that could be reported. -/
theorem readInstruction_other {op : OtherOpcode} {w : UInt32} {rest : List UInt32}
    (hcode : lowHalf w.toNat = op.number) (hleast : op.family.least < lengthOf w)
    (hrest : lengthOf w ≤ rest.length + 1) (place : Place) (offset : Nat) :
    ∃ operands, readInstruction place offset w rest =
      .ok { opcode := .other op, operands } := by
  let start : Cursor := { offset := offset + 4, left := lengthOf w - 1, rest }
  have hopcode : Opcode.ofCode? (lowHalf w.toNat) = some (.other op) :=
    Opcode.ofCode?_eq_some_iff.2 hcode.symm
  obtain ⟨os, hos⟩ : ∃ os, (Spirv.operands place [] (Opcode.other op).operands).run.run start =
      (.ok os, start.advance start.left) :=
    op.family.exists_operands place (Nat.le_sub_one_of_lt hleast)
      ⟨Nat.le_refl _, Nat.sub_le_of_le_add hrest⟩
  have hend : (start.advance start.left).left = 0 := Nat.sub_self _
  refine ⟨os, ?_⟩
  rw [readInstruction, if_neg (by omega)]
  simp only [hopcode]
  rw [hos]
  simp only [hend, ne_eq, not_true, if_false, Except.map]

/-! ## Declarations -/

/-- Whether the operation has a name of its own. -/
def Opcode.isNamed : Opcode → Bool
  | .other _ => false
  | _ => true

/-- An operation without a name of its own says nothing. -/
theorem Instruction.statements_of_not_isNamed {i : Instruction} (h : ¬i.opcode.isNamed) :
    i.statements = [] := by
  obtain ⟨opcode, operands⟩ := i
  cases opcode
  case other op =>
    unfold statements
    split <;> simp_all [TypeDecl.of?]
  all_goals exact absurd rfl h

/-- Without the operations that have no name of their own a module declares the same. So a module
can be read from its other instructions alone: all that the reader makes of it comes from the
declarations. -/
theorem Declarations.ofInstructions_filter_isNamed (is : List Instruction) :
    ofInstructions (is.filter (·.opcode.isNamed)) = ofInstructions is := by
  have hstatements : (is.filter (·.opcode.isNamed)).flatMap (·.statements) =
      is.flatMap (·.statements) := by
    induction is with
    | nil => rfl
    | cons i is ih =>
      by_cases hi : i.opcode.isNamed
      · rw [List.filter_cons, if_pos hi, List.flatMap_cons, List.flatMap_cons, ih]
      · rw [List.filter_cons, if_neg hi, List.flatMap_cons, ih,
          Instruction.statements_of_not_isNamed hi, List.nil_append]
  simp only [ofInstructions, hstatements]

end ShaderBindings.Spirv
