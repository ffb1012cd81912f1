import ShaderBindings.Proofs.Struct.Outline
import ShaderBindings.Proofs.Text.Scan
/-!
# Reading signatures

A signature leaves names as they are, so a comma in a name can make the texts of different structs
the same. Without commas in names the text of a struct of numbers determines its outline.

## Main definitions

* `Outline.IsReadable` - no name in the outline has a comma in it, and every type is known.
* `ShaderBindings.EndsMembers` - a text that can stand behind the members of a struct.
* `ShaderModule.HasPlainNames` - no comma in the names of a struct and of those inside it.

## Main results

* `BaseType.token_append_inj`, `Member.suffix_append_inj` - the parts of a member are read back.
* `Outline.text_append_inj` - the members of a struct are read back.
* `ShaderModule.eq_of_signature_eq` - equal signatures come from equal outlines.

## Implementation notes

The closing brace of a struct could be the first character of the name of one more member. What
tells them apart stands behind the next comma: an offset starts with a digit and a type does not.
-/

set_option autoImplicit false

namespace ShaderBindings

open Text

/-! ## Types -/

namespace BaseType

/-- How base types are written. -/
theorem toList_token (base : BaseType) :
    base.token.toList =
      match base with
      | .boolean => ['b']
      | .integer width true => 'i' :: Nat.toDigits 10 width
      | .integer width false => 'u' :: Nat.toDigits 10 width
      | .float width => 'f' :: Nat.toDigits 10 width
      | .struct id => 's' :: Nat.toDigits 10 id
      | .image dim sampled => 'i' :: 'm' :: 'g' :: (dim.label ++ toString sampled).toList
      | .sampledImage dim => 's' :: 'i' :: 'm' :: 'g' :: dim.label.toList
      | .sampler => ['s', 'm', 'p']
      | .foreign name => name.toList := by
  have hnumber (letter : String) (n : Nat) :
      (letter ++ toString n).toList = letter.toList ++ Nat.toDigits 10 n := by
    rw [String.toList_append, Nat.toString_eq_repr, Nat.toList_repr]
  cases base with
  | boolean => rfl
  | integer width signed =>
    cases signed with
    | true => exact hnumber "i" width
    | false => exact hnumber "u" width
  | float width => exact hnumber "f" width
  | struct id => exact hnumber "s" id
  | image dim sampled =>
    change ("img" ++ dim.label ++ toString sampled).toList = _
    simp
  | sampledImage dim =>
    change ("simg" ++ dim.label).toList = _
    simp
  | sampler => rfl
  | foreign name => rfl

/-- A type that is no struct and whose name is known. -/
def IsKnown (base : BaseType) : Prop := base.structId? = none ∧ ∀ name, base ≠ .foreign name

/-- The text for a known type starts with a letter.

**Proof sketch.** Case by case (`toList_token`). What is excluded are references to structs, which
are written in another way, and foreign types, which may be called anything. -/
theorem exists_token_eq_cons {base : BaseType} (h : base.IsKnown) :
    ∃ c cs, base.token.toList = c :: cs ∧ c ∈ ['b', 'i', 'u', 'f', 's'] := by
  rw [toList_token]
  obtain ⟨hstruct, hforeign⟩ := h
  cases base with
  | integer width signed => cases signed <;> exact ⟨_, _, rfl, by decide⟩
  | struct id => cases hstruct
  | foreign name => exact absurd rfl (hforeign name)
  | _ => exact ⟨_, _, rfl, by decide⟩

/-- So it starts with none of the marks for structs. -/
theorem token_append_ne_cons {base : BaseType} (h : base.IsKnown) {d : Char} {t t' : List Char}
    (hd : d ∉ ['b', 'i', 'u', 'f', 's']) : base.token.toList ++ t ≠ d :: t' := by
  obtain ⟨c, cs, htoken, hc⟩ := exists_token_eq_cons h
  intro heq
  rw [htoken] at heq
  exact hd ((List.cons.inj heq).1 ▸ hc)

/-- Numbers with a counterpart on the host are integers and floats. -/
theorem eq_of_hostScalar {base : BaseType} {s : HostScalar} (h : base.hostScalar = .ok s) :
    (∃ width signed, base = .integer width signed) ∨ ∃ width, base = .float width := by
  cases base with
  | integer width signed => exact .inl ⟨width, signed, rfl⟩
  | float width => exact .inr ⟨width, rfl⟩
  | _ => cases h

/-- A letter cannot be taken for the digits of a number.

**Proof sketch.** A number has a first digit, and the letter would be that. -/
theorem toDigits_append_ne_cons {n : Nat} {c : Char} {r s : List Char} (hc : c.isDigit = false) :
    Nat.toDigits 10 n ++ r ≠ c :: s := by
  intro h
  obtain ⟨d, ds, hdigits, hd⟩ := exists_toDigits_eq_cons n
  rw [hdigits] at h
  obtain ⟨rfl, -⟩ := List.cons.inj h
  rw [hd] at hc
  cases hc

/-- The text for a number, with the vector size behind it, can be read back among the texts for all
known types.

**Proof sketch.** The first letters tell the types apart, except that a signed integer begins as an
image does. There the next character decides: a digit in one case and a letter in the other. The
widths are numbers in front of a letter, so they can be read back (`toDigits_append_inj`). -/
theorem token_append_inj {base base' : BaseType} {s : HostScalar} {r r' : List Char}
    (hs : base.hostScalar = .ok s) (hknown : base'.IsKnown)
    (h : base.token.toList ++ 'x' :: r = base'.token.toList ++ 'x' :: r') :
    base = base' ∧ r = r' := by
  have hx (t : List Char) : EndsDigits ('x' :: t) := endsDigits_cons rfl
  have hnumber {a b : Nat} (heq : Nat.toDigits 10 a ++ 'x' :: r = Nat.toDigits 10 b ++ 'x' :: r') :
      a = b ∧ r = r' := by
    obtain ⟨hab, hrest⟩ := toDigits_append_inj (hx r) (hx r') heq
    exact ⟨hab, (List.cons.inj hrest).2⟩
  obtain ⟨hstruct, hforeign⟩ := hknown
  rw [toList_token, toList_token] at h
  rcases eq_of_hostScalar hs with ⟨width, signed, rfl⟩ | ⟨width, rfl⟩
  · cases base' with
    | integer width' signed' =>
      cases signed <;> cases signed' <;> simp only [List.cons_append, List.cons.injEq] at h
      · obtain ⟨rfl, hrest⟩ := hnumber h.2
        exact ⟨rfl, hrest⟩
      · exact absurd h.1 (by decide)
      · exact absurd h.1 (by decide)
      · obtain ⟨rfl, hrest⟩ := hnumber h.2
        exact ⟨rfl, hrest⟩
    | image dim sampled =>
      -- an `i` as for a signed integer, with a letter behind it
      cases signed <;> simp only [List.cons_append, List.cons.injEq] at h
      · exact absurd h.1 (by decide)
      · exact absurd h.2 (toDigits_append_ne_cons rfl)
    | struct id => cases hstruct
    | foreign name => exact absurd rfl (hforeign name)
    | _ => cases signed <;> simp at h
  · cases base' with
    | float width' =>
      simp only [List.cons_append, List.cons.injEq, true_and] at h
      obtain ⟨rfl, hrest⟩ := hnumber h
      exact ⟨rfl, hrest⟩
    | integer width' signed' => cases signed' <;> simp at h
    | struct id => cases hstruct
    | foreign name => exact absurd rfl (hforeign name)
    | _ => simp at h

end BaseType

/-! ## Members -/

/-- A stride as it is written behind its letter, if there is one. -/
def strideText (letter : Char) : Option Nat → List Char
  | none => []
  | some stride => ';' :: letter :: Nat.toDigits 10 stride

/-- Array extents as they are written. -/
def extentsText (extents : List Nat) : List Char :=
  extents.flatMap fun n => '[' :: (Nat.toDigits 10 n ++ [']'])

/-- How the order of the rows and the end of a member are written. -/
def rowsText (rowMajor : Bool) : List Char := if rowMajor then [';', 'r', ':'] else [':']

/-- The characters behind the base type of a member, part by part. -/
theorem Member.toList_suffix (mem : Member) :
    mem.suffix.toList =
      'x' :: (Nat.toDigits 10 mem.ty.components ++ 'x' :: (Nat.toDigits 10 mem.ty.columns ++
        ',' :: (Nat.toDigits 10 mem.offset ++ (strideText 'm' mem.matrixStride ++
          (strideText 'a' mem.arrayStride ++
            (extentsText mem.ty.extents ++ rowsText mem.rowMajor)))))) := by
  have hplaces : ("x" ++ toString mem.ty.components ++ "x" ++ toString mem.ty.columns ++ "," ++
      toString mem.offset).toList = 'x' :: (Nat.toDigits 10 mem.ty.components ++
        'x' :: (Nat.toDigits 10 mem.ty.columns ++ ',' :: Nat.toDigits 10 mem.offset)) := by
    simp [Nat.toString_eq_repr]
  have hextents : (String.join (mem.ty.extents.map fun n => "[" ++ toString n ++ "]")).toList =
      extentsText mem.ty.extents := by
    simp [String.toList_join, List.flatMap_map, extentsText, Nat.toString_eq_repr]
  have hrows : (if mem.rowMajor then ";r" else "").toList ++ ":".toList =
      rowsText mem.rowMajor := by
    cases mem.rowMajor <;> rfl
  change ("x" ++ toString mem.ty.components ++ "x" ++ toString mem.ty.columns ++ "," ++
    toString mem.offset ++
    _ ++ _ ++ String.join (mem.ty.extents.map fun n => "[" ++ toString n ++ "]") ++
    (if mem.rowMajor then ";r" else "") ++ ":").toList = _
  rw [String.toList_append, String.toList_append, String.toList_append, String.toList_append,
    String.toList_append, hplaces, hextents]
  simp only [List.append_assoc, List.cons_append, hrows]
  have hmark (mark : String) : toString mark = mark := rfl
  cases mem.matrixStride <;> cases mem.arrayStride <;>
    simp [strideText, Nat.toString_eq_repr, hmark]

/-- What can stand behind a stride: another one, extents or the end, but no digit. That no stride of
the same letter follows is what tells a missing stride from one that is written. -/
def EndsStride (letter : Char) (r : List Char) : Prop :=
  EndsDigits r ∧ ∀ s, r ≠ ';' :: letter :: s

/-- A stride that may be absent can be read back.

**Proof sketch.** A stride begins with a semicolon and its letter, and what is behind it does not,
so both are there or neither. The number can be read back. -/
theorem strideText_append_inj {letter : Char} {a b : Option Nat} {r s : List Char}
    (hr : EndsStride letter r) (hs : EndsStride letter s)
    (h : strideText letter a ++ r = strideText letter b ++ s) : a = b ∧ r = s := by
  cases a with
  | none =>
    cases b with
    | none => exact ⟨rfl, h⟩
    | some n => exact absurd h (hr.2 _)
  | some m =>
    cases b with
    | none => exact absurd h.symm (hs.2 _)
    | some n =>
      simp only [strideText, List.cons_append, List.cons.injEq, true_and] at h
      obtain ⟨rfl, hrest⟩ := toDigits_append_inj hr.1 hs.1 h
      exact ⟨rfl, hrest⟩

/-- Array extents can be read back in front of anything but another one.

**Proof sketch.** Induction on the extents. An opening bracket tells whether there is another one,
and the closing bracket ends its number. -/
theorem extentsText_append_inj {a b : List Nat} {r s : List Char} (hr : Halts (· = '[') r)
    (hs : Halts (· = '[') s) (h : extentsText a ++ r = extentsText b ++ s) : a = b ∧ r = s := by
  induction a generalizing b with
  | nil =>
    cases b with
    | nil => exact ⟨rfl, h⟩
    | cons n b =>
      subst h
      exact absurd rfl (hr '[' rfl)
  | cons m a ih =>
    cases b with
    | nil =>
      subst h
      exact absurd rfl (hs '[' rfl)
    | cons n b =>
      simp only [extentsText, List.flatMap_cons, List.cons_append, List.append_assoc,
        List.cons.injEq, true_and, List.nil_append] at h
      obtain ⟨rfl, hclose⟩ := toDigits_append_inj (endsDigits_cons rfl) (endsDigits_cons rfl) h
      obtain ⟨rfl, hrest⟩ := ih (List.cons.inj hclose).2
      exact ⟨rfl, hrest⟩

/-- Whether a matrix is stored in rows can be read back. -/
theorem rowsText_append_inj {a b : Bool} {r s : List Char}
    (h : rowsText a ++ r = rowsText b ++ s) : a = b ∧ r = s := by
  cases a <;> cases b <;> simp [rowsText] at h <;> exact ⟨rfl, h⟩

/-- The end of a member is no digit, no extent and no stride. -/
theorem endsStride_rowsText (letter : Char) (hletter : letter ≠ 'r') (b : Bool) (r : List Char) :
    EndsStride letter (rowsText b ++ r) ∧ Halts (· = '[') (rowsText b ++ r) := by
  cases b
  · exact ⟨⟨endsDigits_cons rfl, fun s hs => by cases hs⟩, halts_cons (by decide)⟩
  · refine ⟨⟨endsDigits_cons rfl, fun s hs => hletter ?_⟩, halts_cons (by decide)⟩
    exact (List.cons.inj (List.cons.inj hs).2).1.symm

/-- Extents, too, are told apart from a stride. -/
theorem endsStride_extentsText {letter : Char} (extents : List Nat) {r : List Char}
    (h : EndsStride letter r) : EndsStride letter (extentsText extents ++ r) := by
  cases extents with
  | nil => exact h
  | cons n extents => exact ⟨endsDigits_cons rfl, fun s hs => by cases hs⟩

/-- So is a stride of the other kind.

**Proof sketch.** It begins with its own letter, and without a stride there is only what stands
behind. -/
theorem endsStride_strideText {letter other : Char} (hother : other ≠ letter) (stride : Option Nat)
    {r : List Char} (h : EndsStride letter r) :
    EndsStride letter (strideText other stride ++ r) := by
  cases stride with
  | none => exact h
  | some n =>
    refine ⟨endsDigits_cons rfl, fun s hs => hother ?_⟩
    exact (List.cons.inj (List.cons.inj hs).2).1

/-- What is written behind the base type of a member can be read back.

**Proof sketch.** The numbers are read one after the other, each up to the character behind it; that
character also tells which of the strides there are. -/
theorem Member.suffix_append_inj {a b : Member} {r s : List Char}
    (h : a.suffix.toList ++ r = b.suffix.toList ++ s) :
    (a.name = b.name → a.ty.base = b.ty.base → a = b) ∧ r = s := by
  have hx (t : List Char) : EndsDigits ('x' :: t) := endsDigits_cons rfl
  have hcomma (t : List Char) : EndsDigits (',' :: t) := endsDigits_cons rfl
  have hrows (letter : Char) (hletter : letter ≠ 'r') (mem : Member) (t : List Char) :=
    endsStride_extentsText mem.ty.extents (endsStride_rowsText letter hletter mem.rowMajor t).1
  have harrays (mem : Member) (t : List Char) :=
    endsStride_strideText (by decide : 'a' ≠ 'm') mem.arrayStride
      (hrows 'm' (by decide) mem t)
  have hmatrices (mem : Member) (t : List Char) : EndsDigits (strideText 'm' mem.matrixStride ++
      (strideText 'a' mem.arrayStride ++ (extentsText mem.ty.extents ++
        (rowsText mem.rowMajor ++ t)))) := by
    cases mem.matrixStride with
    | none => exact (harrays mem t).1
    | some n => exact endsDigits_cons rfl
  rw [Member.toList_suffix, Member.toList_suffix] at h
  simp only [List.cons_append, List.append_assoc, List.cons.injEq, true_and] at h
  obtain ⟨hcomponents, h⟩ := toDigits_append_inj (hx _) (hx _) h
  obtain ⟨hcolumns, h⟩ := toDigits_append_inj (hcomma _) (hcomma _) (List.cons.inj h).2
  obtain ⟨hoffset, h⟩ := toDigits_append_inj (hmatrices a r) (hmatrices b s) (List.cons.inj h).2
  obtain ⟨hmatrix, h⟩ := strideText_append_inj (harrays a r) (harrays b s) h
  obtain ⟨harray, h⟩ :=
    strideText_append_inj (hrows 'a' (by decide) a r) (hrows 'a' (by decide) b s) h
  obtain ⟨hextents, h⟩ := extentsText_append_inj
    (endsStride_rowsText 'a' (by decide) a.rowMajor r).2
    (endsStride_rowsText 'a' (by decide) b.rowMajor s).2 h
  obtain ⟨hrow, h⟩ := rowsText_append_inj h
  refine ⟨fun hname hbase => ?_, h⟩
  obtain ⟨name, ⟨base, components, columns, extents⟩, offset, matrix, array, row⟩ := a
  obtain ⟨name', ⟨base', components', columns', extents'⟩, offset', matrix', array', row'⟩ := b
  simp_all

/-! ## Outlines -/

/-- No name in the outline has a comma in it, and all members but structs have known types. Then the
text can be cut into its parts again, from the left to the right. -/
def Outline.IsReadable : Outline → Prop
  | done => True
  | plain mem rest => ',' ∉ mem.name.toList ∧ mem.ty.base.IsKnown ∧ rest.IsReadable
  | nested mem name _ inner rest =>
    ',' ∉ mem.name.toList ∧ mem.ty.base = .struct 0 ∧ ',' ∉ name.toList ∧ inner.IsReadable ∧
      rest.IsReadable
  | again mem _ rest => ',' ∉ mem.name.toList ∧ rest.IsReadable

/-- What can stand behind the members of a struct: nothing, or a text in which the first comma is
followed by a digit. -/
def EndsMembers (r : List Char) : Prop :=
  r = [] ∨ ∃ front c back, r = front ++ ',' :: c :: back ∧ ',' ∉ front ∧ c.isDigit = true

/-- The brace that closes a struct, with the rest of the member behind it, ends the members.

**Proof sketch.** Up to the first comma there are a brace, letters and digits, and behind that comma
stands the offset, which begins with a digit. -/
theorem endsMembers_close (mem : Member) (r : List Char) :
    EndsMembers ('\x7d' :: (mem.suffix.toList ++ r)) := by
  have hcomma (n : Nat) : ',' ∉ Nat.toDigits 10 n := fun h => by
    have := isDigit_of_mem_toDigits h
    cases this
  obtain ⟨c, cs, hdigits, hc⟩ := exists_toDigits_eq_cons mem.offset
  refine .inr ⟨'\x7d' :: 'x' :: (Nat.toDigits 10 mem.ty.components ++ 'x' ::
    Nat.toDigits 10 mem.ty.columns), c, ?_, ?_, ?_, hc⟩
  · exact cs ++ (strideText 'm' mem.matrixStride ++ (strideText 'a' mem.arrayStride ++
      (extentsText mem.ty.extents ++ (rowsText mem.rowMajor ++ r))))
  · rw [Member.toList_suffix, hdigits]
    simp only [List.cons_append, List.append_assoc]
  · simp [hcomma]

/-- A member does not end the members: behind its name stands no digit.

**Proof sketch.** The text is not empty, and the first comma is the one behind the name. -/
theorem not_endsMembers {name r : List Char} {c : Char} (hname : ',' ∉ name)
    (hc : c.isDigit = false) : ¬ EndsMembers (name ++ ',' :: c :: r) := by
  rintro (h | ⟨front, d, back, h, hfront, hd⟩)
  · simp at h
  · obtain ⟨-, h⟩ := append_cons_inj hname hfront h
    obtain ⟨rfl, -⟩ := List.cons.inj h
    rw [hd] at hc
    cases hc

namespace Outline

/-- The heading of a struct can be read back.

**Proof sketch.** The name goes up to the first comma (`append_cons_inj`), and the size is a number
with zeros in front of it (`zeroPad_append_inj`). -/
theorem heading_append_inj {name name' : String} {size size' : Nat} {r r' : List Char}
    (hname : ',' ∉ name.toList) (hname' : ',' ∉ name'.toList)
    (h : heading name size ++ r = heading name' size' ++ r') :
    name = name' ∧ size = size' ∧ r = r' := by
  simp only [heading, List.append_assoc, List.cons_append, List.nil_append] at h
  obtain ⟨hnames, h⟩ := append_cons_inj hname hname' h
  obtain ⟨hsizes, h⟩ := zeroPad_append_inj (endsDigits_cons rfl) (endsDigits_cons rfl) h
  exact ⟨String.toList_inj.1 hnames, hsizes, (List.cons.inj h).2⟩

/-- Behind the name and the comma of a member stands a letter or a mark.

**Proof sketch.** By the first member. The token of a known type begins with a letter
(`exists_token_eq_cons`), and structs are written behind marks. -/
theorem exists_text_eq {o : Outline} (h : o.IsReadable) (hne : o ≠ .done) :
    ∃ name c cs, o.text = name ++ ',' :: c :: cs ∧ ',' ∉ name ∧ c.isDigit = false := by
  cases o with
  | done => exact absurd rfl hne
  | plain mem rest =>
    obtain ⟨c, cs, htoken, hc⟩ := BaseType.exists_token_eq_cons h.2.1
    refine ⟨mem.name.toList, c, cs ++ (mem.suffix.toList ++ rest.text), ?_, h.1, ?_⟩
    · simp only [text, htoken, List.cons_append]
    · simp only [List.mem_cons, List.not_mem_nil, or_false] at hc
      rcases hc with rfl | rfl | rfl | rfl | rfl <;> rfl
  | nested mem name size inner rest => exact ⟨mem.name.toList, _, _, rfl, h.1, rfl⟩
  | again mem name rest => exact ⟨mem.name.toList, _, _, rfl, h.1, rfl⟩

/-- Where the members of one struct end, those of another do not go on. -/
theorem eq_done_of_endsMembers {o : Outline} {r : List Char} (h : o.IsReadable)
    (hends : EndsMembers (o.text ++ r)) : o = .done := by
  by_contra hne
  obtain ⟨name, c, cs, htext, hname, hc⟩ := exists_text_eq h hne
  rw [htext, List.append_assoc] at hends
  exact not_endsMembers hname hc hends

/-- The text for a number can be read back among the texts for all members of known types.

**Proof sketch.** The names go up to the first comma (`append_cons_inj`), then the types can be read
back (`BaseType.token_append_inj`) and what is behind them (`Member.suffix_append_inj`). -/
theorem plain_append_inj {mem mem' : Member} {s : HostScalar} {t t' : List Char}
    (hs : mem.ty.base.hostScalar = .ok s) (hknown : mem'.ty.base.IsKnown)
    (hname : ',' ∉ mem.name.toList) (hname' : ',' ∉ mem'.name.toList)
    (h : mem.name.toList ++ ',' :: (mem.ty.base.token.toList ++ (mem.suffix.toList ++ t)) =
      mem'.name.toList ++ ',' :: (mem'.ty.base.token.toList ++ (mem'.suffix.toList ++ t'))) :
    mem = mem' ∧ t = t' := by
  obtain ⟨hnames, htyped⟩ := append_cons_inj hname hname' h
  obtain ⟨u, hu⟩ : ∃ u, mem.suffix.toList = 'x' :: u := ⟨_, mem.toList_suffix⟩
  obtain ⟨u', hu'⟩ : ∃ u', mem'.suffix.toList = 'x' :: u' := ⟨_, mem'.toList_suffix⟩
  rw [hu, hu'] at htyped
  obtain ⟨hbase, htail⟩ := BaseType.token_append_inj hs hknown htyped
  have hsuffix : mem.suffix.toList ++ t = mem'.suffix.toList ++ t' := by
    rw [hu, hu']
    exact congrArg ('x' :: ·) htail
  obtain ⟨hsame, hends⟩ := Member.suffix_append_inj hsuffix
  exact ⟨hsame (String.toList_inj.1 hnames) hbase, hends⟩

/-- The text for members that are numbers, or structs of numbers, can be read back among the texts
for all members.

**Proof sketch.** Induction on the first outline. The name of a member is read up to the comma, the
character behind it tells a number from a struct, and the text for the struct inside is read back
by the hypothesis of the induction, since it ends with its closing brace. -/
theorem text_append_inj {o o' : Outline} {r r' : List Char} (hnumeric : o.IsNumeric)
    (ho : o.IsReadable) (ho' : o'.IsReadable) (hr : EndsMembers r) (hr' : EndsMembers r')
    (h : o.text ++ r = o'.text ++ r') : o = o' ∧ r = r' := by
  induction o generalizing o' r r' with
  | done =>
    change r = o'.text ++ r' at h
    obtain rfl := eq_done_of_endsMembers ho' (h ▸ hr)
    exact ⟨rfl, h⟩
  | plain mem rest ih =>
    obtain ⟨⟨s, hs⟩, hrest⟩ := hnumeric
    cases o' with
    | done =>
      change _ = r' at h
      exact absurd (eq_done_of_endsMembers ho (h.symm ▸ hr')) (by simp)
    | plain mem' rest' =>
      simp only [text, List.append_assoc, List.cons_append] at h
      obtain ⟨rfl, hends⟩ := plain_append_inj hs ho'.2.1 ho.1 ho'.1 h
      obtain ⟨rfl, hback⟩ := ih hrest ho.2.2 ho'.2.2 hr hr' hends
      exact ⟨rfl, hback⟩
    | nested mem' name' size' inner' rest' =>
      simp only [text, List.append_assoc, List.cons_append] at h
      obtain ⟨-, h⟩ := append_cons_inj ho.1 ho'.1 h
      exact absurd h (BaseType.token_append_ne_cons ho.2.1 (by decide))
    | again mem' name' rest' =>
      simp only [text, List.append_assoc, List.cons_append] at h
      obtain ⟨-, h⟩ := append_cons_inj ho.1 ho'.1 h
      exact absurd h (BaseType.token_append_ne_cons ho.2.1 (by decide))
  | nested mem name size inner rest ihi ihr =>
    obtain ⟨hinner, hrest⟩ := hnumeric
    cases o' with
    | done =>
      change _ = r' at h
      exact absurd (eq_done_of_endsMembers ho (h.symm ▸ hr')) (by simp)
    | plain mem' rest' =>
      simp only [text, List.append_assoc, List.cons_append] at h
      obtain ⟨-, h⟩ := append_cons_inj ho.1 ho'.1 h
      exact absurd h.symm (BaseType.token_append_ne_cons ho'.2.1 (by decide))
    | nested mem' name' size' inner' rest' =>
      obtain ⟨hmem, hbase, hname, hin, hre⟩ := ho
      obtain ⟨hmem', hbase', hname', hin', hre'⟩ := ho'
      simp only [text, List.append_assoc, List.cons_append] at h
      obtain ⟨hnames, hopen⟩ := append_cons_inj hmem hmem' h
      obtain ⟨rfl, rfl, htexts⟩ := heading_append_inj hname hname' (List.cons.inj hopen).2
      obtain ⟨rfl, hclose⟩ :=
        ihi hinner hin hin' (endsMembers_close mem _) (endsMembers_close mem' _) htexts
      obtain ⟨hsame, hends⟩ := Member.suffix_append_inj (List.cons.inj hclose).2
      obtain rfl := hsame (String.toList_inj.1 hnames) (hbase.trans hbase'.symm)
      obtain ⟨rfl, hback⟩ := ihr hrest hre hre' hr hr' hends
      exact ⟨rfl, hback⟩
    | again mem' name' rest' =>
      simp only [text, List.append_assoc, List.cons_append] at h
      obtain ⟨-, h⟩ := append_cons_inj ho.1 ho'.1 h
      exact absurd (List.cons.inj h).1 (by decide)
  | again => exact hnumeric.elim

/-- Every member that is no struct has a known type. -/
def IsKnown : Outline → Prop
  | done => True
  | plain mem rest => mem.ty.base.IsKnown ∧ rest.IsKnown
  | nested _ _ _ inner rest => inner.IsKnown ∧ rest.IsKnown
  | again _ _ rest => rest.IsKnown

/-- Numbers are known types.

**Proof sketch.** Induction on the outline. A type with a counterpart on the host is an integer or a
float (`eq_of_hostScalar`). -/
theorem IsNumeric.isKnown {o : Outline} (h : o.IsNumeric) : o.IsKnown := by
  induction o with
  | done => trivial
  | plain mem rest ih =>
    obtain ⟨⟨s, hs⟩, hrest⟩ := h
    refine ⟨?_, ih hrest⟩
    rcases BaseType.eq_of_hostScalar hs with ⟨width, signed, hbase⟩ | ⟨width, hbase⟩
    all_goals
      rw [hbase]
      exact ⟨rfl, fun name => by simp⟩
  | nested mem name size inner rest ihi ihr => exact ⟨ihi h.1, ihr h.2⟩
  | again => exact h.elim

end Outline

/-! ## Structs of modules -/

/-- Neither the struct nor one of its members has a comma in its name. -/
def StructType.HasPlainNames (st : StructType) : Prop :=
  ',' ∉ st.name.toList ∧ ∀ mem ∈ st.members, ',' ∉ mem.name.toList

namespace ShaderModule

/-- Neither the struct `root` nor a struct inside it has a comma in a name of its own. -/
def HasPlainNames (m : ShaderModule) (root : Nat) : Prop :=
  ∀ id st, m.Within root id → m.struct? id = some st → st.HasPlainNames

variable {m m' : ShaderModule}

/-- Where no struct of a set has commas in its names and none refers to a struct outside the set,
outlines are readable.

**Proof sketch.** Induction on the outline. The struct of a member is in the set, so it has plain
names too, and its members refer to structs in the set. -/
theorem HasOutline.isReadable {P : Nat → Prop}
    (hP : ∀ id st, P id → m.struct? id = some st →
      st.HasPlainNames ∧ ∀ mem ∈ st.members, ∀ child, mem.ty.base = .struct child → P child)
    {path : List Nat} {members : List Member} {o : Outline} (h : m.HasOutline path members o)
    (hnames : ∀ mem ∈ members, ',' ∉ mem.name.toList)
    (hchildren : ∀ mem ∈ members, ∀ child, mem.ty.base = .struct child → P child)
    (hknown : o.IsKnown) : o.IsReadable := by
  induction h with
  | done => trivial
  | plain _ _ ih =>
    rw [List.forall_mem_cons] at hnames hchildren
    exact ⟨hnames.1, hknown.1, ih hnames.2 hchildren.2 hknown.2⟩
  | nested hbase hst _ _ _ ihi ihr =>
    rw [List.forall_mem_cons] at hnames hchildren
    obtain ⟨⟨hname, hmembers⟩, hinner⟩ := hP _ _ (hchildren.1 _ hbase) hst
    exact ⟨hnames.1, rfl, hname, ihi hmembers hinner hknown.1, ihr hnames.2 hchildren.2 hknown.2⟩
  | again _ _ _ _ ih =>
    rw [List.forall_mem_cons] at hnames hchildren
    exact ⟨hnames.1, ih hnames.2 hchildren.2 hknown⟩

/-- Where no struct of a set has a member of an unknown type and none refers to a struct outside the
set, all types in outlines are known.

**Proof sketch.** Induction on the outline, as for `HasOutline.isReadable`. -/
theorem HasOutline.isKnown {P : Nat → Prop}
    (hP : ∀ id st, P id → m.struct? id = some st → ∀ mem ∈ st.members,
      (∀ name, mem.ty.base ≠ .foreign name) ∧ ∀ child, mem.ty.base = .struct child → P child)
    {path : List Nat} {members : List Member} {o : Outline} (h : m.HasOutline path members o)
    (hmembers : ∀ mem ∈ members,
      (∀ name, mem.ty.base ≠ .foreign name) ∧ ∀ child, mem.ty.base = .struct child → P child) :
    o.IsKnown := by
  induction h with
  | done => trivial
  | plain hbase _ ih =>
    rw [List.forall_mem_cons] at hmembers
    exact ⟨⟨hbase, hmembers.1.1⟩, ih hmembers.2⟩
  | nested hbase hst _ _ _ ihi ihr =>
    rw [List.forall_mem_cons] at hmembers
    exact ⟨ihi (hP _ _ (hmembers.1.2 _ hbase) hst), ihr hmembers.2⟩
  | again _ _ _ _ ih =>
    rw [List.forall_mem_cons] at hmembers
    exact ih hmembers.2

/-- The outline of a struct without commas in names is readable.

**Proof sketch.** The set is that of all structs found inside this one (`HasOutline.isReadable`). -/
theorem HasPlainNames.isReadable {st : StructType} {o : Outline} (h : m.HasPlainNames st.id)
    (hst : m.struct? st.id = some st) (ho : m.HasOutline [st.id] st.members o)
    (hknown : o.IsKnown) : o.IsReadable := by
  have hP : ∀ id st', m.Within st.id id → m.struct? id = some st' → st'.HasPlainNames ∧
      ∀ mem ∈ st'.members, ∀ child, mem.ty.base = .struct child → m.Within st.id child :=
    fun id st' hid hst' => ⟨h id st' hid hst', fun mem hmem child hbase =>
      hid.child hst' (StructType.mem_children_iff.2 ⟨mem, hmem, hbase⟩)⟩
  exact ho.isReadable hP (h st.id st Within.refl hst).2 (hP st.id st Within.refl hst).2 hknown

/-- **Signatures determine structs.** A struct of numbers, and any other struct, have the same name,
size and outline if they have the same signature and no name in them has a comma in it.

**Proof sketch.** A signature is the heading and the text of the outline (`signature_eq_ok_iff`).
The heading can be read back (`heading_append_inj`). Both outlines are readable
(`HasPlainNames.isReadable`), and the text of a numeric one can be read back among those
(`Outline.text_append_inj`). -/
theorem eq_of_signature_eq {st st' : StructType} {text : String} {o o' : Outline}
    (hst : m.struct? st.id = some st) (hst' : m'.struct? st'.id = some st')
    (hplain : m.HasPlainNames st.id) (hplain' : m'.HasPlainNames st'.id)
    (ho : m.HasOutline [st.id] st.members o) (ho' : m'.HasOutline [st'.id] st'.members o')
    (hnumeric : o.IsNumeric) (hknown : o'.IsKnown)
    (h : m.signature st = .ok text) (h' : m'.signature st' = .ok text) :
    st.name = st'.name ∧ st.size = st'.size ∧ o = o' := by
  obtain ⟨_, hu, htext⟩ := signature_eq_ok_iff.1 h
  obtain ⟨_, hu', htext'⟩ := signature_eq_ok_iff.1 h'
  obtain rfl := ho.unique hu
  obtain rfl := ho'.unique hu'
  obtain ⟨hname, hsize, hmembers⟩ := Outline.heading_append_inj (hplain _ st Within.refl hst).1
    (hplain' _ st' Within.refl hst').1 (htext.symm.trans htext')
  have hreadable := hplain.isReadable hst ho hnumeric.isKnown
  have hreadable' := hplain'.isReadable hst' ho' hknown
  have hends : EndsMembers [] := .inl rfl
  obtain ⟨heq, -⟩ := Outline.text_append_inj hnumeric hreadable hreadable' hends hends
    (congrArg (· ++ []) hmembers)
  exact ⟨hname, hsize, heq⟩

end ShaderModule

end ShaderBindings
