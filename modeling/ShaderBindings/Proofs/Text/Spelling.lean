import ShaderBindings.Proofs.Text.Scan
import ShaderBindings.Text.Identifier
/-!
# Names spelled in another way

What becomes of the parts of a name when it is spelled as a type or in upper case, and which names
are spelled as identifiers already.

## Main definitions

* `Text.IsSpelled` - the characters of an identifier, the first of which is no digit.

## Main results

* `Text.typeChars_append` - the parts of a name are spelled one by one.
* `Text.typeChars_of_isDigit`, `Text.flatMap_upperChar_of_isDigit` - numbers stay as they are.
* `Text.isSpelled_sanitize`, `sanitize_of_isSpelled` - sanitizing spells a name, and only once.
* `Text.identifier_eq_self_iff` - which names are their own identifiers.
-/

set_option autoImplicit false

namespace ShaderBindings.Text

/-- A digit is its own upper case.

**Proof sketch.** A digit is no small letter, and only these are changed. -/
theorem upperChar_of_isDigit {c : Char} (h : c.isDigit = true) : upperChar c = [c] := by
  simp only [Char.isDigit, Bool.and_eq_true, decide_eq_true_eq, ge_iff_le,
    UInt32.le_iff_toNat_le] at h
  obtain ⟨-, hle⟩ := h
  change c.toNat ≤ 57 at hle
  have hascii : c.toNat < 0x80 := by omega
  have hself : c.toUpper = c := by
    refine dif_neg fun hlower => ?_
    have hge : 97 ≤ c.toNat := UInt32.le_iff_toNat_le.1 hlower.1
    omega
  rw [upperChar, if_pos hascii, hself]

/-- A part of a name without underscores is spelled as a type by itself, and no new part begins
behind it.

**Proof sketch.** Induction on the part. Behind its first character no part begins, and it has no
underscore to begin one. -/
theorem typeChars_append {a : List Char} (b : List Char) (ha : '_' ∉ a) (hne : a ≠ [])
    (start : Bool) : typeChars start (a ++ b) = typeChars start a ++ typeChars false b := by
  induction a generalizing start with
  | nil => exact absurd rfl hne
  | cons c a ih =>
    obtain ⟨hc, ha⟩ : '_' ≠ c ∧ '_' ∉ a := by simpa using ha
    rw [List.cons_append, typeChars, typeChars, if_neg (Ne.symm hc), if_neg (Ne.symm hc)]
    cases a with
    | nil => simp [typeChars]
    | cons d a => rw [ih ha (List.cons_ne_nil d a), List.append_assoc]

/-- Digits are spelled in a type as they are.

**Proof sketch.** Induction on the digits. None of them is an underscore, and each is its own upper
case (`upperChar_of_isDigit`). -/
theorem typeChars_of_isDigit {cs : List Char} (h : ∀ c ∈ cs, c.isDigit = true) (start : Bool) :
    typeChars start cs = cs := by
  induction cs generalizing start with
  | nil => rfl
  | cons c cs ih =>
    obtain ⟨hc, hcs⟩ := List.forall_mem_cons.1 h
    have hne : c ≠ '_' := by
      rintro rfl
      exact absurd hc (by decide)
    rw [typeChars, if_neg hne, upperChar_of_isDigit hc, ite_self, ih hcs]
    rfl

/-- Digits are spelled in upper case as they are.

**Proof sketch.** Induction on the digits (`upperChar_of_isDigit`). -/
theorem flatMap_upperChar_of_isDigit {cs : List Char} (h : ∀ c ∈ cs, c.isDigit = true) :
    cs.flatMap upperChar = cs := by
  induction cs with
  | nil => rfl
  | cons c cs ih =>
    obtain ⟨hc, hcs⟩ := List.forall_mem_cons.1 h
    rw [List.flatMap_cons, upperChar_of_isDigit hc, ih hcs]
    rfl

/-! ## Identifiers -/

/-- Digits are identifier characters. -/
theorem isIdentChar_of_isDigit {c : Char} (h : c.isDigit = true) : isIdentChar c = true := by
  simp [isIdentChar, Char.isAlphanum, h]

/-- The text consists of identifier characters, of one at least, and does not begin with a digit. -/
structure IsSpelled (cs : List Char) : Prop where
  ne_nil : cs ≠ []
  chars : ∀ c ∈ cs, isIdentChar c = true
  head : ∀ c ∈ cs.head?, c.isDigit = false

/-- More identifier characters may stand behind such a text.

The first character stays the first. -/
theorem IsSpelled.append {a b : List Char} (ha : IsSpelled a)
    (hb : ∀ c ∈ b, isIdentChar c = true) : IsSpelled (a ++ b) where
  ne_nil := List.append_ne_nil_of_left_ne_nil ha.ne_nil b
  chars c hc := by
    rcases List.mem_append.1 hc with hc | hc
    · exact ha.chars c hc
    · exact hb c hc
  head := by
    obtain ⟨c, cs, rfl⟩ := List.exists_cons_of_ne_nil ha.ne_nil
    exact ha.head

/-- A name made of identifier characters is such a text.

**Proof sketch.** All characters that cannot stand in an identifier are replaced. An empty name and
a name that begins with a digit get an underscore in front. -/
theorem isSpelled_sanitize (name : String) : IsSpelled (sanitize name).toList := by
  have hchars : ∀ c ∈ name.toList.map fun c => if isIdentChar c then c else '_',
      isIdentChar c = true := by
    intro c hc
    obtain ⟨d, -, rfl⟩ := List.mem_map.1 hc
    split
    · assumption
    · decide
  simp only [sanitize]
  split
  · exact ⟨by decide, by simp [isIdentChar], by simp [Char.isDigit]⟩
  · next c cs heq =>
    rw [heq] at hchars
    split
    · rw [String.toList_ofList]
      refine ⟨List.cons_ne_nil _ _, List.forall_mem_cons.2 ⟨by decide, heq ▸ hchars⟩, ?_⟩
      rintro d ⟨⟩
      decide
    · next hdigit =>
      rw [String.toList_ofList, heq]
      refine ⟨List.cons_ne_nil _ _, hchars, ?_⟩
      rintro d ⟨⟩
      simpa using hdigit

/-- Such a text has nothing to be replaced.

**Proof sketch.** Every character is kept, there is one, and the first one is no digit. -/
theorem sanitize_of_isSpelled {name : String} (h : IsSpelled name.toList) :
    sanitize name = name := by
  have hsame : (name.toList.map fun c => if isIdentChar c then c else '_') = name.toList := by
    refine (List.map_congr_left ?_).trans (List.map_id name.toList)
    exact fun c hc => if_pos (h.chars c hc)
  simp only [sanitize, hsame]
  split
  · next hnil => exact absurd hnil h.ne_nil
  · next c cs heq =>
    have hdigit : c.isDigit = false := h.head c (by rw [heq]; rfl)
    rw [if_neg (by simp [hdigit]), String.ofList_toList]

/-- No character gets lost.

**Proof sketch.** Characters are replaced one by one, and at most one is put in front. -/
theorem length_le_sanitize (name : String) :
    name.toList.length ≤ (sanitize name).toList.length := by
  simp only [sanitize]
  split
  · next hnil => simp [List.map_eq_nil_iff.1 hnil]
  · split
    · simp
    · simp

/-- A name is an identifier as it stands if nothing in it has to be replaced and it is no keyword.

**Proof sketch.** For a fixed word or a keyword the identifier is longer than the name, as no
character gets lost before (`length_le_sanitize`). -/
theorem identifier_eq_self_iff {name : String} : identifier name = name ↔
    sanitize name = name ∧ name ∉ fixedWords ∧ name ∉ keywords := by
  constructor
  · intro h
    have hlength := length_le_sanitize name
    simp only [identifier] at h
    split at h
    · have htext := congrArg (·.toList.length) h
      simp at htext hlength
      omega
    · next hfixed =>
      split at h
      · have htext := congrArg (·.toList.length) h
        simp at htext hlength
        omega
      · next hkeyword =>
        rw [h] at hfixed hkeyword
        exact ⟨h, hfixed, hkeyword⟩
  · rintro ⟨h, hfixed, hkeyword⟩
    simp only [identifier, h, if_neg hfixed, if_neg hkeyword]

end ShaderBindings.Text
