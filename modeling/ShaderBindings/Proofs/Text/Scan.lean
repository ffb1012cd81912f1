import ShaderBindings.Text.Quoted
/-!
# Reading a text from the left

When two parts of a text can be told apart from what stands behind them: a name up to the comma
behind it, and a number up to the first character that is no digit.

## Main definitions

* `Text.Halts` - a text does not go on with a character of a kind.

## Main results

* `Text.append_inj_of_halts` - a run of characters of one kind ends where the kind ends.
* `Text.toDigits_append_inj`, `Text.zeroPad_append_inj` - numbers are read back.
-/

set_option autoImplicit false

namespace ShaderBindings.Text

/-- The text is empty or starts with a character that is not of the kind. A reader that takes
characters of the kind stops in front of it. -/
def Halts (kind : Char → Prop) (r : List Char) : Prop := ∀ c ∈ r.head?, ¬ kind c

/-- A run of characters of a kind, with something else behind it, can be read back.

**Proof sketch.** Induction on the first run. Where one run goes on and the other does not, a
character of the kind stands at the head of a text that must not have one there. -/
theorem append_inj_of_halts {kind : Char → Prop} {a b r s : List Char} (ha : ∀ c ∈ a, kind c)
    (hb : ∀ c ∈ b, kind c) (hr : Halts kind r) (hs : Halts kind s) (h : a ++ r = b ++ s) :
    a = b ∧ r = s := by
  induction a generalizing b with
  | nil =>
    cases b with
    | nil => exact ⟨rfl, h⟩
    | cons c b =>
      have hhead : c ∈ r.head? := by
        change r = c :: (b ++ s) at h
        rw [h]
        rfl
      exact absurd (hb c List.mem_cons_self) (hr c hhead)
  | cons c a ih =>
    cases b with
    | nil =>
      have hhead : c ∈ s.head? := by
        change c :: (a ++ r) = s at h
        rw [← h]
        rfl
      exact absurd (ha c List.mem_cons_self) (hs c hhead)
    | cons d b =>
      obtain ⟨rfl, htail⟩ := List.cons.inj h
      obtain ⟨rfl, hrest⟩ := ih (fun x hx => ha x (List.mem_cons_of_mem c hx))
        (fun x hx => hb x (List.mem_cons_of_mem c hx)) htail
      exact ⟨rfl, hrest⟩

/-- A text halts at its first character if that is not of the kind. -/
theorem halts_cons {kind : Char → Prop} {c : Char} {r : List Char} (h : ¬ kind c) :
    Halts kind (c :: r) := by
  intro d hd
  obtain rfl : c = d := by simpa using hd
  exact h

/-- What stands in front of a character that it does not hold can be read back. -/
theorem append_cons_inj {sep : Char} {a b r s : List Char} (ha : sep ∉ a) (hb : sep ∉ b)
    (h : a ++ sep :: r = b ++ sep :: s) : a = b ∧ r = s := by
  have hsep (t : List Char) : Halts (· ≠ sep) (sep :: t) := halts_cons fun hne => hne rfl
  have hkind {t : List Char} (ht : sep ∉ t) : ∀ c ∈ t, c ≠ sep :=
    fun c hc heq => ht (heq ▸ hc)
  obtain ⟨hab, hrs⟩ := append_inj_of_halts (hkind ha) (hkind hb) (hsep r) (hsep s) h
  exact ⟨hab, (List.cons.inj hrs).2⟩

/-! ## Numbers -/

/-- The text does not go on with a digit. -/
def EndsDigits (r : List Char) : Prop := Halts (·.isDigit = true) r

/-- A text that starts with anything but a digit does not go on with one. -/
theorem endsDigits_cons {c : Char} {r : List Char} (h : c.isDigit = false) : EndsDigits (c :: r) :=
  halts_cons (by simp [h])

/-- The digits of a number are digits. -/
theorem isDigit_of_mem_toDigits {n : Nat} {c : Char} (h : c ∈ Nat.toDigits 10 n) :
    c.isDigit = true :=
  Nat.isDigit_of_mem_toDigits (by decide) (by decide) h

/-- The digits of a number start with a digit. -/
theorem exists_toDigits_eq_cons (n : Nat) :
    ∃ c cs, Nat.toDigits 10 n = c :: cs ∧ c.isDigit = true := by
  obtain ⟨c, cs, h⟩ := List.exists_cons_of_ne_nil (Nat.toDigits_ne_nil (n := n) (b := 10))
  exact ⟨c, cs, h, isDigit_of_mem_toDigits (h ▸ List.mem_cons_self)⟩

/-- A number with no further digit behind it can be read back. -/
theorem toDigits_append_inj {a b : Nat} {r s : List Char} (hr : EndsDigits r) (hs : EndsDigits s)
    (h : Nat.toDigits 10 a ++ r = Nat.toDigits 10 b ++ s) : a = b ∧ r = s := by
  obtain ⟨hab, hrs⟩ := append_inj_of_halts (fun _ => isDigit_of_mem_toDigits)
    (fun _ => isDigit_of_mem_toDigits) hr hs h
  have hvalue := congrArg (Nat.ofDigitChars 10 · 0) hab
  simp only [Nat.ofDigitChars_ten_toDigits] at hvalue
  exact ⟨hvalue, hrs⟩

/-- Numbers with the same digits are the same. -/
theorem toDigits_inj {a b : Nat} (h : Nat.toDigits 10 a = Nat.toDigits 10 b) : a = b := by
  have hends : EndsDigits [] := by simp [EndsDigits, Halts]
  exact (toDigits_append_inj hends hends (congrArg (· ++ []) h)).1

/-- Zeros in front make no difference to a number. -/
theorem ofDigitChars_zeroPad (width n : Nat) :
    Nat.ofDigitChars 10 (zeroPad width (Nat.toDigits 10 n)) 0 = n := by
  rw [zeroPad, Nat.ofDigitChars_append, Nat.ofDigitChars_replicate_zero, Nat.mul_zero,
    Nat.ofDigitChars_ten_toDigits]

/-- A number filled up with zeros, with no further digit behind it, can be read back.

**Proof sketch.** Both are made of digits alone, so they can be cut from what is behind
(`append_inj_of_halts`), and zeros in front make no difference to the number
(`ofDigitChars_zeroPad`). -/
theorem zeroPad_append_inj {width a b : Nat} {r s : List Char} (hr : EndsDigits r)
    (hs : EndsDigits s)
    (h : zeroPad width (Nat.toDigits 10 a) ++ r = zeroPad width (Nat.toDigits 10 b) ++ s) :
    a = b ∧ r = s := by
  have hdigits (n : Nat) : ∀ c ∈ zeroPad width (Nat.toDigits 10 n), c.isDigit = true := by
    intro c hc
    rcases List.mem_append.1 hc with hc | hc
    · obtain rfl := List.eq_of_mem_replicate hc
      rfl
    · exact isDigit_of_mem_toDigits hc
  obtain ⟨hab, hrs⟩ := append_inj_of_halts (hdigits a) (hdigits b) hr hs h
  have hvalue := congrArg (Nat.ofDigitChars 10 · 0) hab
  simp only [ofDigitChars_zeroPad] at hvalue
  exact ⟨hvalue, hrs⟩

end ShaderBindings.Text
