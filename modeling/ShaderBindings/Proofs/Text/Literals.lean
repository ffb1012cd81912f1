import Mathlib.Data.List.Basic
import ShaderBindings.Proofs.Text.Scan
import ShaderBindings.Source.Stages
/-!
# Reading words from a text

Printed words can be read back. A reader goes through the text from the left: it takes a number up
to the first character that is no digit, the literals of a list one by one, whatever blanks and line
breaks stand in front of them, and the whole of a list with the length that is declared for it.

## Main definitions

* `Text.readNumber` - a number at the start of a text, and what stands behind it.
* `Text.readWords`, `Text.readTable` - hexadecimal literals, and a list of them with its length.
* `Text.Lists` - a text that is read as a list of words, whatever stands behind it.

## Main results

* `Text.readNumber_zeroPad` - numbers are read back in any base up to 16.
* `Text.lists_word`, `Lists.append` - a printed word is read, and words one after the other.
* `Text.readTable_of_lists` - a list is read with the length that is declared for it.
-/

set_option autoImplicit false

namespace ShaderBindings.Text

/-! ## Numbers -/

/-- What a digit, or a letter used as one, counts. -/
def digitNumber (c : Char) : Nat :=
  if c.isDigit then c.toNat - '0'.toNat else c.toLower.toNat - 'a'.toNat + 10

/-- The value of a character as a digit of a base up to 36. -/
def digitValue? (base : Nat) (c : Char) : Option Nat :=
  if c.isAlphanum ∧ digitNumber c < base then some (digitNumber c) else none

/-- Goes on with the digits behind those of `n`, up to the first character that is none. -/
def readDigits (base n : Nat) : List Char → Nat × List Char
  | [] => (n, [])
  | c :: cs =>
    match digitValue? base c with
    | some d => readDigits base (base * n + d) cs
    | none => (n, c :: cs)

/-- A number of at least one digit, and what stands behind it. -/
def readNumber (base : Nat) (cs : List Char) : Option (Nat × List Char) :=
  let (n, rest) := readDigits base 0 cs
  if rest.length < cs.length then some (n, rest) else none

variable {base d n : Nat} {rest : List Char}

/-- A digit is read as its value. -/
theorem digitValue?_digitChar (hbase : base ≤ 16) (hd : d < base) :
    digitValue? base d.digitChar = some d := by
  have hvalues : ∀ d < 16, d.digitChar.isAlphanum = true ∧ digitNumber d.digitChar = d := by decide
  obtain ⟨halphanum, hvalue⟩ := hvalues d (by omega)
  rw [digitValue?, hvalue]
  exact if_pos ⟨halphanum, hd⟩

/-- Reading the digits of a number gives the number, and reading goes on behind them.

**Proof sketch.** Strong induction on the number. All digits but the last one are those of the
quotient, and the last one is the remainder. -/
theorem readDigits_toDigits (hbase : base ≤ 16) (hone : 1 < base) :
    readDigits base 0 (Nat.toDigits base n ++ rest) = readDigits base n rest := by
  induction n using Nat.strongRecOn generalizing rest with
  | ind n ih =>
    by_cases hlt : n < base
    · rw [Nat.toDigits_of_lt_base hlt]
      simp [readDigits, digitValue?_digitChar hbase hlt]
    · have hsmaller : n / base < n := Nat.div_lt_self (by omega) hone
      have hlast : n % base < base := Nat.mod_lt _ (by omega)
      rw [Nat.toDigits_of_base_le hone (by omega), List.append_assoc, ih _ hsmaller]
      simp [readDigits, digitValue?_digitChar hbase hlast, Nat.div_add_mod]

/-- Zeros in front of a number make no difference. -/
theorem readDigits_replicate_zero (hbase : 0 < base) (k : Nat) :
    readDigits base 0 (List.replicate k '0' ++ rest) = readDigits base 0 rest := by
  have hzero : digitValue? base '0' = some 0 := if_pos ⟨by decide, hbase⟩
  induction k with
  | zero => rfl
  | succ k ih => simpa [List.replicate_succ, readDigits, hzero] using ih

/-- **Numbers are read back.** The digits of a number, with zeros in front of them or not, are read
as the number if no digit stands behind them.

**Proof sketch.** Zeros make no difference (`readDigits_replicate_zero`), and the digits of the
number are read (`readDigits_toDigits`) up to the character behind them. There is at least one
digit. -/
theorem readNumber_zeroPad (hbase : base ≤ 16) (hone : 1 < base) (width : Nat)
    (hrest : Halts (fun c => (digitValue? base c).isSome) rest) :
    readNumber base (zeroPad width (Nat.toDigits base n) ++ rest) = some (n, rest) := by
  have hstop : readDigits base n rest = (n, rest) := by
    cases rest with
    | nil => rfl
    | cons c cs =>
      have hnone : digitValue? base c = none := by simpa using hrest c rfl
      simp [readDigits, hnone]
  have hdigits : readDigits base 0 (zeroPad width (Nat.toDigits base n) ++ rest) = (n, rest) := by
    rw [zeroPad, List.append_assoc, readDigits_replicate_zero (by omega),
      readDigits_toDigits hbase hone, hstop]
  have hshorter : rest.length < (zeroPad width (Nat.toDigits base n) ++ rest).length := by
    have hsome : 0 < (Nat.toDigits base n).length := List.length_pos_iff.2 Nat.toDigits_ne_nil
    simp only [zeroPad, List.length_append]
    omega
  simp only [readNumber, hdigits, if_pos hshorter]

/-- A length that stands in a text is read. -/
theorem readNumber_toString (hrest : Halts (fun c => (digitValue? 10 c).isSome) rest) :
    readNumber 10 ((toString n).toList ++ rest) = some (n, rest) := by
  have hpad : (toString n).toList = zeroPad 0 (Nat.toDigits 10 n) := by
    simp [zeroPad, Nat.toString_eq_repr]
  rw [hpad]
  exact readNumber_zeroPad (by decide) (by decide) 0 hrest

/-! ## Lists of words -/

/-- The text without the blanks and line breaks at its start. -/
def skipBlanks (cs : List Char) : List Char := cs.dropWhile Char.isWhitespace

/-- As many hexadecimal literals as asked for, each with a comma behind it. Blanks and line breaks
may stand in front of each and behind the last. -/
def readWords : Nat → List Char → Option (List Nat × List Char)
  | 0, cs => some ([], skipBlanks cs)
  | n + 1, cs => do
    let cs ← (skipBlanks cs).dropPrefix? ['0', 'x']
    let (word, cs) ← readNumber 16 cs
    let cs ← cs.dropPrefix? [',']
    let (words, cs) ← readWords n cs
    return (word :: words, cs)

/-- The type and the value of a list of words: the length that the type declares, that many words,
and what stands behind the list. -/
def readTable (cs : List Char) : Option (Nat × List Nat × List Char) := do
  let cs ← cs.dropPrefix? ": [u32; ".toList
  let (n, cs) ← readNumber 10 cs
  let cs ← cs.dropPrefix? "] = [".toList
  let (words, cs) ← readWords n cs
  let cs ← cs.dropPrefix? "];".toList
  return (n, words, cs)

/-- The text is read as these words, whatever is to be read behind it. So texts of this kind can be
put one behind the other. -/
def Lists (words : List UInt32) (cs : List Char) : Prop :=
  ∀ n rest, readWords (n + words.length) (cs ++ rest) =
    (readWords n rest).map fun (more, rest) => (words.map UInt32.toNat ++ more, rest)

/-- A text that begins with the given one goes on behind it. -/
theorem dropPrefix?_append (opening rest : List Char) :
    (opening ++ rest).dropPrefix? opening = some rest :=
  List.dropPrefix?_append_of_beq rest (beq_self_eq_true opening)

/-- Blanks and line breaks hold no words.

**Proof sketch.** Blanks are skipped before anything is read, and skipping them first makes no
difference. -/
theorem lists_blanks {cs : List Char} (h : cs.all Char.isWhitespace = true) : Lists [] cs := by
  intro n rest
  have hskip : skipBlanks (cs ++ rest) = skipBlanks rest :=
    List.dropWhile_append_of_pos (List.all_eq_true.1 h)
  have hread : readWords n (cs ++ rest) = readWords n rest := by
    cases n with
    | zero => rw [readWords, readWords, hskip]
    | succ n => rw [readWords, readWords, hskip]
  simp [hread]

/-- **Words are read back.** A printed word is read as the word.

**Proof sketch.** The prefix is dropped, eight digits are read as the number (`readNumber_zeroPad`),
and the comma behind them is no digit. -/
theorem lists_word (w : UInt32) : Lists [w] ((wordText w).toList ++ [',']) := by
  intro n rest
  have hnumber : readNumber 16 (zeroPad 8 (hexDigits w.toNat) ++ ',' :: rest) =
      some (w.toNat, ',' :: rest) :=
    readNumber_zeroPad (by decide) (by decide) 8 (halts_cons (by decide))
  have htext : (wordText w).toList ++ [','] ++ rest =
      ['0', 'x'] ++ (zeroPad 8 (hexDigits w.toNat) ++ ',' :: rest) := by
    simp [wordText]
  have hskip (cs : List Char) : skipBlanks (['0', 'x'] ++ cs) = ['0', 'x'] ++ cs := rfl
  have hcomma : (',' :: rest).dropPrefix? [','] = some rest := dropPrefix?_append [','] rest
  rw [htext, List.length_singleton, readWords, hskip, dropPrefix?_append, Option.bind_eq_bind,
    Option.bind_some, hnumber, Option.bind_eq_bind, Option.bind_some]
  simp only [hcomma, Option.bind_some]
  cases readWords n rest <;> rfl

namespace Lists

variable {ws vs : List UInt32} {cs ds : List Char}

/-- The empty text lists no words. -/
theorem nil : Lists [] [] := lists_blanks rfl

/-- Words are read one after the other. -/
theorem append (h : Lists ws cs) (h' : Lists vs ds) : Lists (ws ++ vs) (cs ++ ds) := by
  intro n rest
  rw [List.length_append, Nat.add_comm ws.length, ← Nat.add_assoc, List.append_assoc, h, h',
    Option.map_map]
  simp [Function.comp_def]

/-- Words are read part by part. -/
theorem flatMap {α : Type} {f : α → List UInt32} {g : α → List Char} {l : List α}
    (h : ∀ a ∈ l, Lists (f a) (g a)) : Lists (l.flatMap f) (l.flatMap g) := by
  induction l with
  | nil => exact nil
  | cons a l ih =>
    obtain ⟨ha, hl⟩ := List.forall_mem_cons.1 h
    exact ha.append (ih hl)

end Lists

/-- The words of a line, with a comma behind each, are read.

**Proof sketch.** Induction on the words: each has a comma behind it, and a blank if there is
another one (`lists_word`, `lists_blanks`). -/
theorem lists_commas {ws : List UInt32} (hne : ws ≠ []) :
    Lists ws (commas (ws.map wordText) ++ ",").toList := by
  induction ws with
  | nil => exact absurd rfl hne
  | cons w ws ih =>
    cases ws with
    | nil => simpa [commas] using lists_word w
    | cons v ws =>
      have hblank : Lists [] [' '] := lists_blanks rfl
      have h := (lists_word w).append (hblank.append (ih (List.cons_ne_nil v ws)))
      simpa [commas] using h

/-- **A list is read back.** What lists words, between brackets and behind the type that declares
how many there are, is read as those words.

**Proof sketch.** The length is read (`readNumber_toString`), then as many words as it says, and the
closing bracket stands where they end. -/
theorem readTable_of_lists {ws : List UInt32} {cs : List Char} (h : Lists ws cs)
    (rest : List Char) :
    readTable (": [u32; ".toList ++ (toString ws.length).toList ++ "] = [".toList ++ cs ++
      "];".toList ++ rest) = some (ws.length, ws.map UInt32.toNat, rest) := by
  have hlength : readNumber 10 ((toString ws.length).toList ++
      ("] = [".toList ++ (cs ++ ("];".toList ++ rest)))) =
      some (ws.length, "] = [".toList ++ (cs ++ ("];".toList ++ rest))) :=
    readNumber_toString (halts_cons (by decide))
  have hwords : readWords ws.length (cs ++ ("];".toList ++ rest)) =
      some (ws.map UInt32.toNat, "];".toList ++ rest) := by
    have hend : readWords 0 ("];".toList ++ rest) = some ([], "];".toList ++ rest) := rfl
    rw [← Nat.zero_add ws.length, h, hend]
    simp only [Option.map_some, List.append_nil]
  simp only [List.append_assoc, readTable, dropPrefix?_append, Option.bind_eq_bind,
    Option.bind_some, hlength, hwords]
  rfl

example : readTable ": [u32; 2] = [\n    0x07230203,\n    0x0000000a,\n];\n".toList =
    some (2, [0x07230203, 0xa], ['\n']) := by decide

/-! ## Line breaks -/

/-- Digits do not break a line.

**Proof sketch.** Strong induction on the number, digit by digit. -/
theorem newline_notMem_toDigits (hbase : base ≤ 16) (hone : 1 < base) :
    '\n' ∉ Nat.toDigits base n := by
  have hdigits : ∀ d < 16, '\n' ≠ Nat.digitChar d := by decide
  induction n using Nat.strongRecOn with
  | ind n ih =>
    by_cases hlt : n < base
    · rw [Nat.toDigits_of_lt_base hlt, List.mem_singleton]
      exact hdigits n (by omega)
    · have hlast : n % base < base := Nat.mod_lt _ (by omega)
      rw [Nat.toDigits_of_base_le hone (by omega), List.mem_append, List.mem_singleton, not_or]
      exact ⟨ih _ (Nat.div_lt_self (by omega) hone), hdigits _ (by omega)⟩

/-- A printed word has no line break. -/
theorem newline_notMem_wordText (w : UInt32) : '\n' ∉ (wordText w).toList := by
  have hhex : '\n' ∉ hexDigits w.toNat := newline_notMem_toDigits (by decide) (by decide)
  simp [wordText, zeroPad, hhex]

/-- Parts between commas have no line break if none of them has. -/
theorem newline_notMem_commas {parts : List String} (h : ∀ part ∈ parts, '\n' ∉ part.toList) :
    '\n' ∉ (commas parts).toList := by
  induction parts with
  | nil => simp [commas]
  | cons part parts ih =>
    obtain ⟨hpart, hparts⟩ := List.forall_mem_cons.1 h
    cases parts with
    | nil => simpa [commas] using hpart
    | cons next parts =>
      have hrest := ih hparts
      rw [commas] at hrest ⊢
      simpa [hpart] using hrest

end ShaderBindings.Text
