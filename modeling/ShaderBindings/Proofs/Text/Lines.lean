import Mathlib.Data.List.Basic
import ShaderBindings.Text.Lines
/-!
# Lines that are split and moved

What becomes of a line of printed source. A text from a shader may break it into several; what the
source itself puts in front of such a text and behind it stays together.

## Main definitions

* `Text.IsLine` - a text that is not split.
* `Text.margin` - the spaces in front of a line that has been moved.

## Main results

* `Text.splitLines_append_newline` - a line feed splits a text into the lines on both sides of it.
* `Text.IsLine.splitLines_eq` - a text without a line break is one line.
* `Text.exists_splitLines` - a text from elsewhere is split; what stands around it is not.
* `Text.indentBy_singleton` - a line that is moved by steps.
-/

set_option autoImplicit false

namespace ShaderBindings.Text

/-! ## Splitting -/

/-- A line feed ends the line, whatever comes behind it.

**Proof sketch.** What has been collected stands in reverse, so a carriage return at the end of the
line is the first character of it. -/
theorem exists_splitChars_newline (line : List Char) :
    ∃ piece, (piece = line.reverse ∨ line.reverse = piece ++ ['\r']) ∧
      ∀ cs, splitChars line ('\n' :: cs) = piece :: splitChars [] cs := by
  cases line with
  | nil => exact ⟨[], .inl rfl, fun _ => rfl⟩
  | cons c line =>
    by_cases hc : c = '\r'
    · subst hc
      exact ⟨line.reverse, .inr (List.reverse_cons ..), fun _ => rfl⟩
    · refine ⟨(c :: line).reverse, .inl rfl, fun cs => ?_⟩
      rw [splitChars]
      intro l hl
      exact hc (List.cons.inj hl).1

/-- Any other character is collected. -/
theorem splitChars_cons {c : Char} (hc : c ≠ '\n') (line cs : List Char) :
    splitChars line (c :: cs) = splitChars (c :: line) cs := by
  rw [splitChars]
  exact hc

/-- There is always a last line, if only an empty one. -/
theorem splitChars_ne_nil (line cs : List Char) : splitChars line cs ≠ [] := by
  fun_induction splitChars line cs with
  | case1 => simp
  | case2 => simp
  | case3 line c cs _ ih => exact ih

/-- What stands behind a line feed is split on its own.

**Proof sketch.** Induction on what stands in front. Up to a line feed characters are collected on
both sides in the same way. -/
theorem splitChars_append (line a b : List Char) : splitChars line (a ++ '\n' :: b) =
    (splitChars line (a ++ ['\n'])).dropLast ++ splitChars [] b := by
  induction a generalizing line with
  | nil =>
    obtain ⟨piece, -, hpiece⟩ := exists_splitChars_newline line
    rw [List.nil_append, List.nil_append, hpiece, hpiece]
    rfl
  | cons c a ih =>
    by_cases hc : c = '\n'
    · subst hc
      obtain ⟨piece, -, hpiece⟩ := exists_splitChars_newline line
      rw [List.cons_append, List.cons_append, hpiece, hpiece, ih,
        List.dropLast_cons_of_ne_nil (splitChars_ne_nil _ _)]
      rfl
    · rw [List.cons_append, List.cons_append, splitChars_cons hc, splitChars_cons hc, ih]

/-- **Line feeds.** A line feed splits a text into the lines on both sides of it. -/
theorem splitLines_append_newline (a b : String) :
    splitLines (a ++ "\n" ++ b) = splitLines a ++ splitLines b := by
  have htext : (a ++ "\n" ++ b).toList ++ ['\n'] = a.toList ++ '\n' :: (b.toList ++ ['\n']) := by
    simp
  rw [splitLines, htext, splitChars_append, List.dropLast_append_of_ne_nil
    (splitChars_ne_nil _ _), List.map_append]
  rfl

/-- Characters other than line feeds are collected.

**Proof sketch.** Induction on the characters (`splitChars_cons`). -/
theorem splitChars_of_notMem {cs : List Char} (h : '\n' ∉ cs) (line rest : List Char) :
    splitChars line (cs ++ rest) = splitChars (cs.reverse ++ line) rest := by
  induction cs generalizing line with
  | nil => rfl
  | cons c cs ih =>
    obtain ⟨hc, hcs⟩ := not_or.1 (mt List.mem_cons.2 h)
    rw [List.cons_append, splitChars_cons (Ne.symm hc), ih hcs]
    simp

/-- A text without a line feed is one line. A carriage return at its end is lost.

**Proof sketch.** All characters are collected (`splitChars_of_notMem`), and the end of the text
ends the line as a line feed would. -/
theorem exists_splitLines_of_notMem {s : String} (h : '\n' ∉ s.toList) :
    ∃ line, splitLines s = [line] ∧ (line = s ∨ s = line ++ "\r") := by
  obtain ⟨piece, hpiece, hsplit⟩ := exists_splitChars_newline s.toList.reverse
  refine ⟨String.ofList piece, ?_, ?_⟩
  · rw [splitLines, splitChars_of_notMem h, List.append_nil, hsplit]
    rfl
  · rw [List.reverse_reverse] at hpiece
    rcases hpiece with rfl | hpiece
    · exact .inl String.ofList_toList
    · exact .inr (String.toList_inj.1 (by simpa using hpiece))

/-- The text is not split. A line break splits it, and a carriage return at its end would be
dropped. -/
structure IsLine (s : String) : Prop where
  newline : '\n' ∉ s.toList
  carriage : s.toList.getLast? ≠ some '\r'

namespace IsLine

variable {s t : String}

/-- A text without a line break is one line. -/
theorem splitLines_eq (h : IsLine s) : splitLines s = [s] := by
  obtain ⟨line, hsplit, rfl | rfl⟩ := exists_splitLines_of_notMem h.newline
  · exact hsplit
  · exact absurd (by simp) h.carriage

/-- What stands behind a text without a line feed decides how the line ends. -/
theorem append (hs : '\n' ∉ s.toList) (ht : IsLine t) (hne : t ≠ "") : IsLine (s ++ t) where
  newline := by
    rw [String.toList_append, List.mem_append, not_or]
    exact ⟨hs, ht.newline⟩
  carriage := by
    rw [String.toList_append, List.getLast?_append_of_ne_nil _ (by simpa using hne)]
    exact ht.carriage

/-- What stands behind a line, without a line feed, leaves the start of the line as it is.

**Proof sketch.** The whole is one line, and only a carriage return at its end can be lost. That
stands in what is behind, or else it would be the last character of the line in front, which has
none there. -/
theorem exists_splitLines_eq (hs : IsLine s) (h : '\n' ∉ (s ++ t).toList) :
    ∃ rest, splitLines (s ++ t) = [s ++ rest] := by
  obtain ⟨line, hsplit, rfl | hline⟩ := exists_splitLines_of_notMem h
  · exact ⟨t, hsplit⟩
  · -- the carriage return that is lost is the last character of what stands behind
    have hchars : s.toList ++ t.toList = line.toList ++ ['\r'] := by
      simpa using congrArg String.toList hline
    rcases List.eq_nil_or_concat t.toList with ht | ⟨cs, c, ht⟩
    · rw [ht, List.append_nil] at hchars
      exact absurd (by simp [hchars]) hs.carriage
    · rw [ht, List.concat_eq_append, ← List.append_assoc] at hchars
      obtain ⟨hstart, -⟩ := List.append_inj' hchars rfl
      have heq : line = s ++ String.ofList cs := String.toList_inj.1 (by simp [hstart])
      exact ⟨String.ofList cs, heq ▸ hsplit⟩

/-- Lines are not split any further.

**Proof sketch.** Induction on the lines, each of which is one line (`IsLine.splitLines_eq`). -/
theorem flatMap_splitLines {lines : List String} (h : ∀ line ∈ lines, IsLine line) :
    lines.flatMap splitLines = lines := by
  induction lines with
  | nil => rfl
  | cons line lines ih =>
    obtain ⟨hline, hlines⟩ := List.forall_mem_cons.1 h
    rw [List.flatMap_cons, hline.splitLines_eq, ih hlines]
    rfl

end IsLine

/-- What follows a text stays on the last line of it.

**Proof sketch.** The text is split at its last line feed (`splitLines_append_newline`). What is
behind that has no line feed, so it is one line together with the ending (`IsLine.append`). -/
theorem exists_splitLines_append {ending : String} (h : IsLine ending) (hne : ending ≠ "")
    (s : String) : ∃ lines last, splitLines (s ++ ending) = lines ++ [last ++ ending] := by
  by_cases hmem : '\n' ∈ s.toList
  · -- the last line feed is the first one from the right
    obtain ⟨b, a, hreverse, hb⟩ := List.eq_append_cons_of_mem (List.mem_reverse.2 hmem)
    have hs : s = String.ofList a.reverse ++ "\n" ++ String.ofList b.reverse := by
      apply String.toList_inj.1
      rw [← List.reverse_inj, hreverse]
      simp
    have hlast : IsLine (String.ofList b.reverse ++ ending) :=
      .append (by simpa using hb) h hne
    exact ⟨splitLines (String.ofList a.reverse), String.ofList b.reverse, by
      rw [hs, String.append_assoc, splitLines_append_newline, hlast.splitLines_eq]⟩
  · exact ⟨[], s, (IsLine.append hmem h hne).splitLines_eq⟩

/-- **A text between words of the source.** If a text has no line feed, it stays on one line with
what stands around it. Otherwise what stands in front of it opens the first of several lines, and
what stands behind it ends the last one.

**Proof sketch.** Without a line feed the whole is one line (`IsLine.append`). With one, the text is
split at the first line feed: what is in front of it goes with the opening words
(`IsLine.exists_splitLines_eq`), and what is behind it with the ending
(`exists_splitLines_append`). -/
theorem exists_splitLines {opening ending : String} (hopening : IsLine opening)
    (hending : IsLine ending) (hne : ending ≠ "") (s : String) :
    ('\n' ∉ s.toList ∧ splitLines (opening ++ s ++ ending) = [opening ++ s ++ ending]) ∨
      ('\n' ∈ s.toList ∧ ∃ first lines last,
        splitLines (opening ++ s ++ ending) = [opening ++ first] ++ lines ++ [last ++ ending]) := by
  by_cases hmem : '\n' ∈ s.toList
  · refine .inr ⟨hmem, ?_⟩
    obtain ⟨a, b, hs, ha⟩ := List.eq_append_cons_of_mem hmem
    have htext : opening ++ s ++ ending =
        opening ++ String.ofList a ++ "\n" ++ (String.ofList b ++ ending) := by
      apply String.toList_inj.1
      simp [hs]
    have hnewline : '\n' ∉ (opening ++ String.ofList a).toList := by
      simpa using ⟨hopening.newline, ha⟩
    obtain ⟨lines, last, hrest⟩ := exists_splitLines_append hending hne (String.ofList b)
    obtain ⟨first, hsplit⟩ := hopening.exists_splitLines_eq hnewline
    exact ⟨first, lines, last, by rw [htext, splitLines_append_newline, hsplit, hrest]; rfl⟩
  · have hline : IsLine (opening ++ s ++ ending) :=
      .append (by simpa using ⟨hopening.newline, hmem⟩) hending hne
    exact .inl ⟨hmem, hline.splitLines_eq⟩

/-! ## Indentation -/

/-- The spaces in front of a line that has been moved by `n` steps. -/
def margin : Nat → String
  | 0 => ""
  | n + 1 => tab ++ margin n

/-- A margin is made of blanks. -/
theorem eq_space_of_mem_margin {n : Nat} {c : Char} (h : c ∈ (margin n).toList) : c = ' ' := by
  induction n with
  | zero => simp [margin] at h
  | succ n ih =>
    rw [margin, String.toList_append, List.mem_append] at h
    have htab : ∀ c ∈ tab.toList, c = ' ' := by simp [tab]
    exact h.elim (htab c) ih

/-- Lines one after the other are moved to the right one after the other. -/
theorem indentBy_append (n : Nat) (a b : List String) :
    indentBy n (a ++ b) = indentBy n a ++ indentBy n b := by
  induction n with
  | zero => rfl
  | succ n ih => rw [indentBy, ih, indent, List.map_append]; rfl

/-- A line that is moved stands behind a margin, unless it is blank.

**Proof sketch.** Induction on the number of steps. A line that is not empty does not become
empty. -/
theorem indentBy_map {lines : List String} (h : ∀ line ∈ lines, line ≠ "") (n : Nat) :
    indentBy n lines = lines.map (margin n ++ ·) := by
  induction n with
  | zero => simp [indentBy, margin]
  | succ n ih =>
    rw [indentBy, ih, indent, List.map_map]
    refine List.map_congr_left fun line hline => ?_
    have hne : (margin n ++ line).isEmpty = false := by
      simp [h line hline]
    simp [indentLine, hne, margin, String.append_assoc]

/-- One line that is moved stands behind a margin. -/
theorem indentBy_singleton {line : String} (h : line ≠ "") (n : Nat) :
    indentBy n [line] = [margin n ++ line] :=
  indentBy_map (List.forall_mem_singleton.2 h) n

/-- A blank line stays blank. -/
theorem indentBy_blank (n : Nat) : indentBy n [""] = [""] := by
  induction n with
  | zero => rfl
  | succ n ih => rw [indentBy, ih]; rfl

/-! ## Lines as one text -/

/-- The characters of printed lines, each with a line feed behind it. -/
theorem toList_unlines (lines : List String) :
    (unlines lines).toList = lines.flatMap (·.toList ++ ['\n']) := by
  simp [unlines, List.flatMap_map]

/-- Lines one after the other are printed one after the other. -/
theorem toList_unlines_append (a b : List String) :
    (unlines (a ++ b)).toList = (unlines a).toList ++ (unlines b).toList := by
  simp [toList_unlines]

/-- Parts are moved and printed one by one.

**Proof sketch.** Induction on the parts (`indentBy_append`, `toList_unlines_append`). -/
theorem toList_unlines_indentBy_flatMap {α : Type} (n : Nat) (l : List α) (f : α → List String) :
    (unlines (indentBy n (l.flatMap f))).toList =
      l.flatMap fun a => (unlines (indentBy n (f a))).toList := by
  induction l with
  | nil =>
    rw [List.flatMap_nil, indentBy_map (List.forall_mem_nil _)]
    rfl
  | cons a l ih =>
    rw [List.flatMap_cons, List.flatMap_cons, indentBy_append, toList_unlines_append, ih]

/-- **A text between words of the source**, printed. The words in front of it open a line and those
behind it end one, and the text itself is as it was if it has no line feed.

**Proof sketch.** By the two cases of `exists_splitLines`. The first and the last line are not
blank, so they stand behind margins (`indentBy_singleton`), and so does everything between them that
is not blank. -/
theorem exists_unlines_splitLines {opening ending : String} (hopening : IsLine opening)
    (hopening' : opening ≠ "") (hending : IsLine ending) (hending' : ending ≠ "") (n : Nat)
    (s : String) : ∃ spelled,
      (unlines (indentBy n (splitLines (opening ++ s ++ ending)))).toList =
        (margin n).toList ++ opening.toList ++ spelled ++ ending.toList ++ ['\n'] ∧
      ('\n' ∉ s.toList → spelled = s.toList) := by
  rcases exists_splitLines hopening hending hending' s with ⟨-, hsplit⟩ |
    ⟨hmem, first, lines, last, hsplit⟩
  · refine ⟨s.toList, ?_, fun _ => rfl⟩
    rw [hsplit, indentBy_singleton (by simp [hopening'])]
    simp [toList_unlines]
  · refine ⟨first.toList ++ '\n' :: (unlines (indentBy n lines)).toList ++
      ((margin n).toList ++ last.toList), ?_, fun h => absurd hmem h⟩
    rw [hsplit, indentBy_append, indentBy_append, indentBy_singleton (by simp [hopening']),
      indentBy_singleton (by simp [hending'])]
    simp [toList_unlines]

end ShaderBindings.Text
