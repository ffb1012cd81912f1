import ShaderBindings.Proofs.Source.Print
import ShaderBindings.Proofs.Text.Literals
/-!
# Embedded words

The words of the stages can be read back from the printed source. For each stage a declaration
stands at the start of a line, whatever modules it is nested in: the length that it declares is the
number of words, and the literals give the words in order, line by line.

## Main definitions

* `ProgramStage.IsEmbedded` - a text holds the declaration of the words of a stage.
* `ShaderBindings.EmbedsCode` - a text holds the words of stages, one after the other.

## Main results

* `ProgramStage.exists_codeText` - the printed words of a stage, moved to the right.
* `ShaderBindings.embedsCode_append` - the printed words of several stages are read one by one.
* `Program.embedsCode` - printed source holds the words of the stages.
-/

set_option autoImplicit false

namespace ShaderBindings

open Text

/-! ## Reading -/

/-- The text declares the words of the stage at the start of one of its lines. Behind the name the
declared length and the literals are read, and `rest` is what stands behind them. A name without a
line feed is the one that stands there. -/
def ProgramStage.IsEmbedded (s : ProgramStage) (text rest : List Char) : Prop :=
  ∃ before margin name table,
    text = before ++ '\n' :: (margin ++ "pub static ".toList ++ name ++ table) ∧
      (∀ c ∈ margin, c = ' ') ∧
      ('\n' ∉ (codeName s.ident).toList → name = (codeName s.ident).toList) ∧
      readTable table = some (s.code.length, s.code.map UInt32.toNat, rest)

/-- The text declares the words of the stages, each behind those of the stage before. What stands
between two such declarations is left open. -/
def EmbedsCode : List ProgramStage → List Char → Prop
  | [], _ => True
  | s :: stages, text => ∃ rest, s.IsEmbedded text rest ∧ EmbedsCode stages rest

/-! ## Printed words -/

/-- No piece of a list is empty.

**Proof sketch.** Induction as in `chunks`: a piece is cut off only where there is an element, and
it begins with that one. -/
theorem ne_nil_of_mem_chunks {α : Type} {n : Nat} {l piece : List α} (h : piece ∈ chunks n l) :
    piece ≠ [] := by
  fun_induction chunks n l with
  | case1 => cases h
  | case2 a rest ih =>
    rcases List.mem_cons.1 h with rfl | h
    · exact List.cons_ne_nil _ _
    · exact ih h

/-- A line of words. -/
def wordLine (words : List UInt32) : String := commas (words.map wordText) ++ ","

namespace ProgramStage

variable (s : ProgramStage)

/-- What the declaration of the words says behind its name. -/
def codeType : String := ": [u32; " ++ toString s.code.length ++ "] = ["

/-- The lines between the brackets, and the last one. -/
def codeBody : List String :=
  ((chunks 7 s.code).map fun words => tab ++ wordLine words) ++ ["];"]

/-- The lines of the code, with the first one cut behind the name of the constant. -/
theorem codeLines_eq :
    s.codeLines = ("pub static " ++ codeName s.ident ++ s.codeType) :: s.codeBody := by
  have hfirst : s!"pub static {codeName s.ident}: [u32; {s.code.length}] = [" =
      "pub static " ++ codeName s.ident ++ s.codeType := by
    change "pub static " ++ codeName s.ident ++ ": [u32; " ++ toString s.code.length ++ "] = [" = _
    simp only [codeType, String.append_assoc]
  have hrow (words : List UInt32) : indentLine (wordLine words) = tab ++ wordLine words :=
    if_neg (by simp [wordLine])
  rw [codeLines, hfirst, bracketed, indent, List.map_map]
  simp only [codeBody, ← hrow]
  rfl

/-- What stands behind the name of the constant is one line. -/
theorem isLine_codeType : IsLine s.codeType := by
  have hdigits : '\n' ∉ (": [u32; " ++ toString s.code.length).toList := by
    have hlength : '\n' ∉ Nat.toDigits 10 s.code.length :=
      newline_notMem_toDigits (by decide) (by decide)
    simpa [Nat.toString_eq_repr] using hlength
  exact IsLine.append hdigits ⟨by decide, by decide⟩ (by decide)

/-- What stands below is lines too: each is made of numbers, commas and brackets. -/
theorem isLine_codeBody : ∀ line ∈ s.codeBody, IsLine line := by
  intro line hline
  rcases List.mem_append.1 hline with hline | hline
  · obtain ⟨words, -, rfl⟩ := List.mem_map.1 hline
    have hwords : '\n' ∉ (tab ++ commas (words.map wordText)).toList := by
      have h := newline_notMem_commas (List.forall_mem_map.2 fun w (_ : w ∈ words) =>
        newline_notMem_wordText w)
      simpa [tab] using h
    rw [wordLine, ← String.append_assoc]
    exact IsLine.append hwords ⟨by decide, by decide⟩ (by decide)
  · obtain rfl := List.mem_singleton.1 hline
    exact ⟨by decide, by decide⟩

/-- None of these lines is empty, so all of them are moved to the right. -/
theorem ne_empty_of_mem_codeBody : ∀ line ∈ s.codeBody, line ≠ "" := by
  intro line hline
  rcases List.mem_append.1 hline with hline | hline
  · obtain ⟨words, -, rfl⟩ := List.mem_map.1 hline
    simp [tab]
  · obtain rfl := List.mem_singleton.1 hline
    decide

/-- The text of the stage, moved to the right by `n` steps. It is what is printed of its declaration
if the source is put into `n` modules. -/
def codeText (n : Nat) : List Char :=
  (unlines (indentBy n (("" :: s.codeLines).flatMap splitLines))).toList

/-- What stands behind the opening bracket lists the words, line by line, up to the closing one.

**Proof sketch.** Each row lists its words (`lists_commas`), with blanks in front of it and behind
it. Put together, the rows list all words, since the pieces do (`flatten_chunks`). -/
theorem exists_codeBody (n : Nat) : ∃ cs, Lists s.code cs ∧
    ['\n'] ++ (unlines (indentBy n s.codeBody)).toList = cs ++ "];".toList ++ ['\n'] := by
  have hnewline : Lists [] ['\n'] := lists_blanks rfl
  have hmargin : Lists [] (margin n).toList := lists_blanks (List.all_eq_true.2 fun c hc => by
    rw [eq_space_of_mem_margin hc]
    rfl)
  have htab : Lists [] tab.toList := lists_blanks (by decide)
  have hrow : ∀ words ∈ chunks 7 s.code, Lists words
      ((margin n).toList ++ (tab.toList ++ ((wordLine words).toList ++ ['\n']))) := by
    intro words hwords
    have h := hmargin.append (htab.append ((lists_commas (ne_nil_of_mem_chunks hwords)).append
      hnewline))
    rwa [List.append_nil] at h
  have hrows := Lists.flatMap hrow
  rw [List.flatMap_id', flatten_chunks] at hrows
  have hlists := hnewline.append (hrows.append hmargin)
  rw [List.append_nil] at hlists
  refine ⟨_, hlists, ?_⟩
  rw [indentBy_map s.ne_empty_of_mem_codeBody, toList_unlines]
  simp [codeBody, List.flatMap_map]

/-- **Words of one stage.** The text of a stage declares, at the start of a line, a list that is
read as the words.

**Proof sketch.** The name may break the line that declares the list, but what stands behind it
stays together, and so does each line of words. -/
theorem exists_codeText (n : Nat) : ∃ name cs,
    s.codeText n = '\n' :: ((margin n).toList ++ "pub static ".toList ++ name ++
      (": [u32; ".toList ++ (toString s.code.length).toList ++ "] = [".toList ++ cs ++
      "];".toList ++ ['\n'])) ∧
    ('\n' ∉ (codeName s.ident).toList → name = (codeName s.ident).toList) ∧ Lists s.code cs := by
  have hopening : IsLine "pub static " := ⟨by decide, by decide⟩
  have hne : s.codeType ≠ "" := by simp [codeType]
  obtain ⟨name, hfirst, hname⟩ :=
    exists_unlines_splitLines hopening (by decide) s.isLine_codeType hne n (codeName s.ident)
  have hblank : splitLines "" = [""] := IsLine.splitLines_eq ⟨by decide, by decide⟩
  have hsplit : ("" :: s.codeLines).flatMap splitLines =
      [""] ++ splitLines ("pub static " ++ codeName s.ident ++ s.codeType) ++ s.codeBody := by
    rw [codeLines_eq, List.flatMap_cons, List.flatMap_cons, IsLine.flatMap_splitLines
      s.isLine_codeBody, hblank, List.append_assoc]
  obtain ⟨cs, hlists, hbody⟩ := s.exists_codeBody n
  refine ⟨name, cs, ?_, hname, hlists⟩
  rw [codeText, hsplit, indentBy_append, indentBy_append, indentBy_blank, toList_unlines_append,
    toList_unlines_append, hfirst]
  simp only [List.append_assoc] at hbody ⊢
  rw [hbody]
  simp [toList_unlines, codeType]

end ProgramStage

/-- **Words of several stages.** Where the texts of stages stand one after the other, their words
are read one after the other.

**Proof sketch.** Induction on the stages. The text of the first one opens its constant
(`exists_codeText`) and lists its words, so `readTable_of_lists` reads them whatever comes behind.
The text of the others begins on a new line. -/
theorem embedsCode_append (n : Nat) (stages : List ProgramStage) (before after : List Char) :
    EmbedsCode stages (before ++ stages.flatMap (·.codeText n) ++ after) := by
  induction stages generalizing before with
  | nil => trivial
  | cons s stages ih =>
    obtain ⟨name, cs, htext, hname, hlists⟩ := s.exists_codeText n
    refine ⟨['\n'] ++ stages.flatMap (·.codeText n) ++ after,
      ⟨before, (margin n).toList, name, _, ?_, fun _ => eq_space_of_mem_margin, hname,
        readTable_of_lists hlists _⟩, ih ['\n']⟩
    rw [List.flatMap_cons, htext]
    simp only [List.append_assoc, List.cons_append]

namespace Program

/-- The words of the stages stand in one piece of the source.

**Proof sketch.** The lines of the code stand one after the other among the parts
(`exists_codeLines_of_sections`). Cutting parts into lines, moving them to the right and writing
them out go over appended lists (`indentBy_append`, `toList_unlines_append`), so their text stands
in one piece too. -/
theorem exists_codeText_of_print {p : Program} {options : Options} {text : String}
    (h : p.print options = .ok text) (hsource : options.source = true) : ∃ before after,
    text.toList = before ++ p.stages.flatMap (·.codeText options.modules.length) ++ after := by
  obtain ⟨parts, hparts, rfl⟩ := print_eq_ok_iff.1 h
  obtain ⟨front, back, rfl⟩ := exists_codeLines_of_sections hparts hsource
  obtain ⟨lines, lines', hbody⟩ : ∃ lines lines',
      (importLines ++ (front ++ p.stages.map (·.codeLines) ++ back).flatMap ("" :: ·)).flatMap
        splitLines =
      lines ++ p.stages.flatMap (fun s => ("" :: s.codeLines).flatMap splitLines) ++ lines' := by
    refine ⟨(importLines ++ front.flatMap ("" :: ·)).flatMap splitLines,
      (back.flatMap ("" :: ·)).flatMap splitLines, ?_⟩
    simp only [List.flatMap_append, List.flatMap_map, List.flatMap_assoc, List.append_assoc]
  obtain ⟨opening, closing, hnest⟩ := exists_nest options.modules
    (lines ++ p.stages.flatMap (fun s => ("" :: s.codeLines).flatMap splitLines) ++ lines')
  refine ⟨(unlines (headerLine :: opening ++ indentBy options.modules.length lines)).toList,
    (unlines (indentBy options.modules.length lines' ++ closing)).toList, ?_⟩
  have hcode : p.stages.flatMap (·.codeText options.modules.length) =
      (unlines (indentBy options.modules.length
        (p.stages.flatMap fun s => ("" :: s.codeLines).flatMap splitLines))).toList :=
    (toList_unlines_indentBy_flatMap ..).symm
  rw [hbody, hnest, indentBy_append, indentBy_append, hcode, ← toList_unlines_append,
    ← toList_unlines_append]
  simp only [List.append_assoc, List.cons_append]

/-- **Embedded words.** A program can be printed unless one of its push-constant ranges ends before
it starts. If words are embedded, what is printed declares for each stage, in order, a list of as
many words as the stage has, and the literals of the list, from the left and line by line, are these
words. It makes no difference how many words there are and which modules the source is put into.

**Proof sketch.** The parts of the stages follow one another in the source. Moving them into the
modules puts spaces in front of their lines, and these are skipped where words are read. -/
theorem embedsCode {p : Program} {options : Options} (hsource : options.source = true) :
    ((∃ text, p.print options = .ok text) ↔ ∀ r ∈ p.pushRanges, r.start ≤ r.stop) ∧
      ∀ text, p.print options = .ok text → EmbedsCode p.stages text.toList := by
  refine ⟨exists_print_iff, fun text htext => ?_⟩
  obtain ⟨before, after, hcode⟩ := exists_codeText_of_print htext hsource
  rw [hcode]
  exact embedsCode_append _ _ _ _

end Program

/-- A program with nine words in one stage and none in the other. -/
def nineWords : Program where
  pushRanges := [{ start := 0, stop := 16, stages := {.vertex} }]
  stages :=
    [{ ident := "vert", stage := .vertex, entry := "main", specializations := []
       code := [0x07230203, 0x00010000, 0, 0xffffffff, 1, 0xa0, 0xb, 0x10, 0x80000000] },
     { ident := "frag", stage := .fragment, entry := "main", specializations := [], code := [] }]

/-- Nine words in two rows, inside two modules. -/
theorem embedsCode_nineWords : ∃ text,
    nineWords.print { modules := ["shaders", "mesh"] } = .ok text ∧
      EmbedsCode nineWords.stages text.toList := by
  have hsource : ({ modules := ["shaders", "mesh"] } : Options).source = true := rfl
  obtain ⟨hprint, hembeds⟩ := Program.embedsCode (p := nineWords) hsource
  obtain ⟨text, htext⟩ := hprint.2 (by decide)
  exact ⟨text, htext, hembeds text htext⟩

end ShaderBindings
