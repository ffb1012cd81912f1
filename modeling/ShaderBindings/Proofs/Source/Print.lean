import ShaderBindings.Proofs.Result
import ShaderBindings.Proofs.Text.Lines
import ShaderBindings.Source.Print
/-!
# How printed source is put together

A program can be printed unless a push-constant range ends before it starts. The lines of its parts
then stand between those that open the modules and those that close them, moved to the right by a
step for each module.

## Main results

* `Program.exists_print_iff` - which programs can be printed.
* `Program.exists_nest` - lines inside nested modules.
* `Program.exists_codeLines_of_sections` - the embedded words are among the parts.
-/

set_option autoImplicit false

namespace ShaderBindings

open Result Text

/-! ## Push constants -/

/-- A range can be printed if it does not end before it starts. -/
theorem PushRange.exists_lines_iff {r : PushRange} :
    (∃ lines, r.lines = .ok lines) ↔ r.start ≤ r.stop := by
  simp only [PushRange.lines, PushRange.size, bind_eq_ok_iff, Word.sub_eq_ok_iff]
  constructor
  · rintro ⟨_, _, ⟨hle, -⟩, -⟩
    exact hle
  · exact fun hle => ⟨_, _, ⟨hle, rfl⟩, rfl⟩

/-- All ranges can be printed if each of them can. -/
theorem exists_pushRangeLines_iff {ranges : List PushRange} :
    (∃ lines, pushRangeLines ranges = .ok lines) ↔ ∀ r ∈ ranges, r.start ≤ r.stop := by
  simp only [pushRangeLines, bind_eq_ok_iff]
  constructor
  · rintro ⟨_, items, hitems, -⟩ r hr
    obtain ⟨i, hi⟩ := List.mem_iff_getElem?.1 hr
    obtain ⟨lines, -, hlines⟩ := forall₂_getElem? (mapM_eq_ok_iff.1 hitems) hi
    exact PushRange.exists_lines_iff.1 ⟨lines, hlines⟩
  · intro h
    obtain ⟨items, hitems⟩ := exists_mapM fun r hr => PushRange.exists_lines_iff.2 (h r hr)
    exact ⟨_, items, hitems, rfl⟩

/-! ## Programs -/

namespace Program

variable {p : Program} {options : Options}

/-- The parts of the source can be made if the ranges can be printed: nothing else can fail. -/
theorem exists_sections_iff :
    (∃ parts, p.sections options = .ok parts) ↔ ∀ r ∈ p.pushRanges, r.start ≤ r.stop := by
  rw [← exists_pushRangeLines_iff]
  by_cases hsome : p.hasPushConstants
  · simp only [sections, if_pos hsome, bind_eq_ok_iff]
    constructor
    · rintro ⟨_, push, hpush, -⟩
      obtain ⟨lines, hlines, -⟩ := map_eq_ok_iff.1 hpush
      exact ⟨lines, hlines⟩
    · rintro ⟨lines, hlines⟩
      exact ⟨_, _, map_eq_ok_iff.2 ⟨lines, hlines, rfl⟩, rfl⟩
  · have hnone : p.pushRanges = [] := by simpa [hasPushConstants] using hsome
    rw [sections, if_neg hsome, hnone]
    exact ⟨fun _ => ⟨_, rfl⟩, fun _ => ⟨_, rfl⟩⟩

/-- Printed source: a line at the head, then the imports and the parts, inside the modules asked
for. -/
theorem print_eq_ok_iff {text : String} :
    p.print options = .ok text ↔ ∃ parts, p.sections options = .ok parts ∧
      text = unlines (headerLine ::
        nest options.modules ((importLines ++ parts.flatMap ("" :: ·)).flatMap splitLines)) := by
  simp only [print, bind_eq_ok_iff]
  exact ⟨fun ⟨parts, hparts, h⟩ => ⟨parts, hparts, (Except.ok.inj h).symm⟩,
    fun ⟨parts, hparts, h⟩ => ⟨parts, hparts, congrArg Except.ok h.symm⟩⟩

/-- **What can be printed.** A program can be printed exactly if none of its push-constant ranges
ends before it starts. -/
theorem exists_print_iff :
    (∃ text, p.print options = .ok text) ↔ ∀ r ∈ p.pushRanges, r.start ≤ r.stop := by
  rw [← @exists_sections_iff p options]
  simp only [print_eq_ok_iff]
  exact ⟨fun ⟨_, parts, hparts, _⟩ => ⟨parts, hparts⟩,
    fun ⟨parts, hparts⟩ => ⟨_, parts, hparts, rfl⟩⟩

/-- Lines inside nested modules are moved to the right by a step for each module.

**Proof sketch.** Induction on the modules. Each of them puts a line around what it holds and moves
it to the right. -/
theorem exists_nest (modules lines : List String) : ∃ opening closing,
    nest modules lines = opening ++ indentBy modules.length lines ++ closing := by
  induction modules with
  | nil => exact ⟨[], [], by simp [nest, indentBy]⟩
  | cons name modules ih =>
    obtain ⟨opening, closing, h⟩ := ih
    refine ⟨[s!"pub mod {identifier name}" ++ " \x7b"] ++ indent opening,
      indent closing ++ ["\x7d"], ?_⟩
    change braced _ (nest modules lines) "" = _
    rw [braced, bracketed, h]
    simp [indent, indentBy]

/-- The embedded words of the stages stand one after the other among the parts of the source.

**Proof sketch.** They are one of the parts that `sections` puts together, with push constants and
without. -/
theorem exists_codeLines_of_sections {parts : List (List String)}
    (h : p.sections options = .ok parts) (hsource : options.source = true) :
    ∃ front back, parts = front ++ p.stages.map (·.codeLines) ++ back := by
  by_cases hsome : p.hasPushConstants
  · simp only [sections, if_pos hsome, if_pos hsource, bind_eq_ok_iff] at h
    obtain ⟨push, -, h⟩ := h
    exact ⟨_, _, (Except.ok.inj h).symm⟩
  · simp only [sections, if_neg hsome, if_pos hsource] at h
    exact ⟨_, _, (Except.ok.inj h).symm⟩

end Program

end ShaderBindings
