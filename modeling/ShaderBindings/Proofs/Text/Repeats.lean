import Mathlib.Data.List.Induction
import Mathlib.Data.List.Nodup
import ShaderBindings.Proofs.Text.Scan
/-!
# Names that are repeated

Names are given in order, and one that was given before gets a number behind it. Only what is
repeated is looked at, not what comes of it: the name with its number may be taken as well. This
module says when that happens, and that all names differ otherwise.

## Main definitions

* `Text.withNumber` - a name with a number behind it.
* `Text.markRepeats` - the names that are given.
* `Text.IsApart` - no repeated name is, with its number, one of those before.

## Main results

* `Text.withNumber_inj` - a name with a number behind it is read in one way only.
* `Text.nodup_markRepeats_iff` - when the names that are given differ from one another.
-/

set_option autoImplicit false

namespace ShaderBindings.Text

/-- A name with a number behind it. -/
def withNumber (base : String) (n : Nat) : String := s!"{base}_{n}"

/-- The names given to names with numbers, in order. One that is used before gets its number. It is
what names of bindings and of setters have in common. -/
def markRepeats (used : List String) : List (String × Nat) → List String
  | [] => []
  | (base, n) :: rest =>
    let name := if base ∈ used then withNumber base n else base
    name :: markRepeats (name :: used) rest

/-- Wherever a name was given before, it is with its number none of the names before. This is
exactly what makes the names that are given all different, if the numbers are. -/
def IsApart (items : List (String × Nat)) : Prop :=
  ∀ before base n after, items = before ++ (base, n) :: after →
    base ∈ markRepeats [] before → withNumber base n ∉ before.map (·.1)

/-- The characters of a name with a number behind it. -/
theorem toList_withNumber (base : String) (n : Nat) :
    (withNumber base n).toList = base.toList ++ '_' :: Nat.toDigits 10 n := by
  change (base ++ "_" ++ toString n).toList = _
  simp [Nat.toString_eq_repr]

/-- A name with a number behind it is read in one way only: no digit is an underscore.

**Proof sketch.** Read from the right, the number goes up to the first underscore
(`append_cons_inj`). -/
theorem withNumber_inj {a b : String} {m n : Nat} (h : withNumber a m = withNumber b n) :
    a = b ∧ m = n := by
  have hdigits (k : Nat) : '_' ∉ (Nat.toDigits 10 k).reverse := by
    intro hmem
    have := isDigit_of_mem_toDigits (List.mem_reverse.1 hmem)
    exact absurd this (by decide)
  have htexts := congrArg (·.toList.reverse) h
  simp only [toList_withNumber, List.reverse_append, List.reverse_cons, List.append_assoc,
    List.singleton_append] at htexts
  obtain ⟨hnumbers, hnames⟩ := append_cons_inj (hdigits m) (hdigits n) htexts
  exact ⟨String.toList_inj.1 (List.reverse_inj.1 hnames),
    toDigits_inj (List.reverse_inj.1 hnumbers)⟩

/-! ## The name given last -/

/-- The name given behind others, of which some were used before.

**Proof sketch.** Induction on the names in front: each is used for those behind it. -/
theorem markRepeats_append_singleton (used : List String) (items : List (String × Nat))
    (base : String) (n : Nat) : markRepeats used (items ++ [(base, n)]) = markRepeats used items ++
      [if base ∈ used ∨ base ∈ markRepeats used items then withNumber base n else base] := by
  induction items generalizing used with
  | nil => simp [markRepeats]
  | cons item items ih =>
    obtain ⟨first, m⟩ := item
    simp only [List.cons_append, markRepeats, ih, List.mem_cons, or_assoc, or_left_comm]

/-- What is apart with one more entry is apart without it, and the entry makes no clash.

**Proof sketch.** An entry of the longer list is the last one, or it is one of the others with the
last one somewhere behind. -/
theorem isApart_append_singleton {items : List (String × Nat)} {base : String} {n : Nat} :
    IsApart (items ++ [(base, n)]) ↔ IsApart items ∧
      (base ∈ markRepeats [] items → withNumber base n ∉ items.map (·.1)) := by
  constructor
  · intro h
    refine ⟨fun before base' n' after heq => ?_, h items base n [] rfl⟩
    refine h before base' n' (after ++ [(base, n)]) ?_
    rw [heq, List.append_assoc, List.cons_append]
  · rintro ⟨hitems, hlast⟩ before base' n' after heq
    rcases after.eq_nil_or_concat with rfl | ⟨after, last, rfl⟩
    · obtain ⟨rfl, hentry⟩ := List.append_inj' heq rfl
      cases hentry
      exact hlast
    · rw [List.concat_eq_append, ← List.cons_append, ← List.append_assoc] at heq
      obtain ⟨rfl, -⟩ := List.append_inj' heq rfl
      exact hitems before base' n' after rfl

/-! ## All names -/

/-- Every name is given to the first entry that has it, if it is not given earlier.

**Proof sketch.** Induction from the right: the last entry is given its name, unless that has been
given before. -/
theorem mem_markRepeats_of_mem {items : List (String × Nat)} {base : String}
    (h : base ∈ items.map (·.1)) : base ∈ markRepeats [] items := by
  induction items using List.reverseRecOn with
  | nil => cases h
  | append_singleton items item ih =>
    obtain ⟨last, n⟩ := item
    rw [markRepeats_append_singleton, List.mem_append]
    rw [List.map_append, List.mem_append] at h
    rcases h with h | h
    · exact .inl (ih h)
    · obtain rfl : base = last := by simpa using h
      by_cases hused : base ∈ markRepeats [] items
      · exact .inl hused
      · simp [hused]

/-- A name that is given is one of the names, or one of them with its number.

**Proof sketch.** Induction from the right (`markRepeats_append_singleton`). -/
theorem mem_or_exists_of_mem_markRepeats {items : List (String × Nat)} {name : String}
    (h : name ∈ markRepeats [] items) :
    name ∈ items.map (·.1) ∨ ∃ item ∈ items, name = withNumber item.1 item.2 := by
  induction items using List.reverseRecOn with
  | nil => cases h
  | append_singleton items item ih =>
    obtain ⟨last, n⟩ := item
    rw [markRepeats_append_singleton, List.mem_append] at h
    rw [List.map_append, List.mem_append]
    rcases h with h | h
    · rcases ih h with h | ⟨item, hitem, hname⟩
      · exact .inl (.inl h)
      · exact .inr ⟨item, List.mem_append_left _ hitem, hname⟩
    · split at h
      · exact .inr ⟨(last, n), by simp, List.mem_singleton.1 h⟩
      · exact .inl (.inr (by simpa using h))

/-- With a number that stands nowhere else, a name is given exactly if it is one of the names.

**Proof sketch.** What is given is one of the names or one of them with its number
(`mem_or_exists_of_mem_markRepeats`), and no entry has this number (`withNumber_inj`). -/
theorem withNumber_mem_markRepeats_iff {items : List (String × Nat)} {base : String} {n : Nat}
    (hn : n ∉ items.map (·.2)) :
    withNumber base n ∈ markRepeats [] items ↔ withNumber base n ∈ items.map (·.1) := by
  refine ⟨fun h => ?_, mem_markRepeats_of_mem⟩
  rcases mem_or_exists_of_mem_markRepeats h with h | ⟨item, hitem, hname⟩
  · exact h
  · obtain ⟨-, rfl⟩ := withNumber_inj hname
    exact absurd (List.mem_map_of_mem hitem) hn

/-- **When the names that are given differ from one another.** With different numbers, names clash
only where a name is repeated and with its number is one of the names before.

**Proof sketch.** Induction on the entries, the last one apart. Its name is new if it was not given
before. Otherwise it is given with its number, and no name before has that number behind it. -/
theorem nodup_markRepeats_iff {items : List (String × Nat)} (h : (items.map (·.2)).Nodup) :
    (markRepeats [] items).Nodup ↔ IsApart items := by
  induction items using List.reverseRecOn with
  | nil => simp [markRepeats, IsApart]
  | append_singleton items item ih =>
    obtain ⟨base, n⟩ := item
    rw [List.map_append, List.map_singleton, ← List.concat_eq_append, List.nodup_concat] at h
    obtain ⟨hn, hitems⟩ := h
    rw [markRepeats_append_singleton, isApart_append_singleton, ← ih hitems,
      ← withNumber_mem_markRepeats_iff hn, ← List.concat_eq_append, List.nodup_concat, and_comm]
    by_cases hused : base ∈ markRepeats [] items
    · simp [hused]
    · simp [hused]

end ShaderBindings.Text
