import Mathlib.Data.Nat.Count
import ShaderBindings.Proofs.Host.Elements
import ShaderBindings.Proofs.Host.Numbers
import ShaderBindings.Proofs.Source.Members
/-!
# Names of printed fields

The fillers of a struct are numbered, and the numbers under whose names the struct has members are
passed over. The members are looked at as they are named, and printed as identifiers. So this module
says which numbers the fillers get, and when all fields of the printed struct have different names.

## Main definitions

* `Layout.IsFree` - no name that is taken is that of the filler.
* `Layout.freeNumbers` - the free numbers in a range.
* `Layout.fillerNames` - the names of those fields that are fillers.

## Main results

* `Layout.exists_fillerNames_of_declaration` - the fillers get the first free numbers, in order.
* `Layout.nodup_fieldNames_iff` - when the printed fields have names of their own.
-/

set_option autoImplicit false

namespace ShaderBindings

open Text

namespace Layout

/-! ## Free numbers -/

/-- No name that is taken is that of the filler. -/
def IsFree (taken : List String) (n : Nat) : Prop := fillerName n ∉ taken

/-- Whether a number is free is a matter of looking for its name. -/
instance (taken : List String) : DecidablePred (IsFree taken) := fun n =>
  inferInstanceAs (Decidable (fillerName n ∉ taken))

/-- The free numbers from `next` on, up to `last`, which is not among them. Fillers are given the
names of these numbers in order. -/
def freeNumbers (taken : List String) (next last : Nat) : List Nat :=
  (List.range' next (last - next)).filter (IsFree taken)

variable {taken : List String} {next mid last n : Nat}

/-- The free numbers of a range are its numbers that are free. -/
theorem mem_freeNumbers_iff : n ∈ freeNumbers taken next last ↔
    next ≤ n ∧ n < last ∧ IsFree taken n := by
  rw [freeNumbers, List.mem_filter, List.mem_range'_1, decide_eq_true_eq, and_assoc]
  refine and_congr_right fun hle => and_congr_left fun _ => ?_
  omega

/-- No number is listed twice. -/
theorem nodup_freeNumbers (taken : List String) (next last : Nat) :
    (freeNumbers taken next last).Nodup :=
  List.Nodup.filter _ (List.nodup_range' 1 Nat.one_pos)

/-- Free numbers of two ranges that meet are those of the whole range. -/
theorem freeNumbers_append (hmid : next ≤ mid) (hlast : mid ≤ last) :
    freeNumbers taken next mid ++ freeNumbers taken mid last = freeNumbers taken next last := by
  have hrange : List.range' next (mid - next) ++ List.range' mid (last - mid) =
      List.range' next (last - next) := by
    have hjoin := List.range'_append_1 (s := next) (m := mid - next) (n := last - mid)
    rwa [show next + (mid - next) = mid by omega,
      show mid - next + (last - mid) = last - next by omega] at hjoin
  rw [freeNumbers, freeNumbers, ← List.filter_append, hrange, freeNumbers]

/-- Up to the first free number there is no other one.

**Proof sketch.** The range is cut in front of the first free number. All numbers before it are
taken (`mem_of_lt_firstFree`), and the number itself is not (`firstFree_notMem`). -/
theorem freeNumbers_firstFree (taken : List String) (next : Nat) :
    freeNumbers taken next (firstFree fillerName taken next + 1) =
      [firstFree fillerName taken next] := by
  have hle := le_firstFree fillerName taken next
  have hfree : IsFree taken (firstFree fillerName taken next) :=
    firstFree_notMem (fun _ _ => fillerName_injective) taken next
  have hpassed : freeNumbers taken next (firstFree fillerName taken next) = [] := by
    refine List.eq_nil_iff_forall_not_mem.2 fun k hk => ?_
    obtain ⟨hnext, hlt, hk⟩ := mem_freeNumbers_iff.1 hk
    exact hk (mem_of_lt_firstFree hnext hlt)
  have hlast : freeNumbers taken (firstFree fillerName taken next)
      (firstFree fillerName taken next + 1) = [firstFree fillerName taken next] := by
    rw [freeNumbers, Nat.add_sub_cancel_left, List.range'_one]
    exact List.filter_eq_self.2 (by simpa using hfree)
  rw [← freeNumbers_append hle (Nat.le_succ _), hpassed, hlast, List.nil_append]

/-- Of the numbers up to a bound as many are free as are counted. -/
theorem length_freeNumbers (taken : List String) (last : Nat) :
    (freeNumbers taken 0 last).length = Nat.count (IsFree taken) last := by
  rw [freeNumbers, Nat.sub_zero, ← List.range_eq_range', Nat.count, List.countP_eq_length_filter]

/-! ## Fields of a declaration -/

/-- The names of those fields that are fillers, in order. -/
def fillerNames (fields : List Field) : List String := (fields.filter (·.padding)).map (·.name)

/-- Filler words get the next free numbers.

**Proof sketch.** Induction on the number of words. The first one gets the first free number, the
only one up to itself (`freeNumbers_firstFree`), and the others go on behind it
(`freeNumbers_append`). -/
theorem fillerNames_fillers (taken : List String) (next offset count : Nat) :
    next ≤ (fillers taken next offset count).2 ∧
      fillerNames (fillers taken next offset count).1 =
        (freeNumbers taken next (fillers taken next offset count).2).map fillerName := by
  induction count generalizing next offset with
  | zero => simp [fillers, fillerNames, freeNumbers]
  | succ count ih =>
    obtain ⟨hle, hnames⟩ := ih (firstFree fillerName taken next + 1) (offset + wordSize)
    have hfirst : next ≤ firstFree fillerName taken next + 1 :=
      Nat.le_succ_of_le (le_firstFree _ _ _)
    refine ⟨Nat.le_trans hfirst hle, ?_⟩
    change fillerName (firstFree fillerName taken next) :: fillerNames (fillers taken
      (firstFree fillerName taken next + 1) (offset + wordSize) count).1 = _
    rw [hnames, fillers, ← freeNumbers_append hfirst hle, freeNumbers_firstFree]
    rfl

/-- The fillers between members get the next free numbers.

**Proof sketch.** Induction on the stretches. A member takes no number, and a gap takes the next
ones (`fillerNames_fillers`), from where the others go on. -/
theorem exists_fillerNames_stretchFields {stretches : List Stretch}
    (h : ∀ f, .member f ∈ stretches → f.padding = false) (taken : List String) (next : Nat) :
    ∃ last, next ≤ last ∧
      fillerNames (stretchFields taken next stretches) =
        (freeNumbers taken next last).map fillerName := by
  induction stretches generalizing next with
  | nil => exact ⟨next, Nat.le_refl next, by simp [stretchFields, fillerNames, freeNumbers]⟩
  | cons stretch rest ih =>
    have hrest : ∀ f, .member f ∈ rest → f.padding = false :=
      fun f hf => h f (List.mem_cons_of_mem _ hf)
    cases stretch with
    | member f =>
      have hplain : f.padding = false := h f List.mem_cons_self
      obtain ⟨last, hle, hnames⟩ := ih hrest next
      refine ⟨last, hle, ?_⟩
      rw [stretchFields, fillerNames, List.filter_cons_of_neg (by simp [hplain])]
      exact hnames
    | gap offset words =>
      obtain ⟨hmid, hfillers⟩ := fillerNames_fillers taken next offset words
      obtain ⟨last, hle, hnames⟩ := ih hrest (fillers taken next offset words).2
      refine ⟨last, Nat.le_trans hmid hle, ?_⟩
      rw [← freeNumbers_append hmid hle, List.map_append, ← hfillers, ← hnames]
      simp only [stretchFields, fillerNames, List.filter_append, List.map_append]

variable {l : Layout} {st : StructType} {decl : StructDecl}

/-- The fillers of a declaration get the first numbers under whose names there is no member.

**Proof sketch.** A declaration is made of its stretches, and members are no fillers, so
`exists_fillerNames_stretchFields` applies from the number zero on. -/
theorem exists_fillerNames_of_declaration (h : l.declaration st = .ok decl) :
    ∃ last, fillerNames decl.fields =
      (freeNumbers (st.members.map (·.name)) 0 last).map fillerName := by
  obtain ⟨name, size, laid, -, -, hlaid, -, -, rfl⟩ := declaration_eq_ok_iff.1 h
  obtain ⟨hmembers, -⟩ := mem_stretches_of_placeMembers hlaid
  have hplain : ∀ f : Field, Stretch.member f ∈ laid.stretches ++
      [Stretch.gap laid.stop ((size - laid.stop) / wordSize)] → f.padding = false := by
    intro f hf
    rcases List.mem_append.1 hf with hf | hf
    · exact hmembers f hf
    · cases List.mem_singleton.1 hf
  obtain ⟨last, -, hnames⟩ := exists_fillerNames_stretchFields hplain (st.members.map (·.name)) 0
  exact ⟨last, hnames⟩

/-- The other fields are called like the members, in order.

**Proof sketch.** The fields that are no fillers are the fields of the members
(`mapM_memberField_of_declaration`), each with the name of its member (`memberField_place`). -/
theorem map_name_of_declaration (h : l.declaration st = .ok decl) :
    (decl.fields.filter (!·.padding)).map (·.name) = st.members.map (·.name) := by
  have hfields := Result.mapM_eq_ok_iff.1 (mapM_memberField_of_declaration h)
  have hnames : List.Forall₂ (fun mem f => mem.name = f.name) st.members
      (decl.fields.filter (!·.padding)) := by
    refine hfields.imp fun mem f hf => ?_
    obtain ⟨⟨_, align⟩, hfield, rfl⟩ := Result.map_eq_ok_iff.1 hf
    exact (memberField_place hfield).1.symm
  rw [eq_comm, ← List.forall₂_eq_eq_eq]
  exact List.forall₂_map_left_iff.2 (List.forall₂_map_right_iff.2 hnames)

/-! ## Printed fields -/

/-- The characters of a filler's name, with its number in the middle. -/
theorem toList_fillerName (n : Nat) :
    (fillerName n).toList = "pad".toList ++ (Nat.toDigits 10 n ++ ['_']) := by
  change ("pad" ++ toString n ++ "_").toList = _
  simp [Nat.toString_eq_repr]

/-- A filler is printed under its name.

**Proof sketch.** The name is made of identifier characters and begins with a letter, so nothing is
replaced. It is no fixed word, since none of those begins as it does, and no keyword, since none of
those ends in an underscore. -/
theorem identifier_fillerName (n : Nat) : identifier (fillerName n) = fillerName n := by
  have hletters : "pad".toList.all isIdentChar = true := by decide
  have hpad : IsSpelled "pad".toList :=
    ⟨by simp, List.all_eq_true.1 hletters, by simp [Char.isDigit]⟩
  have hspelled : IsSpelled (fillerName n).toList := by
    rw [toList_fillerName]
    refine hpad.append fun c hc => ?_
    rcases List.mem_append.1 hc with hc | hc
    · exact isIdentChar_of_isDigit (isDigit_of_mem_toDigits hc)
    · cases List.mem_singleton.1 hc
      decide
  have hfirst : (fillerName n).toList.head? = some 'p' := by simp [toList_fillerName]
  have hlast : (fillerName n).toList.getLast? = some '_' := by
    rw [toList_fillerName, ← List.append_assoc, List.getLast?_concat]
  refine identifier_eq_self_iff.2 ⟨sanitize_of_isSpelled hspelled, fun hmem => ?_, fun hmem => ?_⟩
  · have hwords : ∀ w ∈ fixedWords, w.toList.head? ≠ some 'p' := by decide
    exact hwords _ hmem hfirst
  · have hwords : ∀ w ∈ keywords, w.toList.getLast? ≠ some '_' := by decide
    exact hwords _ hmem hlast

/-- If members are spelled differently, only one that is named like a filler is spelled like it.

**Proof sketch.** The number is taken, so some member has the name of the filler. It is spelled as
this one, and no two members are spelled alike. -/
theorem name_eq_of_not_isFree {members : List Member} {mem : Member} {n : Nat}
    (hmembers : (members.map fun mem => identifier mem.name).Nodup) (hmem : mem ∈ members)
    (hn : identifier mem.name = fillerName n) (htaken : ¬ IsFree (members.map (·.name)) n) :
    mem.name = fillerName n := by
  obtain ⟨other, hother, hname⟩ := List.mem_map.1 (not_not.1 htaken)
  have hspelled : identifier mem.name = identifier other.name := by
    rw [hn, hname, identifier_fillerName]
  rw [List.inj_on_of_nodup_map hmembers hmem hother hspelled, hname]

/-- In some order, the printed fields are fillers with the first free numbers, and the members.

**Proof sketch.** The fields are split into fillers and others. The fillers have the first free
numbers (`exists_fillerNames_of_declaration`) and are printed as they are named
(`identifier_fillerName`). The others are named like the members (`map_name_of_declaration`). -/
theorem exists_perm_of_declaration (h : l.declaration st = .ok decl) :
    ∃ last, (decl.fields.filter (·.padding)).length =
        Nat.count (IsFree (st.members.map (·.name))) last ∧
      ((freeNumbers (st.members.map (·.name)) 0 last).map fillerName ++
        st.members.map fun mem => identifier mem.name).Perm (fieldNames decl.lines) := by
  obtain ⟨last, hfillers⟩ := exists_fillerNames_of_declaration h
  refine ⟨last, ?_, ?_⟩
  · rw [← length_freeNumbers, ← List.length_map fillerName, ← hfillers, fillerNames,
      List.length_map]
  · have hidentifiers : (decl.fields.filter (·.padding)).map (fun f => identifier f.name) =
        (freeNumbers (st.members.map (·.name)) 0 last).map fillerName := by
      have hnames := congrArg (List.map identifier) hfillers
      simp only [fillerNames, List.map_map, Function.comp_def, identifier_fillerName] at hnames
      exact hnames
    have hplain : (decl.fields.filter (!·.padding)).map (fun f => identifier f.name) =
        st.members.map fun mem => identifier mem.name := by
      have hnames := congrArg (List.map identifier) (map_name_of_declaration h)
      rwa [List.map_map, List.map_map] at hnames
    rw [decl.fieldNames_lines, ← hidentifiers, ← hplain, ← List.map_append]
    exact (List.filter_append_perm Field.padding decl.fields).map _

/-- **When the printed fields have names of their own.** A field is printed under its name, spelled
as an identifier. If the members are spelled differently, all fields are exactly if every member
that is spelled like a filler is also named like it, or stands for a number that is not reached: as
many numbers below it are free as there are fillers.

**Proof sketch.** The fillers have different free numbers and are printed as they are named, so a
clash is one of a member with a filler. A member that is named like a filler takes its number. -/
theorem nodup_fieldNames_iff (h : l.declaration st = .ok decl)
    (hmembers : (st.members.map fun mem => identifier mem.name).Nodup) :
    fieldNames decl.lines = decl.fields.map (fun f => identifier f.name) ∧
    ((fieldNames decl.lines).Nodup ↔ ∀ mem ∈ st.members, ∀ n,
      identifier mem.name = fillerName n → mem.name = fillerName n ∨
        (decl.fields.filter (·.padding)).length ≤
          Nat.count (IsFree (st.members.map (·.name))) n) := by
  refine ⟨decl.fieldNames_lines, ?_⟩
  obtain ⟨last, hcount, hperm⟩ := exists_perm_of_declaration h
  have hnumbers : ((freeNumbers (st.members.map (·.name)) 0 last).map fillerName).Nodup :=
    (nodup_freeNumbers _ _ _).map fun _ _ => fillerName_injective
  rw [← hperm.nodup_iff, List.nodup_append', hcount]
  constructor
  · rintro ⟨-, -, hdisjoint⟩ mem hmem n hn
    by_contra hclash
    obtain ⟨hother, hcounted⟩ := not_or.1 hclash
    have hlt : n < last := Nat.lt_of_count_lt_count (Nat.lt_of_not_le hcounted)
    have hfree : IsFree (st.members.map (·.name)) n := by
      by_contra htaken
      exact hother (name_eq_of_not_isFree hmembers hmem hn htaken)
    have hnumber := mem_freeNumbers_iff.2 ⟨Nat.zero_le n, hlt, hfree⟩
    exact hdisjoint (List.mem_map_of_mem hnumber) (List.mem_map.2 ⟨mem, hmem, hn⟩)
  · intro hapart
    refine ⟨hnumbers, hmembers, fun name hname hmember => ?_⟩
    obtain ⟨n, hn, rfl⟩ := List.mem_map.1 hname
    obtain ⟨mem, hmem, hspelled⟩ := List.mem_map.1 hmember
    obtain ⟨-, hlt, hfree⟩ := mem_freeNumbers_iff.1 hn
    rcases hapart mem hmem n hspelled with hnamed | hreached
    · exact hfree (List.mem_map.2 ⟨mem, hmem, hnamed⟩)
    · exact Nat.not_lt.2 hreached (Nat.count_strict_mono hfree hlt)

/-- A block with members of the given names, each behind a word that is to be filled. So every
member comes with a filler, whose name has to differ from all of theirs. -/
def spacedBlock (names : List String) : StructType where
  id := 1
  name := "Block"
  size := 8 * names.length
  members := names.zipIdx.map fun (name, i) => { name, ty := .float32, offset := 8 * i + 4 }

/-- The module with that block alone. -/
def spacedLayout (names : List String) : Layout where
  module := { structs := [spacedBlock names] }
  names := .ofList [(1, "Block")]

/-- The declaration of such a block: for each member the names of its filler and of itself. -/
def spacedDecl (names : List (String × String)) : StructDecl where
  id := 1
  name := "Block"
  size := 8 * names.length
  fields := names.zipIdx.flatMap fun ((filler, member), i) =>
    [{ name := filler, type := .scalar .f32, offset := 8 * i, size := 4, padding := true },
     { name := member, type := .scalar .f32, offset := 8 * i + 4, size := 4 }]

/-- A member can be named like a filler, and another one be spelled like one that is not needed.

The fillers pass over the number in the name of the first member, and there are too few of them to
get to the one in the name of the second. -/
theorem nodup_fieldNames_spacedBlock :
    (spacedLayout ["pad0_", "pad3-"]).declaration (spacedBlock ["pad0_", "pad3-"]) =
        .ok (spacedDecl [("pad1_", "pad0_"), ("pad2_", "pad3-")]) ∧
      ((spacedBlock ["pad0_", "pad3-"]).members.map fun mem => identifier mem.name).Nodup ∧
      (fieldNames (spacedDecl [("pad1_", "pad0_"), ("pad2_", "pad3-")]).lines).Nodup := by
  have hdecl : (spacedLayout ["pad0_", "pad3-"]).declaration (spacedBlock ["pad0_", "pad3-"]) =
      .ok (spacedDecl [("pad1_", "pad0_"), ("pad2_", "pad3-")]) := by cbv
  have hmembers : ((spacedBlock ["pad0_", "pad3-"]).members.map fun mem =>
      identifier mem.name).Nodup := by decide +kernel
  refine ⟨hdecl, hmembers, (nodup_fieldNames_iff hdecl hmembers).2.2 fun mem hmem n hn => ?_⟩
  have hcases : mem.name = "pad0_" ∨ mem.name = "pad3-" := by
    simp only [spacedBlock, List.zipIdx_cons, List.zipIdx_nil, List.map_cons, List.map_nil,
      List.mem_cons, List.not_mem_nil, or_false] at hmem
    rcases hmem with rfl | rfl
    · exact .inl rfl
    · exact .inr rfl
  rcases hcases with hname | hname
  · have hspelled : identifier "pad0_" = "pad0_" := by decide +kernel
    exact .inl (by rw [← hn, hname, hspelled])
  · have hspelled : identifier "pad3-" = fillerName 3 := by decide +kernel
    obtain rfl : n = 3 := fillerName_injective (by rw [← hn, hname, hspelled])
    exact .inr (by decide +kernel)

/-- A member can be spelled like a filler although it is not named like one.

The name of the member is not that of the filler, so the filler takes it, but both are printed
alike. -/
theorem exists_repeated_field :
    (spacedLayout ["pad0-"]).declaration (spacedBlock ["pad0-"]) =
        .ok (spacedDecl [("pad0_", "pad0-")]) ∧
      ((spacedBlock ["pad0-"]).members.map fun mem => identifier mem.name).Nodup ∧
      fieldNames (spacedDecl [("pad0_", "pad0-")]).lines = ["pad0_", "pad0_"] := by
  refine ⟨by cbv, by decide, ?_⟩
  rw [StructDecl.fieldNames_lines]
  decide +kernel

end Layout

end ShaderBindings
