import ShaderBindings.Proofs.Interface.DescriptorSets
import ShaderBindings.Proofs.Program.Structs
import ShaderBindings.Proofs.Source.Items
import ShaderBindings.Proofs.Text.Spelling
/-!
# The names of a program

The names in printed source come from many sides: words of stages with numbers, the same spelled as
types and in upper case, numbers of descriptor sets, names of structs, and the name asked for the
vertex struct. This module shows that no two declarations of the source get the same name.

## Main definitions

* `ShaderBindings.SpellsBy` - a spelling of short names by a word for the stage and the number.
* `Program.ownTypeNames` - the types that get their names neither from a shader nor from an option.
* `Program.typeNames` - the types that the source imports or declares.
* `Program.staticNames`, `Program.functionNames` - the constants and the functions it declares.

## Main results

* `SpellsBy.nodup` - short names are kept apart by such a spelling.
* `Program.nodup_typeNames`, `Program.nodup_valueNames` - no two types, and no two constants or
  functions, have one name.
* `Program.items_sublist` - what is printed has names among these.
* `ShaderBindings.nodup_names_of_build` - all of it for the program of any list of modules.
-/

set_option autoImplicit false

namespace ShaderBindings

/-! ## Short names -/

/-- What tells a stage that comes up again from the one before: a number behind a separator. -/
def repeatText (sep : List Char) (n : Nat) : List Char :=
  if n = 0 then [] else sep ++ Nat.toDigits 10 n

/-- The number can be read back from the text. -/
theorem repeatText_injective (sep : List Char) : Function.Injective (repeatText sep) := by
  have hne (n : Nat) : sep ++ Nat.toDigits 10 n ≠ [] :=
    List.append_ne_nil_of_right_ne_nil _ Nat.toDigits_ne_nil
  intro a b h
  unfold repeatText at h
  split at h
  · next ha =>
    split at h
    · next hb => rw [ha, hb]
    · exact absurd h.symm (hne b)
  · split at h
    · exact absurd h (hne a)
    · exact Text.toDigits_inj (List.append_cancel_left h)

/-- The characters of a short name: the word for the stage, then the number behind an underscore. -/
theorem toList_shortName (stage : Stage) (n : Nat) :
    (shortName stage n).toList = stage.shortName.toList ++ repeatText ['_'] n := by
  unfold shortName repeatText
  split
  · simp
  · change (stage.shortName ++ "_" ++ toString n).toList = _
    simp [Nat.toString_eq_repr]

/-- A spelling of short names by a word for the stage, all words of the same length, and the number.
-/
structure SpellsBy (spell : String → String) (word : Stage → List Char) (sep tail : List Char) :
    Prop where
  toList : ∀ stage n, (spell (shortName stage n)).toList = word stage ++ repeatText sep n ++ tail
  injective : Function.Injective word
  length : ∀ stage, (word stage).length = 4

/-- Such a spelling keeps short names apart.

**Proof sketch.** The words have one length, so the texts can be cut behind them, and the numbers
can be read back (`repeatText_injective`). -/
theorem SpellsBy.inj {spell : String → String} {word : Stage → List Char} {sep tail : List Char}
    (hspell : SpellsBy spell word sep tail) {s t : Stage} {m n : Nat}
    (h : spell (shortName s m) = spell (shortName t n)) : s = t ∧ m = n := by
  have htexts := congrArg String.toList h
  rw [hspell.toList, hspell.toList] at htexts
  obtain ⟨hwords, hnumbers⟩ := List.append_inj (List.append_cancel_right htexts)
    ((hspell.length s).trans (hspell.length t).symm)
  exact ⟨hspell.injective hwords, repeatText_injective sep hnumbers⟩

/-- The short names that follow are those of stages that have come up often enough.

**Proof sketch.** Induction on the stages. Behind the first one, a stage has come up at least as
often as before. -/
theorem exists_of_mem_shortNamesAfter {seen stages : List Stage} {name : String}
    (h : name ∈ shortNamesAfter seen stages) :
    ∃ stage n, name = shortName stage n ∧ seen.count stage ≤ n := by
  induction stages generalizing seen with
  | nil => cases h
  | cons stage stages ih =>
    rcases List.mem_cons.1 h with rfl | h
    · exact ⟨stage, seen.count stage, rfl, Nat.le_refl _⟩
    · obtain ⟨later, n, hname, hn⟩ := ih h
      exact ⟨later, n, hname, Nat.le_trans List.count_le_count_cons hn⟩

/-- A spelling of short names keeps those of any stages apart, however often one of them comes up.

**Proof sketch.** Induction on the stages. The number of a stage is how often it has come up, and
all later numbers of that stage are higher. -/
theorem SpellsBy.nodup {spell : String → String} {word : Stage → List Char} {sep tail : List Char}
    (hspell : SpellsBy spell word sep tail) (stages : List Stage) :
    ((shortNames stages).map spell).Nodup := by
  have hafter (seen : List Stage) : ((shortNamesAfter seen stages).map spell).Nodup := by
    induction stages generalizing seen with
    | nil => exact List.nodup_nil
    | cons stage stages ih =>
      rw [shortNamesAfter, List.map_cons, List.nodup_cons]
      refine ⟨fun hmem => ?_, ih _⟩
      obtain ⟨name, hname, heq⟩ := List.mem_map.1 hmem
      obtain ⟨later, n, rfl, hn⟩ := exists_of_mem_shortNamesAfter hname
      obtain ⟨rfl, rfl⟩ := hspell.inj heq
      rw [List.count_cons_self] at hn
      omega
  exact hafter []

/-! ## Spellings of short names -/

/-- Short names themselves are spelled by the words for the stages. -/
theorem spellsBy_id : SpellsBy id (·.shortName.toList) ['_'] [] where
  toList stage n := by rw [List.append_nil, id, toList_shortName]
  injective s t := by cases s <;> cases t <;> decide
  length stage := by cases stage <;> rfl

/-- A short name spelled as a type: the word with a capital letter, and the number.

**Proof sketch.** The word has no underscore, so `Text.typeChars_append` spells the two parts one by
one. The underscore in front of the number goes, and digits stay (`Text.typeChars_of_isDigit`). -/
theorem toList_typeName_shortName (stage : Stage) (n : Nat) :
    (Text.typeName (shortName stage n)).toList =
      Text.typeChars true stage.shortName.toList ++ repeatText [] n := by
  have hword : '_' ∉ stage.shortName.toList ∧ stage.shortName.toList ≠ [] := by
    cases stage <;> decide
  have hnumber : Text.typeChars false (repeatText ['_'] n) = repeatText [] n := by
    unfold repeatText
    split
    · rfl
    · exact Text.typeChars_of_isDigit (fun _ => Text.isDigit_of_mem_toDigits) true
  rw [Text.typeName, String.toList_ofList, toList_shortName,
    Text.typeChars_append _ hword.1 hword.2, hnumber]

/-- The types that set the constants of a stage are spelled by words with a capital letter. -/
theorem spellsBy_specializerName : SpellsBy specializerName
    (fun stage => Text.typeChars true stage.shortName.toList) [] "Specializer".toList where
  toList stage n := by
    change (Text.typeName (shortName stage n) ++ "Specializer").toList = _
    rw [String.toList_append, toList_typeName_shortName]
  injective s t := by cases s <;> cases t <;> decide
  length stage := by cases stage <;> decide

/-- A short name in upper case: the word in upper case, and the number as it was.

**Proof sketch.** Letters are mapped one by one, and digits stay
(`Text.flatMap_upperChar_of_isDigit`). -/
theorem toList_upper_shortName (stage : Stage) (n : Nat) :
    (Text.upper (shortName stage n)).toList =
      stage.shortName.toList.flatMap Text.upperChar ++ repeatText ['_'] n := by
  have hnumber : (repeatText ['_'] n).flatMap Text.upperChar = repeatText ['_'] n := by
    unfold repeatText
    split
    · rfl
    · rw [List.flatMap_append,
        Text.flatMap_upperChar_of_isDigit fun _ => Text.isDigit_of_mem_toDigits]
      rfl
  rw [Text.upper, String.toList_ofList, toList_shortName, List.flatMap_append, hnumber]

/-- The constants with the words of a module are spelled by words in upper case. -/
theorem spellsBy_codeName : SpellsBy codeName
    (fun stage => stage.shortName.toList.flatMap Text.upperChar) ['_'] "_CODE".toList where
  toList stage n := by
    change (Text.upper (shortName stage n) ++ "_CODE").toList = _
    rw [String.toList_append, toList_upper_shortName]
  injective s t := by cases s <;> cases t <;> decide
  length stage := by cases stage <;> decide

/-! ## Names with the number of a set -/

/-- The characters of the name of a descriptor writer, with the number of the set in the middle. -/
theorem toList_writerName (set : Nat) : (writerName set).toList =
    "DescriptorSet".toList ++ Nat.toDigits 10 set ++ "Writer".toList := by
  change ("DescriptorSet" ++ toString set ++ "Writer").toList = _
  simp [Nat.toString_eq_repr]

/-- Different sets have different writers. -/
theorem writerName_injective : Function.Injective writerName := by
  intro a b h
  have htexts := congrArg String.toList h
  rw [toList_writerName, toList_writerName] at htexts
  exact Text.toDigits_inj (List.append_cancel_left (List.append_cancel_right htexts))

/-- The characters of the name of a function for layout bindings, with the number of the set in the
middle. -/
theorem toList_setLayoutName (set : Nat) : (setLayoutName set).toList =
    "descriptor_set".toList ++ Nat.toDigits 10 set ++ "_layout_bindings".toList := by
  change ("descriptor_set" ++ toString set ++ "_layout_bindings").toList = _
  simp [Nat.toString_eq_repr]

/-- Different sets have different functions for their layout bindings. -/
theorem setLayoutName_injective : Function.Injective setLayoutName := by
  intro a b h
  have htexts := congrArg String.toList h
  rw [toList_setLayoutName, toList_setLayoutName] at htexts
  exact Text.toDigits_inj (List.append_cancel_left (List.append_cancel_right htexts))

/-! ### First and last letters -/

/-- The names of descriptor writers begin with a capital D. -/
theorem head?_writerName (set : Nat) : (writerName set).toList.head? = some 'D' := by
  rw [toList_writerName]
  rfl

/-- The names of descriptor writers end in the letter r. -/
theorem getLast?_writerName (set : Nat) : (writerName set).toList.getLast? = some 'r' := by
  rw [toList_writerName, List.getLast?_append]
  rfl

/-- The functions for layout bindings begin with a small d. -/
theorem head?_setLayoutName (set : Nat) : (setLayoutName set).toList.head? = some 'd' := by
  rw [toList_setLayoutName]
  rfl

/-- The functions for layout bindings end in the letter s. -/
theorem getLast?_setLayoutName (set : Nat) :
    (setLayoutName set).toList.getLast? = some 's' := by
  rw [toList_setLayoutName, List.getLast?_append]
  rfl

/-- The spellings of short names end as the texts behind them do. -/
theorem SpellsBy.getLast? {spell : String → String} {word : Stage → List Char}
    {sep tail : List Char} (hspell : SpellsBy spell word sep tail) {last : Char}
    (htail : tail.getLast? = some last) {stages : List Stage} {name : String}
    (hname : name ∈ (shortNames stages).map spell) : name.toList.getLast? = some last := by
  obtain ⟨ident, hident, rfl⟩ := List.mem_map.1 hname
  obtain ⟨stage, n, rfl, -⟩ := exists_of_mem_shortNamesAfter hident
  rw [hspell.toList, List.getLast?_append, htail]
  rfl

/-- No type that sets constants begins as descriptor writers do: the word for a compute stage and
those for the others begin with other letters. -/
theorem head?_specializerName {stages : List Stage} {name : String}
    (hname : name ∈ (shortNames stages).map specializerName) : name.toList.head? ≠ some 'D' := by
  obtain ⟨ident, hident, rfl⟩ := List.mem_map.1 hname
  obtain ⟨stage, n, rfl, -⟩ := exists_of_mem_shortNamesAfter hident
  rw [spellsBy_specializerName.toList]
  cases stage <;> simp [Stage.shortName, Text.typeChars, Text.upperChar]

/-! ## What the source declares -/

/-- The types and modules that the source of any program declares or imports. -/
def fixedTypeNames : List String := ["ash", "vk", "Padded", "Components"]

namespace Program

variable {p : Program}

/-- The short names of the modules. -/
def idents (p : Program) : List String := p.stages.map (·.ident)

/-- The types that do not get their names from a shader or an option. All of them are reserved
before structs are named. -/
def ownTypeNames (p : Program) : List String :=
  fixedTypeNames ++ p.sets.keys.map writerName ++ p.idents.map specializerName

/-- The types that the source imports or declares, with one for each stage, whether it has constants
to set or not. -/
def typeNames (p : Program) : List String :=
  ["ash", "vk", "Padded"] ++ p.structs.map (·.name) ++ (p.vertex.map (·.name)).toList ++
    p.sets.keys.map writerName ++ p.idents.map specializerName ++ ["Components"]

/-- The constants that hold the words of the modules. -/
def staticNames (p : Program) : List String := p.idents.map codeName

/-- The functions that stand outside of types. Which of them there are depends on the parts that the
program has. -/
def functionNames (p : Program) : List String :=
  (if p.hasVertexInput then ["vertex_binding_descriptions", "vertex_attribute_descriptions"]
    else []) ++
  p.sets.keys.map setLayoutName ++
  (if p.hasPushConstants then ["push_constant_ranges"] else [])

/-- No two of the types that are declared for any program, for its sets and for its stages have one
name: those for sets and stages end in the same letter, but begin with different ones.

**Proof sketch.** Writers are told apart by the numbers of their sets (`writerName_injective`) and
the types of the stages by the short names (`spellsBy_specializerName`). The fixed names end in
other letters. -/
theorem nodup_ownTypeNames {stages : List Stage} (hidents : p.idents = shortNames stages) :
    p.ownTypeNames.Nodup := by
  have hfixed : ∀ name ∈ fixedTypeNames, name.toList.getLast? ≠ some 'r' := by decide
  rw [ownTypeNames, hidents]
  refine .append (.append (by decide) (p.sets.nodup_keys.map writerName_injective) ?_)
    (spellsBy_specializerName.nodup stages) ?_
  · intro name hname hmem
    obtain ⟨set, -, rfl⟩ := List.mem_map.1 hmem
    exact hfixed _ hname (getLast?_writerName set)
  · intro name hname hmem
    rcases List.mem_append.1 hname with hname | hname
    · exact hfixed name hname (spellsBy_specializerName.getLast? rfl hmem)
    · obtain ⟨set, -, rfl⟩ := List.mem_map.1 hname
      exact head?_specializerName hmem (head?_writerName set)

/-- The last letter of a function that stands outside of types. -/
theorem getLast?_of_mem_functionNames {name : String} (h : name ∈ p.functionNames) :
    name.toList.getLast? = some 's' := by
  simp only [functionNames, List.mem_append, List.mem_ite_nil_right, List.mem_cons,
    List.not_mem_nil, or_false, List.mem_map] at h
  rcases h with (⟨-, rfl | rfl⟩ | ⟨set, -, rfl⟩) | ⟨-, rfl⟩
  · decide
  · decide
  · exact getLast?_setLayoutName set
  · decide

/-- The functions that stand outside of types begin with different letters, but for two fixed ones
and those of the sets among themselves.

**Proof sketch.** The three parts begin with v, d and p, so no name is in two of them. Within the
middle one, `setLayoutName_injective` tells the names apart. -/
theorem nodup_functionNames : p.functionNames.Nodup := by
  have hvertex (name : String) (h : name ∈ if p.hasVertexInput then
      ["vertex_binding_descriptions", "vertex_attribute_descriptions"] else []) :
      name.toList.head? = some 'v' := by
    simp only [List.mem_ite_nil_right, List.mem_cons, List.not_mem_nil, or_false] at h
    rcases h with ⟨-, rfl | rfl⟩ <;> decide
  have hpush (name : String) (h : name ∈ if p.hasPushConstants then ["push_constant_ranges"]
      else []) : name.toList.head? = some 'p' := by
    simp only [List.mem_ite_nil_right, List.mem_singleton] at h
    rcases h with ⟨-, rfl⟩
    decide
  refine .append (.append ?_ (p.sets.nodup_keys.map setLayoutName_injective) ?_) ?_ ?_
  · split <;> decide
  · intro name hname hmem
    obtain ⟨set, -, rfl⟩ := List.mem_map.1 hmem
    have h := (hvertex _ hname).symm.trans (head?_setLayoutName set)
    exact absurd h (by decide)
  · split <;> decide
  · intro name hname hmem
    have hp := hpush name hmem
    rcases List.mem_append.1 hname with hname | hname
    · exact absurd ((hvertex name hname).symm.trans hp) (by decide)
    · obtain ⟨set, -, rfl⟩ := List.mem_map.1 hname
      exact absurd ((head?_setLayoutName set).symm.trans hp) (by decide)

/-- No constant and no function have one name: constants end in another letter. -/
theorem nodup_valueNames {stages : List Stage} (hidents : p.idents = shortNames stages) :
    (p.staticNames ++ p.functionNames).Nodup := by
  rw [staticNames, hidents]
  refine .append (spellsBy_codeName.nodup stages) nodup_functionNames fun name hname hmem => ?_
  have h := (spellsBy_codeName.getLast? rfl hname).symm.trans (getLast?_of_mem_functionNames hmem)
  exact absurd h (by decide)

/-- All names of types: those of the structs, that of the vertex struct and all others. The order in
which the source has them does not matter here. -/
theorem typeNames_perm (p : Program) : p.typeNames.Perm
    ((p.structs.map (·.name) ++ (p.vertex.map (·.name)).toList) ++ p.ownTypeNames) := by
  refine List.perm_iff_count.2 fun name => ?_
  simp only [typeNames, ownTypeNames, fixedTypeNames, List.count_append, List.count_cons,
    List.count_nil]
  omega

/-- Names of structs and of the vertex struct that differ from one another and from those of all
other types.

**Proof sketch.** The names are brought into three groups by `typeNames_perm`. None of the groups
has a name twice, and by the hypotheses no two of them have one in common. -/
theorem nodup_typeNames (hown : p.ownTypeNames.Nodup) (hstructs : (p.structs.map (·.name)).Nodup)
    (hfree : ∀ d ∈ p.structs, d.name ∉ p.ownTypeNames)
    (hvertex : ∀ v ∈ p.vertex, v.name ∉ p.ownTypeNames ∧ ∀ d ∈ p.structs, d.name ≠ v.name) :
    p.typeNames.Nodup := by
  rw [p.typeNames_perm.nodup_iff]
  refine .append (.append hstructs ?_ ?_) hown ?_
  · cases p.vertex <;> simp
  · intro name hname hmem
    obtain ⟨d, hd, rfl⟩ := List.mem_map.1 hname
    simp only [Option.mem_toList, Option.map_eq_some_iff] at hmem
    obtain ⟨v, hv, heq⟩ := hmem
    exact (hvertex v hv).2 d hd heq.symm
  · intro name hname hmem
    rcases List.mem_append.1 hname with hname | hname
    · obtain ⟨d, hd, rfl⟩ := List.mem_map.1 hname
      exact hfree d hd hmem
    · simp only [Option.mem_toList, Option.map_eq_some_iff] at hname
      obtain ⟨v, hv, rfl⟩ := hname
      exact (hvertex v hv).1 hmem

/-! ### Names of what is printed -/

/-- The printed types, in order. A stage without constants to set has no type.

**Proof sketch.** Each part of the items is looked through for types: the vertex input has its
struct, the sets have their writers, and the push constants and the code of the modules have no
types. -/
theorem types_items (p : Program) (options : Options) :
    (p.items options).filterMap Item.type? =
      p.structs.map (·.name) ++ (p.vertex.map (·.name)).toList ++ p.sets.keys.map writerName ++
        ((p.stages.filter (!·.specializations.isEmpty)).map (·.ident)).map specializerName ++
          ["Components"] := by
  have hvertex : (p.vertex.toList.flatMap (·.items)).filterMap Item.type? =
      (p.vertex.map (·.name)).toList := by
    cases p.vertex <;> rfl
  have hsets : (p.sets.keys.flatMap fun set => [Item.function (setLayoutName set),
      .type (writerName set)]).filterMap Item.type? = p.sets.keys.map writerName := by
    rw [List.filterMap_flatMap, List.map_eq_flatMap]
    rfl
  have hpush : (if p.hasPushConstants then [Item.function "push_constant_ranges"]
      else []).filterMap Item.type? = [] := by
    split <;> rfl
  have hcode : (if options.source then p.stages.map (Item.constant <| codeName ·.ident)
      else []).filterMap Item.type? = [] := by
    split
    · simp [List.filterMap_map, Function.comp_def, Item.type?]
    · rfl
  simp only [items, List.filterMap_append, hvertex, hsets, hpush, hcode]
  simp [List.filterMap_map, Function.comp_def, Item.type?]

/-- The printed functions, in order.

**Proof sketch.** As for the types, part by part: vertex input and push constants have their
functions if there are any, and each set has one. -/
theorem functions_items (p : Program) (options : Options) :
    (p.items options).filterMap Item.function? = p.functionNames := by
  have hvertex : (p.vertex.toList.flatMap (·.items)).filterMap Item.function? =
      if p.hasVertexInput then ["vertex_binding_descriptions", "vertex_attribute_descriptions"]
        else [] := by
    unfold hasVertexInput
    cases p.vertex <;> rfl
  have hsets : (p.sets.keys.flatMap fun set => [Item.function (setLayoutName set),
      .type (writerName set)]).filterMap Item.function? = p.sets.keys.map setLayoutName := by
    rw [List.filterMap_flatMap, List.map_eq_flatMap]
    rfl
  have hpush : (if p.hasPushConstants then [Item.function "push_constant_ranges"]
      else []).filterMap Item.function? =
      if p.hasPushConstants then ["push_constant_ranges"] else [] := by
    split <;> rfl
  have hcode : (if options.source then p.stages.map (Item.constant <| codeName ·.ident)
      else []).filterMap Item.function? = [] := by
    split
    · simp [List.filterMap_map, Function.comp_def, Item.function?]
    · rfl
  simp only [items, List.filterMap_append, hvertex, hsets, hpush, hcode]
  simp [List.filterMap_map, Function.comp_def, Item.function?, functionNames]

/-- The printed constants, in order.

**Proof sketch.** As for the types, part by part: only the code of the modules is held in constants,
and only if it is wanted. -/
theorem constants_items (p : Program) (options : Options) :
    (p.items options).filterMap Item.constant? =
      if options.source then p.staticNames else [] := by
  have hvertex : (p.vertex.toList.flatMap (·.items)).filterMap Item.constant? = [] := by
    cases p.vertex <;> rfl
  have hsets : (p.sets.keys.flatMap fun set => [Item.function (setLayoutName set),
      .type (writerName set)]).filterMap Item.constant? = [] := by
    rw [List.filterMap_flatMap]
    exact List.flatMap_eq_nil_iff.2 fun _ _ => rfl
  have hpush : (if p.hasPushConstants then [Item.function "push_constant_ranges"]
      else []).filterMap Item.constant? = [] := by
    split <;> rfl
  simp only [items, List.filterMap_append, hvertex, hsets, hpush]
  split
  · simp [List.filterMap_map, Function.comp_def, Item.constant?, staticNames, idents]
  · simp [List.filterMap_map, Function.comp_def, Item.constant?]

/-- What is printed has names among those of the program.

**Proof sketch.** The lists are known (`types_items`, `functions_items`, `constants_items`). What
can be left out are types of stages without constants to set, the imported names and the code. -/
theorem items_sublist (p : Program) (options : Options) :
    ((p.items options).filterMap Item.type?).Sublist p.typeNames ∧
      ((p.items options).filterMap Item.constant? ++
        (p.items options).filterMap Item.function?).Sublist (p.staticNames ++ p.functionNames) := by
  rw [types_items, constants_items, functions_items]
  constructor
  · have hspecializers : ((p.stages.filter (!·.specializations.isEmpty)).map
        (·.ident)).Sublist p.idents := List.filter_sublist.map _
    have hprinted := ((hspecializers.map specializerName).append_left
      (p.structs.map (·.name) ++ (p.vertex.map (·.name)).toList ++
        p.sets.keys.map writerName)).append_right ["Components"]
    refine hprinted.trans ?_
    simp only [typeNames, List.append_assoc]
    exact List.sublist_append_right ["ash", "vk", "Padded"] _
  · refine List.Sublist.append_right ?_ _
    split
    · exact List.Sublist.refl _
    · exact List.nil_sublist _

end Program

/-! ## Programs that are built -/

section

variable {options : Options} {modules : List ShaderModule} {program : Program}

/-- The stages of a program carry the short names of its modules.

**Proof sketch.** Induction on the modules: each stage of the program takes over the short name. -/
theorem idents_of_programStage {all : List StageModule} {stages : List ProgramStage}
    (h : all.mapM StageModule.programStage = .ok stages) :
    stages.map (·.ident) = all.map (·.ident) := by
  rw [Result.mapM_eq_ok_iff] at h
  induction h with
  | nil => rfl
  | cons hstage _ ih =>
    obtain ⟨specializations, -, hstage⟩ := Result.bind_eq_ok_iff.1 hstage
    cases hstage
    rw [List.map_cons, List.map_cons, ih]

/-- The vertex struct has the name that is asked for. -/
theorem name_of_vertexInput? {all : List StageModule} {v : VertexInput}
    (h : StageModule.vertexInput? options all = .ok (some v)) :
    options.vertex = true ∧ v.name = options.vertexName := by
  unfold StageModule.vertexInput? at h
  split at h
  · next hwanted =>
    split at h
    · next s hs =>
      unfold ShaderModule.vertexInput? at h
      split at h
      · cases h
      · obtain ⟨found, -, h⟩ := Result.bind_eq_ok_iff.1 h
        cases h
        exact ⟨hwanted, rfl⟩
    · cases h
  · cases h

/-- Whatever has a type of its own in a program is among what its modules reserve a name for.

**Proof sketch.** The fixed names are reserved for any program, and the names for stages come from
the same short names. A set with a writer has a binding in one of the modules
(`exists_bound_of_mem_keys`), so it is among the sets the modules use. -/
theorem mem_reservedNames_of_mem_ownTypeNames {all : List StageModule} {name : String}
    (hidents : program.idents = all.map (·.ident))
    (hsets : aggregate (all.map fun s => (s.stage, s.module)) = .ok program.sets)
    (h : name ∈ program.ownTypeNames) :
    name ∈ reservedNames options (all.map StageModule.named) := by
  have hused : ∀ set ∈ program.sets.keys,
      set ∈ usedSets ((all.map StageModule.named).map (·.2)) := by
    intro set hset
    obtain ⟨x, hx, rfl⟩ := exists_bound_of_mem_keys hsets hset
    obtain ⟨⟨stage, m⟩, hm, hx⟩ := List.mem_flatMap.1 hx
    obtain ⟨s, hs, heq⟩ := List.mem_map.1 hm
    cases heq
    obtain ⟨d, hd, rfl⟩ := List.mem_map.1 hx
    refine Ascending.mem_ofList.2 (List.mem_flatMap.2 ⟨s.module, ?_, ?_⟩)
    · rw [List.map_map]
      exact List.mem_map_of_mem hs
    · exact List.mem_map_of_mem hd
  unfold Program.ownTypeNames at h
  unfold reservedNames
  rcases List.mem_append.1 h with h | h
  · rcases List.mem_append.1 h with h | h
    · exact List.mem_append_left _ (List.mem_append_left _ (List.mem_append_left _ h))
    · obtain ⟨set, hset, rfl⟩ := List.mem_map.1 h
      exact List.mem_append_left _ (List.mem_append_right _ (List.mem_map_of_mem (hused set hset)))
  · obtain ⟨ident, hident, rfl⟩ := List.mem_map.1 h
    rw [hidents] at hident
    obtain ⟨s, hs, rfl⟩ := List.mem_map.1 hident
    refine List.mem_append_right _ (List.mem_map.2 ⟨s.named, List.mem_map_of_mem hs, rfl⟩)

/-- **The names of a program.** Every module has a short name of its own, however often a stage
comes up. If the name asked for the vertex struct is not that of another type of the source, no two
types that the source imports or declares have one name, and neither do two of its constants and
functions. What is printed are declarations of these names.

**Proof sketch.** The steps of `build` are taken apart: its modules have the short names of
`shortNames`, and its structs are put together as `exists_assembled` says. Names of structs differ
from one another and from all that are reserved, and those are what has a type of its own
(`mem_reservedNames_of_mem_ownTypeNames`) and the name of the vertex struct. So
`Program.nodup_typeNames` applies. Constants and functions are kept apart by
`Program.nodup_valueNames`, and what is printed by `Program.opened_sections`. -/
theorem nodup_names_of_build (h : build options modules = .ok program)
    (hname : options.vertexName ∉ program.ownTypeNames) :
    program.idents.length = modules.length ∧ program.idents.Nodup ∧ program.typeNames.Nodup ∧
      (program.staticNames ++ program.functionNames).Nodup ∧
      ∀ parts, program.sections options = .ok parts → ∃ items, Opened parts.flatten items ∧
        (items.filterMap Item.type?).Sublist program.typeNames ∧
        (items.filterMap Item.constant? ++ items.filterMap Item.function?).Sublist
          (program.staticNames ++ program.functionNames) := by
  simp only [build, Result.bind_eq_ok_iff] at h
  obtain ⟨all, hall, structs, hstructs, vertex, hvertex, sets, hsets, ranges, -, stages, hstages,
    h⟩ := h
  obtain ⟨_, -, hstaged⟩ := exists_staged hall
  obtain ⟨os, ha⟩ := exists_assembled hstaged.structs hstructs
  have hmodules : program.idents = all.map (·.ident) := by
    cases h
    exact idents_of_programStage hstages
  have hidents : program.idents = shortNames (all.map (·.stage)) :=
    hmodules.trans hstaged.idents
  have hown : ∀ name ∈ program.ownTypeNames,
      name ∈ reservedNames options (all.map StageModule.named) := by
    intro name hmem
    refine mem_reservedNames_of_mem_ownTypeNames hmodules ?_ hmem
    cases h
    exact hsets
  have hdecls : program.structs = structs.flatten := by
    cases h
    rfl
  rw [← hdecls] at ha
  have htypes : program.typeNames.Nodup := by
    refine Program.nodup_typeNames (Program.nodup_ownTypeNames hidents) ha.nodup_names
      (fun d hd hmem => ha.name_notMem hd (hown _ hmem)) fun v hv => ?_
    have hv' : vertex = some v := by
      cases h
      exact hv
    obtain ⟨hwanted, hvname⟩ := name_of_vertexInput? (hv' ▸ hvertex)
    refine ⟨hvname ▸ hname, fun d hd heq => ha.name_notMem hd ?_⟩
    rw [heq, hvname]
    simp [reservedNames, hwanted]
  refine ⟨?_, ?_, htypes, Program.nodup_valueNames hidents, fun parts hparts =>
    ⟨_, Program.opened_sections hparts, program.items_sublist options⟩⟩
  · rw [hmodules, List.length_map, ← hstaged.modules, List.length_map]
  · have hnodup := spellsBy_id.nodup (all.map (·.stage))
    rwa [List.map_id, ← hidents] at hnodup

end

/-- A struct of a single number. -/
def numberStruct (id : Nat) (name : String) : StructType where
  id := id
  name := name
  size := 4
  members := [{ name := "value", ty := .float32, offset := 0 }]

/-- A fragment module with one block. -/
def numberStage (id : Nat) (name : String) : ShaderModule where
  entry := some { name := "main", model := "Fragment", stage := some .fragment }
  structs := [numberStruct id name]
  resources := { uniformBuffers := [{ ty := .struct id, set := 10 }] }

/-- A vertex module and three fragment modules, with structs that are called like the vertex struct
and like an import. -/
def repeatedStages : List ShaderModule :=
  [{ entry := some { name := "main", model := "Vertex", stage := some .vertex }
     structs := [numberStruct 1 "Point"]
     resources :=
       { uniformBuffers := [{ ty := .struct 1, set := 2 }]
         stageInputs := [{ name := "place", ty := .vector .float32 3, location := some 0 }] } },
   numberStage 4 "vk", numberStage 5 "Point", numberStage 6 "vk"]

/-- All of these get different names.

The stage that comes up three times gets numbers, and a struct whose name is taken gets one as
well. -/
theorem nodup_names_repeatedStages :
    ∃ program, build { vertexName := "Point" } repeatedStages = .ok program ∧
      "Point" ∉ program.ownTypeNames ∧ program.idents = ["vert", "frag", "frag_1", "frag_2"] ∧
      program.structs.map (·.name) = ["Point_1", "vk_1"] ∧
      (program.vertex.map (·.name)) = some "Point" ∧ program.typeNames.Nodup ∧
      (program.staticNames ++ program.functionNames).Nodup := by
  have hbuild : (build { vertexName := "Point" } repeatedStages).map (fun p =>
      (p.idents, p.structs.map (·.name), p.vertex.map (·.name), p.sets.keys)) =
      .ok (["vert", "frag", "frag_1", "frag_2"], ["Point_1", "vk_1"], some "Point", [2, 10]) := by
    cbv
  obtain ⟨program, hprogram, hparts⟩ := Result.map_eq_ok_iff.1 hbuild
  simp only [Prod.mk.injEq] at hparts
  obtain ⟨hidents, hstructs, hvertex, hsets⟩ := hparts
  have hfree : "Point" ∉ program.ownTypeNames := by
    rw [Program.ownTypeNames, hidents, hsets]
    decide
  obtain ⟨-, -, htypes, hvalues, -⟩ := nodup_names_of_build hprogram hfree
  exact ⟨program, hprogram, hfree, hidents, hstructs, hvertex, htypes, hvalues⟩

end ShaderBindings
