import ShaderBindings.Proofs.Sorted
import ShaderBindings.Proofs.Source.Members
import ShaderBindings.Proofs.Text.Repeats
import ShaderBindings.Source.Descriptors
import ShaderBindings.Source.Stages
/-!
# Names of setters

The type that fills a descriptor set has a function for each binding, and the type that collects the
specialization constants of a stage one for each constant. Both name them in the same way: after the
binding or the constant, with its number behind a name that was given before. The number is not
looked at again, so a name with a number of its own can still be met.

## Main definitions

* `SetTable.plainNames` - the names of bindings before clashes are looked at.
* `SpecEntry.plainSetter` - the name of a setter before clashes are looked at.

## Main results

* `nodup_methodNames_setWriterLines_iff` - when the functions of a set have names of their own.
* `nodup_methodNames_specializerLines_iff` - when the functions of a stage have names of their own.
-/

set_option autoImplicit false

namespace ShaderBindings

open Text

/-! ## Characters of names -/

/-- A name with a number behind it consists of identifier characters if the name does.

**Proof sketch.** Besides the name itself there are an underscore and digits. -/
theorem isIdentChar_of_mem_withNumber {base : String} {n : Nat} {c : Char}
    (h : ∀ d ∈ base.toList, isIdentChar d = true) (hc : c ∈ (withNumber base n).toList) :
    isIdentChar c = true := by
  rw [toList_withNumber, List.mem_append, List.mem_cons] at hc
  rcases hc with hc | rfl | hc
  · exact h c hc
  · decide
  · exact isIdentChar_of_isDigit (isDigit_of_mem_toDigits hc)

/-- Names that are given consist of identifier characters if those they are made from do. -/
theorem isIdentChar_of_mem_markRepeats {items : List (String × Nat)} {name : String} {c : Char}
    (h : ∀ item ∈ items, ∀ d ∈ item.1.toList, isIdentChar d = true)
    (hname : name ∈ markRepeats [] items) (hc : c ∈ name.toList) : isIdentChar c = true := by
  rcases mem_or_exists_of_mem_markRepeats hname with hname | ⟨item, hitem, rfl⟩
  · obtain ⟨item, hitem, rfl⟩ := List.mem_map.1 hname
    exact h item hitem c hc
  · exact isIdentChar_of_mem_withNumber (h item hitem) hc

/-- No parenthesis stands in a name made of identifier characters. -/
theorem paren_notMem {name : String} (h : ∀ c ∈ name.toList, isIdentChar c = true) :
    '(' ∉ name.toList :=
  fun hc => absurd (h _ hc) (by decide)

/-- A setter's name consists of identifier characters if what stands behind does. -/
theorem isIdentChar_of_mem_setter {name : String} (h : ∀ c ∈ name.toList, isIdentChar c = true) :
    ∀ c ∈ ("set_" ++ name).toList, isIdentChar c = true := by
  have hletters : "set_".toList.all isIdentChar = true := by decide
  rw [String.toList_append]
  exact List.forall_mem_append.2 ⟨List.all_eq_true.1 hletters, h⟩

/-! ## The functions of a type -/

/-- A struct with one field that cannot be seen from outside declares no function. -/
theorem methodNames_struct (name : String) {field : String}
    (h : methodNames (indent [field]) = []) :
    methodNames (braced s!"pub struct {name}" [field] "") = [] := by
  refine (methodNames_braced _ _ ?_).trans h
  change ("pub struct " ++ name).toList.head? ≠ some ' '
  simp

/-- The functions of a type are those of its block. -/
theorem methodNames_impl (name : String) (body : List String) :
    methodNames (braced s!"impl {name}" body "") = methodNames (indent body) := by
  refine methodNames_braced _ _ ?_
  change ("impl " ++ name).toList.head? ≠ some ' '
  simp

/-- With functions beside them that are not named like setters, the functions differ if the setters
do.

**Proof sketch.** The order of the names does not matter, so the setters are put in front. No other
function begins as they do, and the others differ among themselves. -/
theorem nodup_setters_iff {first last setters : List String}
    (hsetters : ∀ name ∈ setters, "set_".toList <+: name.toList)
    (hothers : ∀ name ∈ first ++ last, ¬ "set_".toList <+: name.toList)
    (hnodup : (first ++ last).Nodup) : (first ++ setters ++ last).Nodup ↔ setters.Nodup := by
  have hperm : (first ++ setters ++ last).Perm (setters ++ (first ++ last)) := by
    rw [← List.append_assoc setters]
    exact List.perm_append_comm.append_right last
  rw [hperm.nodup_iff, List.nodup_append']
  refine ⟨fun h => h.1, fun h => ⟨h, hnodup, fun name hname hother => ?_⟩⟩
  exact hothers name hother (hsetters name hname)

/-! ## Bindings of a set -/

/-- The bindings of a set under their names before clashes are looked at, with their numbers. Two
names in this list can be the same; the numbers are all different. -/
def SetTable.plainNames (table : SetTable) : List (String × Nat) :=
  table.entries.map fun (number, b) => (NamedBinding.baseName number b, number)

/-- The names of bindings are given as all names that may be repeated.

**Proof sketch.** Induction on the bindings: both go through the list with the names used so far. -/
theorem map_name_ofEntries (used : List String) (entries : List (Nat × Binding)) :
    (NamedBinding.ofEntries used entries).map (·.name) = markRepeats used
      (entries.map fun (number, b) => (NamedBinding.baseName number b, number)) := by
  induction entries generalizing used with
  | nil => rfl
  | cons entry entries ih =>
    obtain ⟨number, b⟩ := entry
    simp only [NamedBinding.ofEntries, List.map_cons, markRepeats, withNumber, ih]

/-- The names of the bindings of a set, as names that may be repeated. -/
theorem map_name_namedBindings (table : SetTable) :
    (namedBindings table).map (·.name) = markRepeats [] (SetTable.plainNames table) :=
  map_name_ofEntries [] table.entries

/-- Every binding of the set is named, under its number.

**Proof sketch.** Induction on the bindings, whatever names have been used. -/
theorem map_binding_namedBindings (table : SetTable) :
    (namedBindings table).map (fun b => (b.number, b.binding)) = table.entries := by
  have hentries (used : List String) (entries : List (Nat × Binding)) :
      (NamedBinding.ofEntries used entries).map (fun b => (b.number, b.binding)) = entries := by
    induction entries generalizing used with
    | nil => rfl
    | cons entry entries ih => simp only [NamedBinding.ofEntries, List.map_cons, ih]
  exact hentries [] table.entries

/-- The name of a binding before clashes are looked at consists of identifier characters.

**Proof sketch.** Without a name it is a word with the number behind it, and else the name is made
of identifier characters (`isSpelled_sanitize`). -/
theorem isIdentChar_of_mem_baseName {number : Nat} {b : Binding} {c : Char}
    (hc : c ∈ (NamedBinding.baseName number b).toList) : isIdentChar c = true := by
  unfold NamedBinding.baseName at hc
  split at hc
  · change c ∈ ("binding" ++ toString number).toList at hc
    rw [String.toList_append, List.mem_append] at hc
    rcases hc with hc | hc
    · have hletters : "binding".toList.all isIdentChar = true := by decide
      exact List.all_eq_true.1 hletters c hc
    · have hdigits : c ∈ Nat.toDigits 10 number := by simpa [Nat.toString_eq_repr] using hc
      exact isIdentChar_of_isDigit (isDigit_of_mem_toDigits hdigits)
  · exact (isSpelled_sanitize b.name).chars c hc

/-- The name of a binding consists of identifier characters.

**Proof sketch.** The name is given among all that may be repeated (`map_name_namedBindings`), and
marks do not change the characters (`isIdentChar_of_mem_markRepeats`). -/
theorem isIdentChar_of_mem_namedBindings {table : SetTable} {b : NamedBinding} {c : Char}
    (hb : b ∈ namedBindings table) (hc : c ∈ b.name.toList) : isIdentChar c = true := by
  have hplain : ∀ item ∈ SetTable.plainNames table, ∀ d ∈ item.1.toList,
      isIdentChar d = true := by
    intro item hitem d hd
    obtain ⟨entry, -, rfl⟩ := List.mem_map.1 hitem
    exact isIdentChar_of_mem_baseName hd
  have hname : b.name ∈ markRepeats [] (SetTable.plainNames table) :=
    map_name_namedBindings table ▸ List.mem_map_of_mem hb
  exact isIdentChar_of_mem_markRepeats hplain hname hc

/-- The function that fills a binding carries its name.

**Proof sketch.** The first line has the name in front of the parameters, and no parenthesis stands
in it (`paren_notMem`), so `methodNames_indent_function` applies. -/
theorem NamedBinding.methodNames_setterLines {b : NamedBinding}
    (h : ∀ c ∈ b.name.toList, isIdentChar c = true) :
    methodNames (indent ("" :: b.setterLines)) = ["set_" ++ b.name] := by
  have hheader : s!"pub fn set_{b.name}(&mut self, {b.binding.kind.params}) -> {writeResult}" =
      "pub fn " ++ ("set_" ++ b.name) ++ "(" ++
        ("&mut self, " ++ b.binding.kind.params ++ ") -> " ++ writeResult) := by
    change "pub fn set_" ++ b.name ++ "(&mut self, " ++ b.binding.kind.params ++ ") -> " ++
      writeResult = _
    simp [← String.toList_inj]
  rw [methodNames_indent_blank, NamedBinding.setterLines, hheader,
    methodNames_indent_function _ _ _ (paren_notMem (isIdentChar_of_mem_setter h))]

/-- The functions of the type that fills a set: one for each binding, and three others.

**Proof sketch.** The lines are taken apart where blocks and functions begin. Each setter declares
itself (`NamedBinding.methodNames_setterLines`), the other functions are fixed, and everything else
declares none. -/
theorem methodNames_setWriterLines (set : Nat) (table : SetTable) :
    methodNames (setWriterLines set table) =
      ["new"] ++ (namedBindings table).map (fun b => "set_" ++ b.name) ++ ["clear", "update"] := by
  have hsetters : methodNames (indent ((namedBindings table).flatMap fun b =>
      "" :: b.setterLines)) = (namedBindings table).map fun b => "set_" ++ b.name := by
    refine methodNames_indent_flatMap fun b hb => ?_
    exact NamedBinding.methodNames_setterLines fun c hc => isIdentChar_of_mem_namedBindings hb hc
  have hnew (params : String) (body : List String) :
      methodNames (indent (braced s!"pub fn new({params}) -> Self" body "")) = ["new"] := by
    have hheader : s!"pub fn new({params}) -> Self" = "pub fn " ++ "new" ++ "(" ++
        (params ++ ") -> Self") := by
      change "pub fn new(" ++ params ++ ") -> Self" = _
      simp [← String.toList_inj]
    rw [hheader, methodNames_indent_function _ _ _ (by decide)]
  have hclear : methodNames (indent (braced "pub fn clear(&mut self)" ["self.inner.clear();"] "")) =
      ["clear"] := by decide
  have hupdate : methodNames (indent (braced "pub unsafe fn update(&self, device: &ash::Device)"
      ["self.inner.update(device);"] "")) = ["update"] := by decide
  have hblank : methodNames (indent [""]) = [] := by decide
  have hfield : methodNames (indent [s!"inner: {runtimeCrate}::DescriptorWriter,"]) = [] := by
    decide
  have hhead : methodNames ["#[derive(Debug)]"] = [] ∧ methodNames [""] = [] := by decide
  simp only [setWriterLines, methodNames_append, hhead.1, hhead.2, methodNames_struct _ hfield,
    List.nil_append, methodNames_impl, methodNames_indent_append, hnew, hsetters, hclear, hupdate,
    hblank, List.append_nil]
  simp

/-- The text in front of a name tells nothing about names that differ. -/
theorem nodup_map_append_left_iff {opening : String} {names : List String} :
    (names.map (opening ++ ·)).Nodup ↔ names.Nodup := by
  refine List.nodup_map_iff fun a b h => ?_
  simpa [← String.toList_inj] using h

/-- The parameters for numbers of descriptors differ if the names of the bindings do.

**Proof sketch.** Each is the name of a binding with the same text behind it, so they differ as the
names do, and all of them are longer than the word for the first parameter. -/
theorem nodup_runtimeCounts {table : SetTable} (h : ((namedBindings table).map (·.name)).Nodup) :
    ("set" :: runtimeCounts table).Nodup := by
  have hcount (b : NamedBinding) : b.countName = b.name ++ "_count" := rfl
  refine List.nodup_cons.2 ⟨fun hmem => ?_, ?_⟩
  · obtain ⟨b, -, hb⟩ := List.mem_map.1 hmem
    have hlength := congrArg (·.toList.length) hb
    rw [hcount] at hlength
    simp at hlength
  · have hnames : (((namedBindings table).filter (·.binding.isRuntimeArray)).map (·.name)).Nodup :=
      h.sublist (List.filter_sublist.map _)
    have hcounts : runtimeCounts table = (((namedBindings table).filter
        (·.binding.isRuntimeArray)).map (·.name)).map (· ++ "_count") := by
      rw [List.map_map]
      rfl
    rw [hcounts]
    refine hnames.map fun a b hab => ?_
    simpa [← String.toList_inj] using hab

/-- **When the functions of a set have names of their own.** The type that fills a set has one
function for each binding and three others. All of them differ from one another, and so do the names
of the bindings, exactly if no repeated name is, with its number, one of the names before. The
parameters for numbers of descriptors differ then too.

**Proof sketch.** The names are given as to all names that may be repeated, and the numbers of the
bindings differ. What stands in front of the names, or behind them, is the same for all. -/
theorem nodup_methodNames_setWriterLines_iff (set : Nat) (table : SetTable) :
    (namedBindings table).map (fun b => (b.number, b.binding)) = table.entries ∧
    methodNames (setWriterLines set table) =
      ["new"] ++ (namedBindings table).map (fun b => "set_" ++ b.name) ++ ["clear", "update"] ∧
    (((namedBindings table).map (·.name)).Nodup ↔ IsApart (SetTable.plainNames table)) ∧
    ((methodNames (setWriterLines set table)).Nodup ↔ IsApart (SetTable.plainNames table)) ∧
    (IsApart (SetTable.plainNames table) → ("set" :: runtimeCounts table).Nodup) := by
  have hnumbers : ((SetTable.plainNames table).map (·.2)).Nodup := by
    have hkeys : (SetTable.plainNames table).map (·.2) = table.keys := by
      rw [SetTable.plainNames, List.map_map]
      rfl
    exact hkeys ▸ table.nodup_keys
  have hnames : ((namedBindings table).map (·.name)).Nodup ↔
      IsApart (SetTable.plainNames table) := by
    rw [map_name_namedBindings, nodup_markRepeats_iff hnumbers]
  have hmethods : (methodNames (setWriterLines set table)).Nodup ↔
      ((namedBindings table).map (·.name)).Nodup := by
    have hsetters : ∀ name ∈ (namedBindings table).map (fun b => "set_" ++ b.name),
        "set_".toList <+: name.toList := by
      intro name hname
      obtain ⟨b, -, rfl⟩ := List.mem_map.1 hname
      exact String.toList_append ▸ List.prefix_append _ _
    have hmap : (namedBindings table).map (fun b => "set_" ++ b.name) =
        ((namedBindings table).map (·.name)).map ("set_" ++ ·) := by
      rw [List.map_map]
      rfl
    rw [methodNames_setWriterLines, nodup_setters_iff hsetters (by decide) (by decide), hmap,
      nodup_map_append_left_iff]
  exact ⟨map_binding_namedBindings table, methodNames_setWriterLines set table, hnames,
    hmethods.trans hnames, fun h => nodup_runtimeCounts (hnames.2 h)⟩

/-- A uniform buffer under a name. -/
def namedBuffer (name : String) (arraySize : Nat) : Binding :=
  { kind := .uniformBuffer, arraySize, dim := none, stages := {.vertex}, name }

/-- Two bindings of one name, one without a name, and one that is named after the number of another.
-/
def mixedTable : SetTable where
  entries := [(0, namedBuffer "lights" 0), (3, namedBuffer "" 1), (4, namedBuffer "binding3" 1),
    (7, namedBuffer "lights" 0)]
  ascending := by simp

/-- Where names are repeated, the functions of a set can have names of their own. -/
theorem nodup_methodNames_mixedTable :
    (methodNames (setWriterLines 0 mixedTable)).Nodup ∧
      ("set" :: runtimeCounts mixedTable).Nodup := by
  obtain ⟨-, -, hnames, hmethods, hcounts⟩ := nodup_methodNames_setWriterLines_iff 0 mixedTable
  have happart : IsApart (SetTable.plainNames mixedTable) := hnames.1 (by decide +kernel)
  exact ⟨hmethods.2 happart, hcounts happart⟩

/-- A name with a number, and another name that gets this number. The third binding is called like
the first one, since only plain names are compared. -/
def clashingTable : SetTable where
  entries := [(0, namedBuffer "a_2" 0), (1, namedBuffer "a" 1), (2, namedBuffer "a" 0)]
  ascending := by simp

/-- Two bindings of a set can get one name, and then two functions and two parameters do.

The third binding gets its number behind a name that has been used, and that is the name of the
first. -/
theorem exists_repeated_binding :
    ∃ b ∈ namedBindings clashingTable, ∃ b' ∈ namedBindings clashingTable,
      b.number ≠ b'.number ∧ b.name = b'.name ∧
      methodNames (setWriterLines 0 clashingTable) =
        ["new", "set_a_2", "set_a", "set_a_2", "clear", "update"] ∧
      runtimeCounts clashingTable = ["a_2_count", "a_2_count"] := by
  have hnamed : namedBindings clashingTable =
      [⟨0, "a_2", namedBuffer "a_2" 0⟩, ⟨1, "a", namedBuffer "a" 1⟩,
        ⟨2, "a_2", namedBuffer "a" 0⟩] := by decide +kernel
  rw [methodNames_setWriterLines, runtimeCounts, hnamed]
  exact ⟨_, List.mem_cons_self, ⟨2, "a_2", namedBuffer "a" 0⟩, by simp, by simp, rfl, by decide,
    by decide⟩

/-! ## Constants of a stage -/

/-- The name of the function that sets a constant before clashes are looked at. -/
def SpecEntry.plainSetter (spec : SpecEntry) : String := s!"set_{sanitize spec.name}"

/-- The setters of a stage before clashes are looked at, with the ids of their constants. -/
def SpecEntry.plainSetters (specs : List SpecEntry) : List (String × Nat) :=
  specs.map fun spec => (spec.plainSetter, spec.constantId)

/-- The names of setters are given as all names that may be repeated.

**Proof sketch.** Induction on the constants, whatever names have been used. -/
theorem map_fst_setterNames (specs : List SpecEntry) :
    (setterNames specs).map (·.1) = markRepeats [] (SpecEntry.plainSetters specs) := by
  have hafter (used : List String) : (setterNamesAfter used specs).map (·.1) =
      markRepeats used (SpecEntry.plainSetters specs) := by
    induction specs generalizing used with
    | nil => rfl
    | cons spec specs ih =>
      rw [setterNamesAfter, List.map_cons, ih]
      rfl
  exact hafter []

/-- Every constant has a setter. -/
theorem map_snd_setterNames (specs : List SpecEntry) : (setterNames specs).map (·.2) = specs := by
  have hafter (used : List String) : (setterNamesAfter used specs).map (·.2) = specs := by
    induction specs generalizing used with
    | nil => rfl
    | cons spec specs ih => simp only [setterNamesAfter, List.map_cons, ih]
  exact hafter []

/-- All names of setters begin in the same way.

**Proof sketch.** A name that is given is one of those proposed or has a number behind it
(`mem_or_exists_of_mem_markRepeats`), and those proposed begin in this way. -/
theorem prefix_of_mem_setterNames {specs : List SpecEntry} {name : String}
    (h : name ∈ (setterNames specs).map (·.1)) : "set_".toList <+: name.toList := by
  have hplain (spec : SpecEntry) : "set_".toList <+: spec.plainSetter.toList := by
    change "set_".toList <+: ("set_" ++ sanitize spec.name).toList
    exact String.toList_append ▸ List.prefix_append _ _
  rw [map_fst_setterNames] at h
  rcases mem_or_exists_of_mem_markRepeats h with h | ⟨item, hitem, rfl⟩
  · obtain ⟨item, hitem, rfl⟩ := List.mem_map.1 h
    obtain ⟨spec, -, rfl⟩ := List.mem_map.1 hitem
    exact hplain spec
  · obtain ⟨spec, -, rfl⟩ := List.mem_map.1 hitem
    rw [toList_withNumber]
    exact (hplain spec).trans (List.prefix_append _ _)

/-- The name of a setter consists of identifier characters.

**Proof sketch.** Those proposed are made of identifier characters, and so are the names that are
given (`isIdentChar_of_mem_markRepeats`). -/
theorem isIdentChar_of_mem_setterNames {specs : List SpecEntry} {setter : String × SpecEntry}
    {c : Char} (h : setter ∈ setterNames specs) (hc : c ∈ setter.1.toList) :
    isIdentChar c = true := by
  have hplain : ∀ item ∈ SpecEntry.plainSetters specs, ∀ d ∈ item.1.toList,
      isIdentChar d = true := by
    intro item hitem
    obtain ⟨spec, -, rfl⟩ := List.mem_map.1 hitem
    exact isIdentChar_of_mem_setter (isSpelled_sanitize spec.name).chars
  exact isIdentChar_of_mem_markRepeats hplain (map_fst_setterNames specs ▸ List.mem_map_of_mem h) hc

/-- The function that sets a constant carries the name of the setter.

**Proof sketch.** The first line has the name in front of the parameters, so
`methodNames_indent_function` reads it. -/
theorem methodNames_setterLines {setter : String × SpecEntry}
    (h : ∀ c ∈ setter.1.toList, isIdentChar c = true) :
    methodNames (indent ("" :: setterLines setter.1 setter.2)) = [setter.1] := by
  obtain ⟨name, spec⟩ := setter
  have hheader : s!"pub fn {name}(&mut self, value: {spec.kind.typeName}) -> {writeResult}" =
      "pub fn " ++ name ++ "(" ++
        ("&mut self, value: " ++ spec.kind.typeName ++ ") -> " ++ writeResult) := by
    change "pub fn " ++ name ++ "(&mut self, value: " ++ spec.kind.typeName ++ ") -> " ++
      writeResult = _
    simp [← String.toList_inj]
  rw [methodNames_indent_blank, setterLines, hheader,
    methodNames_indent_function _ _ _ (paren_notMem h)]

/-- The functions of the type that collects the constants of a stage: one for each constant, and
three others.

**Proof sketch.** The lines are taken apart where blocks and functions begin. Each setter declares
itself (`methodNames_setterLines`), the other functions are fixed, and the default is one step
further in, inside a block that cannot be seen from outside. -/
theorem methodNames_specializerLines (s : ProgramStage) :
    methodNames s.specializerLines =
      ["new"] ++ (setterNames s.specializations).map (·.1) ++ ["stage", "info"] := by
  have hsetters : methodNames (indent ((setterNames s.specializations).flatMap fun setter =>
      "" :: setterLines setter.1 setter.2)) = (setterNames s.specializations).map (·.1) := by
    refine methodNames_indent_flatMap fun setter hsetter => ?_
    exact methodNames_setterLines fun c hc => isIdentChar_of_mem_setterNames hsetter hc
  have hnew (body : List String) :
      methodNames (indent (braced "pub fn new() -> Self" body "")) = ["new"] := by
    rw [methodNames_indent_braced]
    decide
  have hstage : methodNames (indent (braced "pub fn stage(&self) -> vk::ShaderStageFlags"
      ["self.inner.stage()"] "")) = ["stage"] := by decide
  have hinfo : methodNames (indent (braced "pub fn info(&self) -> vk::SpecializationInfo"
      ["self.inner.info()"] "")) = ["info"] := by decide
  have hdefault : methodNames (braced s!"impl Default for {specializerName s.ident}"
      (braced "fn default() -> Self" ["Self::new()"] "") "") = [] := by
    refine (methodNames_braced _ _ ?_).trans (by decide)
    change ("impl Default for " ++ specializerName s.ident).toList.head? ≠ some ' '
    simp
  have hfield : methodNames (indent [s!"inner: {runtimeCrate}::Specializer,"]) = [] := by decide
  have hblank : methodNames (indent [""]) = [] := by decide
  have hdoc : methodNames (indent ["", "/// The returned info points into `self`."]) = [] := by
    decide
  have hhead : methodNames ["#[derive(Debug)]"] = [] ∧
      methodNames ["", "#[allow(non_snake_case)]"] = [] ∧ methodNames [""] = [] := by decide
  simp only [ProgramStage.specializerLines, methodNames_append, hhead.1, hhead.2.1, hhead.2.2,
    methodNames_struct _ hfield, List.nil_append, methodNames_impl, methodNames_indent_append, hnew,
    hstage, hinfo, hdefault, hdoc, hblank, List.append_nil]
  simp [hsetters]

/-- **When the functions of a stage have names of their own.** The type that collects the constants
of a stage has one function for each constant and three others. With different ids they differ from
one another exactly if no repeated name is, with its id, one of the names before.

**Proof sketch.** The names are given as to all names that may be repeated. -/
theorem nodup_methodNames_specializerLines_iff (s : ProgramStage)
    (h : (s.specializations.map (·.constantId)).Nodup) :
    (setterNames s.specializations).map (·.2) = s.specializations ∧
    methodNames s.specializerLines =
      ["new"] ++ (setterNames s.specializations).map (·.1) ++ ["stage", "info"] ∧
    ((methodNames s.specializerLines).Nodup ↔
      IsApart (SpecEntry.plainSetters s.specializations)) := by
  have hids : ((SpecEntry.plainSetters s.specializations).map (·.2)).Nodup := by
    rw [SpecEntry.plainSetters, List.map_map]
    exact h
  refine ⟨map_snd_setterNames _, methodNames_specializerLines s, ?_⟩
  rw [methodNames_specializerLines, nodup_setters_iff (fun _ => prefix_of_mem_setterNames)
    (by decide) (by decide), map_fst_setterNames, nodup_markRepeats_iff hids]

/-- A vertex stage with constants of the given names, numbered from `0`. -/
def tunedStage (names : List String) : ProgramStage where
  ident := "vert"
  stage := .vertex
  entry := "main"
  specializations := names.zipIdx.map fun (name, constantId) => { constantId, name, kind := .f32 }
  code := []

/-- Where names are repeated, the functions of a stage can have names of their own.

The second constant is called like the first one, with a number behind it that is not that of the
third. -/
theorem nodup_methodNames_tunedStage :
    ((tunedStage ["rate", "rate_7", "rate", ""]).specializations.map (·.constantId)).Nodup ∧
      (methodNames (tunedStage ["rate", "rate_7", "rate", ""]).specializerLines).Nodup := by
  have hids : ((tunedStage ["rate", "rate_7", "rate", ""]).specializations.map
      (·.constantId)).Nodup := by decide
  obtain ⟨-, hmethods, -⟩ := nodup_methodNames_specializerLines_iff _ hids
  rw [hmethods]
  exact ⟨hids, by decide +kernel⟩

/-- Two constants with different ids can get setters of one name.

The third setter gets the id of its constant behind a name that has been used, and that is the name
of the first. -/
theorem exists_repeated_setter :
    ∃ s : ProgramStage, s.specializations.map (·.constantId) = [0, 1, 2] ∧
      methodNames s.specializerLines = ["new", "set_a_2", "set_a", "set_a_2", "stage", "info"] ∧
      ¬ (methodNames s.specializerLines).Nodup := by
  have hmethods : methodNames (tunedStage ["a_2", "a", "a"]).specializerLines =
      ["new", "set_a_2", "set_a", "set_a_2", "stage", "info"] := by
    rw [methodNames_specializerLines]
    decide +kernel
  refine ⟨tunedStage ["a_2", "a", "a"], by decide, hmethods, ?_⟩
  rw [hmethods]
  decide

end ShaderBindings
