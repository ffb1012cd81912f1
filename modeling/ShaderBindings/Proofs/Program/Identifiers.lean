import ShaderBindings.Proofs.Program.Names
/-!
# Struct names as identifiers

The final name of a struct is its declared name made of identifier characters, with marks behind it
that tell it from others. This module shows what such a name can be: with a mark it is none of the
words that mean something else in the printed source, and without one it is such a word only if the
declared name is.

## Main definitions

* `ShaderBindings.Mark`, `ShaderBindings.Marked` - what is put behind a name, and names with marks.
* `ShaderBindings.unusableNames` - the words that no struct may be called.

## Main results

* `ShaderBindings.marked_of_mem_givenNames` - final names are declared names with marks.
* `Marked.notMem_unusableNames` - a name with a mark can be used.
* `ShaderBindings.isUsable_of_build` - the names of the structs of a program.
-/

set_option autoImplicit false

namespace ShaderBindings

/-! ## Names with marks -/

/-- What is put behind a name to tell it from others: a number, the short name of a stage, or
nothing behind the underscore. -/
inductive Mark : List Char → Prop
  | none : Mark []
  | number (n : Nat) : Mark (Nat.toDigits 10 n)
  | stage (stage : Stage) (n : Nat) : Mark (shortName stage n).toList

/-- A name with any number of marks behind it. These are the names that a struct can be given: its
declared name, and then what tells it from others. -/
inductive Marked (stem : String) : String → Prop
  | stem : Marked stem stem
  | mark {name piece : String} (h : Marked stem name) (hpiece : Mark piece.toList) :
    Marked stem (name ++ "_" ++ piece)

/-- A number written out is a mark. -/
theorem mark_toString (n : Nat) : Mark (toString n).toList := by
  rw [Nat.toString_eq_repr, Nat.toList_repr]
  exact .number n

/-- All candidates for a name with marks are names with marks: each but the first has a number
behind it. -/
theorem marked_candidate {stem base : String} (h : Marked stem base) (n : Nat) :
    Marked stem (candidate base n) := by
  cases n with
  | zero => exact h
  | succ n => exact .mark h (mark_toString (n + 1))

section

variable {taken idents : List String} {name : String} {g : StructGroup}

/-- A group that is numbered behind a name with marks gets one more mark, and one that stands alone
gets the name itself. -/
theorem marked_of_mem_numbered {stem base : String} (h : Marked stem base)
    {groups : List StructGroup} (hg : (name, g) ∈ StructGroup.numbered base groups) :
    Marked stem name ∧ g ∈ groups := by
  unfold StructGroup.numbered at hg
  split at hg
  · obtain ⟨⟨g', i⟩, hmem, heq⟩ := List.mem_map.1 hg
    cases heq
    exact ⟨.mark h (mark_toString i), List.fst_mem_of_mem_zipIdx hmem⟩
  · obtain ⟨g', hmem, heq⟩ := List.mem_map.1 hg
    cases heq
    exact ⟨h, hmem⟩

/-- The names wanted for the groups of a declared name.

They are the declared name with marks. A struct of several modules has a number at most, and one of
a single module has the short name of that module, then a number.

**Proof sketch.** Proposals come from the two calls of `StructGroup.numbered`, so
`marked_of_mem_numbered` applies to each. In the second one the base has the short name for a mark
if it is there at all. -/
theorem marked_of_mem_proposals (hidents : ∀ ident ∈ idents, Mark ident.toList) {declared : String}
    {groups : List StructGroup} (hg : (name, g) ∈ StructGroup.proposals idents declared groups) :
    Marked (Text.sanitize declared) name ∧ g ∈ groups := by
  have hident (owner : Nat) : Mark (idents.getD owner "").toList := by
    rw [List.getD_eq_getElem?_getD]
    cases h : idents[owner]? with
    | none => exact .none
    | some ident => exact hidents ident (List.mem_of_getElem? h)
  rcases List.mem_append.1 hg with hg | hg
  · obtain ⟨hname, hmem⟩ := marked_of_mem_numbered .stem hg
    exact ⟨hname, List.mem_of_mem_filter hmem⟩
  · obtain ⟨owner, -, hg⟩ := List.mem_flatMap.1 hg
    have hbase (c : Prop) [Decidable c] : Marked (Text.sanitize declared)
        (if c then Text.sanitize declared ++ "_" ++ idents.getD owner ""
          else Text.sanitize declared) := by
      split
      · exact .mark .stem (hident owner)
      · exact .stem
    obtain ⟨hname, hmem⟩ := marked_of_mem_numbered (hbase _) hg
    exact ⟨hname, List.mem_of_mem_filter (List.mem_of_mem_filter hmem)⟩

/-- An assigned name is a candidate of the name that was wanted. -/
theorem exists_mem_of_mem_assignNames {wanted : List (String × StructGroup)}
    (h : (name, g) ∈ assignNames taken wanted) :
    ∃ base n, (base, g) ∈ wanted ∧ name = candidate base n := by
  induction wanted generalizing taken with
  | nil => cases h
  | cons w wanted ih =>
    rcases List.mem_cons.1 h with heq | h
    · cases heq
      exact ⟨w.1, _, List.mem_cons_self, rfl⟩
    · obtain ⟨base, n, hmem, hname⟩ := ih h
      exact ⟨base, n, List.mem_cons_of_mem _ hmem, hname⟩

/-- The name given to a group is its declared name, made of identifier characters, with marks.

**Proof sketch.** The name is a candidate for one that was proposed
(`exists_mem_of_mem_assignNames`), and that one is marked (`marked_of_mem_proposals`). The group is
among those of its declared name, so its first struct is called that. -/
theorem marked_of_mem_givenNames (hidents : ∀ ident ∈ idents, Mark ident.toList)
    {occs : List Occurrence} (h : (name, g) ∈ givenNames taken idents occs) :
    Marked (Text.sanitize g.first.name) name := by
  obtain ⟨base, n, hwanted, rfl⟩ := exists_mem_of_mem_assignNames h
  obtain ⟨declared, -, hwanted⟩ := List.mem_flatMap.1 hwanted
  obtain ⟨hbase, hg⟩ := marked_of_mem_proposals hidents hwanted
  obtain ⟨signature, hfind⟩ := StructGroup.mem_ofName_iff.1 hg
  rw [(StructGroup.first_of_find? hfind).2.1]
  exact marked_candidate hbase n

end

/-! ## Words that cannot be used -/

/-- The words that the printed source uses with a meaning of their own where a type or a crate can
stand. -/
def typeWords : List String :=
  ["f32", "f64", "i32", "u32", "i64", "u64", "bool", "Result", "Default", "std",
   "autoshader_runtime"]

/-- The name can be that of a struct: it is an identifier as it stands, and means nothing else. What
a name must not mean is a type that the printed source uses by its bare name. -/
def IsUsable (name : String) : Prop := Text.identifier name = name ∧ name ∉ typeWords

/-- Whether a name can be used is a matter of comparing texts. -/
instance (name : String) : Decidable (IsUsable name) :=
  inferInstanceAs (Decidable (_ ∧ _))

/-- The words made of identifier characters that no struct may be called. They are the exceptions
that are left once a name has the characters of an identifier. -/
def unusableNames : List String := Text.fixedWords ++ Text.keywords ++ typeWords

/-- A name can be used if it is made of identifier characters and is none of the words that mean
something else. -/
theorem isUsable_iff {name : String} :
    IsUsable name ↔ Text.sanitize name = name ∧ name ∉ unusableNames := by
  rw [IsUsable, Text.identifier_eq_self_iff, unusableNames, List.mem_append, List.mem_append]
  tauto

/-- Marks are made of identifier characters.

**Proof sketch.** Digits are identifier characters, and so are the letters of the short names of
stages and the underscore. -/
theorem Mark.isIdentChar {cs : List Char} (h : Mark cs) : ∀ c ∈ cs, Text.isIdentChar c = true := by
  have hdigits (n : Nat) : ∀ c ∈ Nat.toDigits 10 n, Text.isIdentChar c = true :=
    fun _ hc => Text.isIdentChar_of_isDigit (Text.isDigit_of_mem_toDigits hc)
  cases h with
  | none => simp
  | number n => exact hdigits n
  | stage stage n =>
    have hword : ∀ c ∈ stage.shortName.toList, Text.isIdentChar c = true := by
      cases stage <;> simp [Stage.shortName, Text.isIdentChar]
    have hrepeat : ∀ c ∈ repeatText ['_'] n, Text.isIdentChar c = true := by
      unfold repeatText
      split
      · simp
      · exact List.forall_mem_append.2 ⟨by simp [Text.isIdentChar], hdigits n⟩
    rw [toList_shortName]
    exact List.forall_mem_append.2 ⟨hword, hrepeat⟩

/-- Marks do not end as the last part of any word does.

**Proof sketch.** The word is neither empty nor a number, since it begins with a letter, and no
short name of a stage begins as it does. -/
theorem not_mark_runtime : ¬Mark "runtime".toList := by
  generalize hcs : "runtime".toList = cs
  rintro (_ | n | ⟨stage, n⟩)
  · cases hcs
  · have hdigit : 'r'.isDigit = true :=
      Text.isDigit_of_mem_toDigits (n := n) (by rw [← hcs]; decide)
    exact absurd hdigit (by decide)
  · rw [toList_shortName] at hcs
    cases stage <;> simp [Stage.shortName] at hcs

/-- Behind a mark there is no word that cannot be used: the only word with an underscore behind
something else ends in what is no mark.

**Proof sketch.** Only two words have an underscore at all. One of them is nothing but the
underscore, too short to have a name in front of it. The other one has a single underscore, so what
is behind it would be the piece, against `not_mark_runtime`. -/
theorem Mark.append_notMem {name piece : String} (hpiece : Mark piece.toList) (hname : name ≠ "") :
    name ++ "_" ++ piece ∉ unusableNames := by
  have hwords : ∀ word ∈ unusableNames, '_' ∈ word.toList →
      word = "_" ∨ word = "autoshader_runtime" := by decide
  have htext : (name ++ "_" ++ piece).toList = name.toList ++ '_' :: piece.toList := by simp
  intro hmem
  rcases hwords _ hmem (by simp [htext]) with hword | hword
  · have hlength := congrArg (·.toList.length) hword
    simp only [htext, List.length_append, List.length_cons] at hlength
    have hpos : 0 < name.toList.length :=
      List.length_pos_of_ne_nil fun hnil => hname (String.toList_eq_nil_iff.1 hnil)
    change _ = 1 at hlength
    omega
  · have hword : name.toList ++ '_' :: piece.toList =
        "autoshader".toList ++ '_' :: "runtime".toList := by
      rw [← htext, hword]
      decide
    have hcount := congrArg (List.count '_') hword
    have hnone : '_' ∉ name.toList := by
      refine List.count_eq_zero.1 ?_
      rw [List.count_append, List.count_cons_self] at hcount
      change _ = 1 at hcount
      omega
    obtain ⟨-, hruntime⟩ := Text.append_cons_inj hnone (by decide) hword
    exact not_mark_runtime (hruntime ▸ hpiece)

variable {stem name : String}

/-- A name with marks behind it is an identifier if the name is. -/
theorem Marked.isSpelled (h : Marked stem name) (hstem : Text.IsSpelled stem.toList) :
    Text.IsSpelled name.toList := by
  induction h with
  | stem => exact hstem
  | mark _ hpiece ih =>
    rw [String.toList_append, String.toList_append]
    exact (ih.append (by simp [Text.isIdentChar])).append hpiece.isIdentChar

/-- A name with marks behind it can be used, and one without if it is none of the words.

**Proof sketch.** The last mark decides (`Mark.append_notMem`). What is in front of it is not empty,
since it is spelled as an identifier (`Marked.isSpelled`). -/
theorem Marked.notMem_unusableNames (h : Marked stem name) (hstem : Text.IsSpelled stem.toList) :
    name = stem ∨ name ∉ unusableNames := by
  cases h with
  | stem => exact .inl rfl
  | mark h hpiece =>
    refine .inr (hpiece.append_notMem ?_)
    rintro rfl
    exact (h.isSpelled hstem).ne_nil rfl

/-! ## Programs -/

section

variable {options : Options} {modules : List ShaderModule} {program : Program}

/-- The declarations of a program have the declared names of their structs, with marks.

**Proof sketch.** A declaration of the program is that of a struct that was put together
(`exists_assembled`), so its name is the final name of that struct. Final names are those given to
groups (`finalName_eq_some_iff_of_isIn`), hence marked (`marked_of_mem_givenNames`): the short names
of the modules are marks. -/
theorem exists_marked_of_build (h : build options modules = .ok program) {d : StructDecl}
    (hd : d ∈ program.structs) : ∃ m ∈ modules, ∃ st, m.IsReachable d.id ∧
      m.struct? d.id = some st ∧ Marked (Text.sanitize st.name) d.name := by
  obtain ⟨all, structs, hall, hstructs, heq⟩ := exists_structs_of_build h
  obtain ⟨_, -, hstaged⟩ := exists_staged hall
  obtain ⟨os, ha⟩ := exists_assembled hstaged.structs hstructs
  rw [← heq] at ha
  obtain ⟨o, ho, hof⟩ := Result.forall₂_mem_right ha.decls hd
  have hfinal := hof.finalName_eq
  obtain ⟨found, hfound, hout⟩ := nameStructs_eq_ok_iff.1 hstaged.structs
  have hf := found_of_mapM hfound
  have hin := ((ha.mem_iff o).1 ho).1
  obtain ⟨g, hg, hmem⟩ := (finalName_eq_some_iff_of_isIn hf hout hin).1 hfinal
  have hidents : ∀ ident ∈ (all.map StageModule.named).map (·.1), Mark ident.toList := by
    rw [List.map_map]
    intro ident hident
    have hshort : ident ∈ shortNames (all.map (·.stage)) := hstaged.idents ▸ hident
    obtain ⟨stage, n, rfl, -⟩ := exists_of_mem_shortNamesAfter hshort
    exact .stage stage n
  have hmarked := marked_of_mem_givenNames hidents hg
  have hall := exists_mem_givenNames_iff.1 ⟨d.name, hg⟩
  obtain ⟨s, st, hs, hreachable, hst, hname, -⟩ := Occurrence.isIn_map_named.1 hin
  obtain ⟨s', st', hs', hst', hdecl⟩ := hof
  cases hs.symm.trans hs'
  cases hst.symm.trans hst'
  obtain ⟨_, _, _, -, -, -, -, -, rfl⟩ := Layout.declaration_eq_ok_iff.1 hdecl
  have hid := ShaderModule.id_of_struct?_eq_some hst
  refine ⟨s.module, ?_, st, hid ▸ hreachable, hid ▸ hst, ?_⟩
  · rw [← hstaged.modules]
    exact List.mem_map_of_mem (List.mem_of_getElem? hs)
  · rwa [← hname, ((StructGroup.mem_members_iff hall).1 hmem).2.1]

/-- **The names of structs as identifiers.** Every struct of a program is declared under a name made
of identifier characters. It can be used unless it is the declared name without any mark, and that
is a word that means something else. So if no struct has such a word for its declared name, all
names can be used.

**Proof sketch.** The name is the declared one with marks (`exists_marked_of_build`), and both are
spelled as identifiers. `Marked.notMem_unusableNames` leaves one case in which the name is a word
that means something else: there are no marks. -/
theorem isUsable_of_build (h : build options modules = .ok program) :
    (∀ d ∈ program.structs, Text.sanitize d.name = d.name ∧ ∃ m ∈ modules, ∃ st,
      m.IsReachable d.id ∧ m.struct? d.id = some st ∧ (IsUsable d.name ↔
        ¬(d.name = Text.sanitize st.name ∧ Text.sanitize st.name ∈ unusableNames))) ∧
    ((∀ m ∈ modules, ∀ id st, m.IsReachable id → m.struct? id = some st →
      Text.sanitize st.name ∉ unusableNames) → ∀ d ∈ program.structs, IsUsable d.name) := by
  have hnames : ∀ d ∈ program.structs, Text.sanitize d.name = d.name ∧ ∃ m ∈ modules, ∃ st,
      m.IsReachable d.id ∧ m.struct? d.id = some st ∧ (IsUsable d.name ↔
        ¬(d.name = Text.sanitize st.name ∧ Text.sanitize st.name ∈ unusableNames)) := by
    intro d hd
    obtain ⟨m, hm, st, hreachable, hst, hmarked⟩ := exists_marked_of_build h hd
    have hstem := Text.isSpelled_sanitize st.name
    have hspelled := Text.sanitize_of_isSpelled (hmarked.isSpelled hstem)
    refine ⟨hspelled, m, hm, st, hreachable, hst, ?_⟩
    rw [isUsable_iff]
    constructor
    · rintro ⟨-, hnot⟩ ⟨heq, hword⟩
      exact hnot (heq ▸ hword)
    · intro hnot
      refine ⟨hspelled, fun hword => ?_⟩
      rcases hmarked.notMem_unusableNames hstem with heq | hfree
      · exact hnot ⟨heq, heq ▸ hword⟩
      · exact hfree hword
  refine ⟨hnames, fun hwords d hd => ?_⟩
  obtain ⟨-, m, hm, st, hreachable, hst, husable⟩ := hnames d hd
  exact husable.2 fun hword => hwords m hm d.id st hreachable hst hword.2

end

/-- Two fragment modules with blocks of the given name that are laid out in different ways. So each
needs a declaration, and the name alone cannot tell them apart. -/
def namedBlocks (name : String) : List ShaderModule :=
  let stage (st : StructType) (set : Nat) : ShaderModule :=
    { entry := some { name := "main", model := "Fragment", stage := some .fragment }
      structs := [st]
      resources := { uniformBuffers := [{ ty := .struct st.id, set }] } }
  [stage (numberStruct 1 name) 0,
   stage { numberStruct 2 name with size := 8 } 1]

/-- A declared name with characters that have to be replaced, and marks behind it.

The period becomes an underscore, and each struct has the short name of its module behind it. -/
theorem isUsable_namedBlocks : ∃ program, build {} (namedBlocks "a.b") = .ok program ∧
    program.structs.map (·.name) = ["a_b_frag", "a_b_frag_1"] ∧
    (∀ m ∈ namedBlocks "a.b", ∀ id st, m.IsReachable id → m.struct? id = some st →
      Text.sanitize st.name ∉ unusableNames) ∧ ∀ d ∈ program.structs, IsUsable d.name := by
  have hbuild : (build {} (namedBlocks "a.b")).map (fun p => p.structs.map (·.name)) =
      .ok ["a_b_frag", "a_b_frag_1"] := by cbv
  obtain ⟨program, hprogram, hnames⟩ := Result.map_eq_ok_iff.1 hbuild
  have hwords : ∀ m ∈ namedBlocks "a.b", ∀ id st, m.IsReachable id → m.struct? id = some st →
      Text.sanitize st.name ∉ unusableNames := by
    intro m hm id st _ hst
    have hmem := ShaderModule.mem_of_struct?_eq_some hst
    have hname : st.name = "a.b" := by
      simp only [namedBlocks, List.mem_cons, List.not_mem_nil, or_false] at hm
      rcases hm with rfl | rfl
      · rw [List.mem_singleton.1 hmem]
        rfl
      · rw [List.mem_singleton.1 hmem]
        rfl
    rw [hname]
    decide
  exact ⟨program, hprogram, hnames, hwords, (isUsable_of_build hprogram).2 hwords⟩

/-- Structs that are called like a keyword and like a number type keep these names.

Their declared names are words that mean something else, and the program is built all the same. -/
theorem exists_unusable_name : ∃ program,
    build {} [numberStage 1 "type", numberStage 2 "f32"] = .ok program ∧
      program.structs.map (·.name) = ["type", "f32"] ∧
        ∀ d ∈ program.structs, ¬IsUsable d.name := by
  have hbuild : (build {} [numberStage 1 "type", numberStage 2 "f32"]).map
      (fun p => p.structs.map (·.name)) = .ok ["type", "f32"] := by cbv
  obtain ⟨program, hprogram, hnames⟩ := Result.map_eq_ok_iff.1 hbuild
  refine ⟨program, hprogram, hnames, fun d hd => ?_⟩
  have hname : d.name ∈ ["type", "f32"] := hnames ▸ List.mem_map_of_mem hd
  simp only [List.mem_cons, List.not_mem_nil, or_false] at hname
  rcases hname with heq | heq
  · rw [heq]
    decide
  · rw [heq]
    decide

end ShaderBindings
