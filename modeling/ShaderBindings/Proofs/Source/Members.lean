import ShaderBindings.Proofs.Text.Spelling
import ShaderBindings.Source.Memory
/-!
# The members of printed types

The functions and the fields of a printed type stand one step to the right of the line that opens
it, and what they are made of stands further to the right. So their names can be read off the lines,
whatever text from a shader these hold besides.

## Main definitions

* `ShaderBindings.nameBehind?` - the name behind the words that open a line.
* `ShaderBindings.methodNames`, `fieldNames` - the functions and the fields that lines declare.

## Main results

* `ShaderBindings.methodNames_braced` - the functions of a type are those between its braces.
* `ShaderBindings.methodNames_indent_braced` - a function declares none but itself.
* `StructDecl.fieldNames_lines` - the fields of a printed struct.
-/

set_option autoImplicit false

namespace ShaderBindings

open Text

/-! ## Reading a line -/

/-- The name behind the words that open a line, up to the character that ends it. If this character
is missing the name reaches to the end of the line. -/
def nameBehind? (opening : String) (stop : Char) (line : String) : Option String :=
  if opening.toList.isPrefixOf line.toList then
    some (String.ofList ((line.toList.drop opening.toList.length).takeWhile (· != stop)))
  else none

/-- A name that does not hold the character that ends it is read.

**Proof sketch.** Behind the opening words stands the name, and taking characters stops at the one
that ends it, as the name itself does not hold it. -/
theorem nameBehind?_eq_some {opening name line : String} {stop : Char} {rest : List Char}
    (hline : line.toList = opening.toList ++ (name.toList ++ stop :: rest))
    (hname : stop ∉ name.toList) : nameBehind? opening stop line = some name := by
  have hkept : ∀ c ∈ name.toList, (c != stop) = true := by
    intro c hc
    simpa using fun heq : c = stop => hname (heq ▸ hc)
  have hread : (name.toList ++ stop :: rest).takeWhile (· != stop) = name.toList := by
    rw [List.takeWhile_append_of_pos hkept, List.takeWhile_cons_of_neg (by simp),
      List.append_nil]
  rw [nameBehind?, hline, if_pos (List.isPrefixOf_iff_prefix.2 (List.prefix_append _ _)),
    List.drop_left, hread, String.ofList_toList]

/-- Behind words that a line does not open with there is no name. -/
theorem nameBehind?_eq_none {opening line : String} (stop : Char)
    (h : opening.toList.isPrefixOf line.toList = false) : nameBehind? opening stop line = none := by
  rw [nameBehind?, if_neg (by simp [h])]

/-! ## Functions -/

/-- The function that a line of a type declares. Functions of a type stand one step to the right,
which tells them from those outside. -/
def methodName? (line : String) : Option String :=
  nameBehind? "    pub fn " '(' line <|> nameBehind? "    pub unsafe fn " '(' line

/-- The functions that lines of types declare, in order. -/
def methodNames (lines : List String) : List String := lines.filterMap methodName?

/-- The functions of lines one after the other. -/
theorem methodNames_append (lines lines' : List String) :
    methodNames (lines ++ lines') = methodNames lines ++ methodNames lines' :=
  List.filterMap_append

/-- A line declares no function if it does not stand one step to the right, or stands further, or
does not begin with the word for what can be seen from outside.

**Proof sketch.** Both kinds of lines that declare functions begin with the indented word, so
`nameBehind?_eq_none` applies to either. -/
theorem methodName?_eq_none {line : String}
    (h : "    pub ".toList.isPrefixOf line.toList = false) : methodName? line = none := by
  have hopening (opening : String) (hpub : "    pub ".toList <+: opening.toList) :
      opening.toList.isPrefixOf line.toList = false := by
    rw [Bool.eq_false_iff, Ne, List.isPrefixOf_iff_prefix] at h ⊢
    exact fun hline => h (hpub.trans hline)
  rw [methodName?, nameBehind?_eq_none _ (hopening "    pub fn " (by decide)),
    nameBehind?_eq_none _ (hopening "    pub unsafe fn " (by decide))]
  rfl

/-- What is moved to the right twice declares no function.

**Proof sketch.** It is empty, or there are more blanks where the word should be. -/
theorem methodName?_indent_indent (line : String) :
    methodName? (indentLine (indentLine line)) = none := by
  refine methodName?_eq_none ?_
  unfold indentLine
  split
  · next hempty => simp [String.isEmpty_iff.1 hempty]
  · split
    · next hempty => simp [String.isEmpty_iff.1 hempty]
    · simp [tab, List.isPrefixOf]

/-- The functions of a type are those between its braces.

**Proof sketch.** The first line does not begin with a blank and the last one is a brace, so neither
of them declares a function (`methodName?_eq_none`). -/
theorem methodNames_braced {header : String} (body : List String) (tail : String)
    (hheader : header.toList.head? ≠ some ' ') :
    methodNames (braced header body tail) = methodNames (indent body) := by
  have hfirst : methodName? (header ++ " \x7b") = none := by
    refine methodName?_eq_none ?_
    rw [String.toList_append]
    cases hchars : header.toList with
    | nil => simp [List.isPrefixOf]
    | cons c cs =>
      have hc : ' ' ≠ c := fun heq => hheader (by rw [hchars, heq]; rfl)
      simp [List.isPrefixOf, hc]
  have hlast : methodName? ("\x7d" ++ tail) = none :=
    methodName?_eq_none (by simp [List.isPrefixOf])
  simp only [braced, bracketed, methodNames_append]
  simp [methodNames, hfirst, hlast]

/-- A function with its body between braces declares no function but itself.

**Proof sketch.** The body is moved to the right twice (`methodName?_indent_indent`), and the last
line is a brace. -/
theorem methodNames_indent_braced (header : String) (body : List String) (tail : String) :
    methodNames (indent (braced header body tail)) =
      (methodName? (tab ++ (header ++ " \x7b"))).toList := by
  have hbody : methodNames (indent (indent body)) = [] := by
    refine List.filterMap_eq_nil_iff.2 fun line hline => ?_
    simp only [indent, List.map_map, List.mem_map, Function.comp_apply] at hline
    obtain ⟨inner, -, rfl⟩ := hline
    exact methodName?_indent_indent inner
  have hfirst : indentLine (header ++ " \x7b") = tab ++ (header ++ " \x7b") :=
    if_neg (by simp)
  have hlast : methodName? (indentLine ("\x7d" ++ tail)) = none := by
    rw [indentLine, if_neg (by simp)]
    exact methodName?_eq_none (by simp [tab, List.isPrefixOf])
  have hsplit : indent (braced header body tail) =
      [indentLine (header ++ " \x7b")] ++ indent (indent body) ++
        [indentLine ("\x7d" ++ tail)] := by
    simp [braced, bracketed, indent]
  rw [hsplit, methodNames_append, methodNames_append, hbody, List.append_nil, hfirst]
  simp only [methodNames, List.filterMap_cons, List.filterMap_nil, hlast, List.append_nil]
  cases methodName? (tab ++ (header ++ " \x7b")) <;> rfl

/-- The functions of lines one after the other, all of them moved to the right. -/
theorem methodNames_indent_append (lines lines' : List String) :
    methodNames (indent (lines ++ lines')) =
      methodNames (indent lines) ++ methodNames (indent lines') := by
  rw [indent, List.map_append, methodNames_append]
  rfl

/-- A blank line declares no function. -/
theorem methodNames_indent_blank (lines : List String) :
    methodNames (indent ("" :: lines)) = methodNames (indent lines) := by
  have hblank : methodNames (indent [""]) = [] := by decide
  rw [← List.singleton_append, methodNames_indent_append, hblank, List.nil_append]

/-- The functions in parts that declare one each. -/
theorem methodNames_indent_flatMap {α : Type} {l : List α} {f : α → List String} {name : α → String}
    (h : ∀ a ∈ l, methodNames (indent (f a)) = [name a]) :
    methodNames (indent (l.flatMap f)) = l.map name := by
  have hparts : methodNames (indent (l.flatMap f)) =
      l.flatMap fun a => methodNames (indent (f a)) := by
    simp only [methodNames, indent, List.map_flatMap, List.filterMap_flatMap]
  rw [hparts, List.flatMap_def, List.map_congr_left h, ← List.flatMap_def, ← List.map_eq_flatMap]

/-- A function declares itself, under the name in front of its parameters.

**Proof sketch.** Only the first line counts (`methodNames_indent_braced`), and from it the name is
read up to the parenthesis (`nameBehind?_eq_some`). -/
theorem methodNames_indent_function {name : String} (params : String) (body : List String)
    (tail : String) (hname : '(' ∉ name.toList) :
    methodNames (indent (braced ("pub fn " ++ name ++ "(" ++ params) body tail)) = [name] := by
  have hline : (tab ++ ("pub fn " ++ name ++ "(" ++ params ++ " \x7b")).toList =
      "    pub fn ".toList ++ (name.toList ++ '(' :: (params ++ " \x7b").toList) := by
    simp [tab]
  rw [methodNames_indent_braced, methodName?, nameBehind?_eq_some hline hname]
  rfl

/-! ## Fields -/

/-- The fields that lines of structs declare, in order. -/
def fieldNames (lines : List String) : List String := lines.filterMap (nameBehind? "    pub " ':')

/-- Identifiers hold no colon.

**Proof sketch.** No identifier character is a colon, and what is put around a keyword has none. -/
theorem colon_notMem_identifier (name : String) : ':' ∉ (identifier name).toList := by
  have hname : ':' ∉ (sanitize name).toList := fun hmem =>
    absurd ((isSpelled_sanitize name).chars _ hmem) (by decide)
  simp only [identifier]
  split
  · simpa using hname
  · split
    · simpa using hname
    · exact hname

/-- The fields of a printed struct, as they are spelled.

**Proof sketch.** Line by line. A field stands one step to the right with its name in front of a
colon (`colon_notMem_identifier`), and no other line of a struct begins in this way. -/
theorem StructDecl.fieldNames_lines (d : StructDecl) :
    fieldNames d.lines = d.fields.map fun f => identifier f.name := by
  have hplain (line : String) (h : line.toList.head? ≠ some ' ') :
      nameBehind? "    pub " ':' line = none := by
    refine nameBehind?_eq_none _ ?_
    cases hchars : line.toList with
    | nil => rfl
    | cons c cs =>
      have hc : ' ' ≠ c := fun heq => h (by rw [hchars, heq]; rfl)
      simp [List.isPrefixOf, hc]
  have hfield (f : Field) : nameBehind? "    pub " ':' (indentLine s!"pub {f.text},") =
      some (identifier f.name) := by
    have hline : (indentLine s!"pub {f.text},").toList = "    pub ".toList ++
        ((identifier f.name).toList ++ ':' :: (" " ++ f.type.text ++ ",").toList) := by
      change (indentLine ("pub " ++ (identifier f.name ++ ": " ++ f.type.text) ++ ",")).toList = _
      rw [indentLine, if_neg (by simp)]
      simp [tab]
    exact nameBehind?_eq_some hline (colon_notMem_identifier f.name)
  have hheader : nameBehind? "    pub " ':' (s!"pub struct {d.name}" ++ " \x7b") = none := by
    refine hplain _ ?_
    change ("pub struct " ++ d.name ++ " \x7b").toList.head? ≠ some ' '
    simp
  have hcheck : nameBehind? "    pub " ':'
      s!"const _: () = assert!(std::mem::size_of::<{d.name}>() == {d.size});" = none := by
    refine hplain _ ?_
    change ("const _: () = assert!(std::mem::size_of::<" ++ d.name ++ ">() == " ++
      toString d.size ++ ");").toList.head? ≠ some ' '
    simp
  have hattributes : memoryAttributes.filterMap (nameBehind? "    pub " ':') = [] := by decide
  have hclose : nameBehind? "    pub " ':' ("\x7d" ++ "") = none := by decide
  have hblank : nameBehind? "    pub " ':' "" = none := by decide
  simp only [StructDecl.lines, fieldNames, braced, bracketed, indent, List.filterMap_append,
    hattributes, List.filterMap_map, List.map_map, List.filterMap_cons, List.filterMap_nil, hheader,
    hcheck, hclose, hblank, funext hfield, Function.comp_def]
  simp

end ShaderBindings
