import Mathlib.Data.List.Forall2
import ShaderBindings.Proofs.Result
import ShaderBindings.Source.Print
/-!
# The items of printed source

Printed source consists of declarations, each opened by a line that is not indented and begins with
a keyword and the name. All lines inside of a declaration are indented, so the declarations can be
read off the lines: this module shows which there are, and in what order.

## Main definitions

* `ShaderBindings.Item` - a declaration by its kind and its name.
* `Item.Opens` - a line opens a declaration.
* `ShaderBindings.Opened` - the declarations that lines open, in order.
* `Program.items` - the declarations of a program.

## Main results

* `Opened.braced` - what stands between braces opens nothing.
* `Program.opened_sections` - the printed parts of a program open its declarations.
-/

set_option autoImplicit false

namespace ShaderBindings

open Text

/-- A declaration of the source. Items are what a program declares at its outermost level; fields
and functions of types are not among them. -/
inductive Item where
  /-- A struct. -/
  | type (name : String)
  /-- A function that stands outside of types. -/
  | function (name : String)
  /-- A constant that holds words. -/
  | constant (name : String)
deriving DecidableEq, Repr

namespace Item

/-- The name, if the item is a type. -/
def type? : Item → Option String
  | type name => some name
  | _ => none

/-- The name, if the item is a function. -/
def function? : Item → Option String
  | function name => some name
  | _ => none

/-- The name, if the item is a constant. -/
def constant? : Item → Option String
  | constant name => some name
  | _ => none

/-- How the line that opens a declaration begins. -/
def opening : Item → String
  | type name => "pub struct " ++ name ++ " \x7b"
  | function name => "pub fn " ++ name ++ "("
  | constant name => "pub static " ++ name ++ ":"

/-- The line opens the declaration. What comes behind the name is left open, but for the character
that ends the name. -/
def Opens (line : String) (item : Item) : Prop := ∃ rest, line = item.opening ++ rest

end Item

/-- Whether a line that is not indented opens a declaration that can be seen from outside. A line
inside a declaration is indented, but for those that close it. -/
def isOpening (line : String) : Bool := "pub ".toList.isPrefixOf line.toList

/-- The lines open the declarations, in this order. -/
def Opened (lines : List String) (items : List Item) : Prop :=
  List.Forall₂ Item.Opens (lines.filter isOpening) items

namespace Opened

variable {lines lines' : List String} {items items' : List Item}

/-- Where there are no lines, nothing is opened. -/
theorem nil : Opened [] [] := List.Forall₂.nil

/-- Lines one after the other open what each of them opens. -/
theorem append (h : Opened lines items) (h' : Opened lines' items') :
    Opened (lines ++ lines') (items ++ items') := by
  rw [Opened, List.filter_append]
  exact List.rel_append h h'

/-- A line that opens nothing. -/
theorem skip {line : String} (hline : isOpening line = false) (h : Opened lines items) :
    Opened (line :: lines) items := by
  rw [Opened, List.filter_cons_of_neg (by simp [hline])]
  exact h

/-- A line that opens an item. -/
theorem cons {line : String} {item : Item} (hline : item.Opens line) (h : Opened lines items) :
    Opened (line :: lines) (item :: items) := by
  have hopens : isOpening line = true := by
    obtain ⟨rest, rfl⟩ := hline
    cases item <;> simp [isOpening, Item.opening]
  rw [Opened, List.filter_cons_of_pos hopens]
  exact .cons hline h

/-- Lines that open nothing. -/
theorem of_forall (h : ∀ line ∈ lines, isOpening line = false) : Opened lines [] := by
  rw [Opened, List.filter_eq_nil_iff.2 fun line hline => by simp [h line hline]]
  exact .nil

/-- Lines of several parts.

**Proof sketch.** Induction on the parts (`append`). -/
theorem flatMap {α : Type} {f : α → List String} {g : α → List Item} {l : List α}
    (h : ∀ a ∈ l, Opened (f a) (g a)) : Opened (l.flatMap f) (l.flatMap g) := by
  induction l with
  | nil => exact nil
  | cons a l ih =>
    obtain ⟨ha, hl⟩ := List.forall_mem_cons.1 h
    rw [List.flatMap_cons, List.flatMap_cons]
    exact ha.append (ih hl)

/-- Lines of several parts that open one item each. -/
theorem map {α : Type} {f : α → List String} {g : α → Item} {l : List α}
    (h : ∀ a ∈ l, Opened (f a) [g a]) : Opened (l.map f).flatten (l.map g) := by
  have hparts := flatMap h
  rwa [List.flatMap_def, ← List.map_eq_flatMap] at hparts

/-- Of lines with an indented body only the first can open something.

**Proof sketch.** A line of the body is blank or begins with a blank, and opening lines do neither.
The last line opens nothing by hypothesis. -/
theorem bracketed {first last : String} (body : List String) (hfirst : Opened [first] items)
    (hlast : isOpening last = false) : Opened (Text.bracketed first body last) items := by
  have hbody : Opened (indent body) [] := by
    refine of_forall fun line hline => ?_
    obtain ⟨inner, -, rfl⟩ := List.mem_map.1 hline
    unfold indentLine
    split
    · next hempty => simp [isOpening, String.isEmpty_iff.1 hempty]
    · simp [isOpening, tab, List.isPrefixOf]
  have h := (hfirst.append hbody).append (skip hlast nil)
  rwa [List.append_nil, List.append_nil] at h

/-- What stands between braces opens nothing. -/
theorem braced {header : String} (body : List String) (tail : String)
    (hheader : Opened [header ++ " \x7b"] items) : Opened (Text.braced header body tail) items :=
  bracketed body hheader (by simp [isOpening, List.isPrefixOf])

end Opened

/-! ## The parts of a program -/

/-- The line that opens a struct. -/
theorem opened_type (name : String) : Opened [s!"pub struct {name}" ++ " \x7b"] [.type name] :=
  .cons ⟨"", by simp [Item.opening, String.append_assoc]; rfl⟩ .nil

/-- A declared struct is one type. The attributes and the check of its size open nothing. -/
theorem StructDecl.opened_lines (d : StructDecl) : Opened d.lines [.type d.name] := by
  have hattributes : Opened memoryAttributes [] := .of_forall (by decide)
  have hcheck : Opened ["", s!"const _: () = assert!(std::mem::size_of::<{d.name}>() == {d.size});"]
      [] := by
    refine .of_forall (List.forall_mem_cons.2 ⟨by decide, List.forall_mem_singleton.2 ?_⟩)
    change isOpening ("const _: () = assert!(std::mem::size_of::<" ++ d.name ++ ">() == " ++
      toString d.size ++ ");") = false
    simp [isOpening, List.isPrefixOf]
  exact (hattributes.append (.braced _ _ (opened_type d.name))).append hcheck

/-- A blank line opens nothing. -/
theorem opened_blank : Opened [""] [] := .of_forall (by decide)

/-- The items of the vertex struct. -/
def VertexInput.items (v : VertexInput) : List Item :=
  [.type v.name, .function "vertex_binding_descriptions",
   .function "vertex_attribute_descriptions"]

/-- A vertex input is a type and two functions. -/
theorem VertexInput.opened_lines (v : VertexInput) : Opened v.lines v.items := by
  have hattributes : Opened memoryAttributes [] := .of_forall (by decide)
  have hbinding : Opened ["pub fn vertex_binding_descriptions() -> " ++
      "[vk::VertexInputBindingDescription; 1]" ++ " \x7b"]
      [.function "vertex_binding_descriptions"] :=
    .cons ⟨") -> [vk::VertexInputBindingDescription; 1] \x7b", by decide⟩ .nil
  have hattribute : Opened ["pub fn vertex_attribute_descriptions() -> " ++
      s!"[vk::VertexInputAttributeDescription; {v.attributes.length}]" ++ " \x7b"]
      [.function "vertex_attribute_descriptions"] :=
    .cons ⟨") -> " ++ s!"[vk::VertexInputAttributeDescription; {v.attributes.length}]" ++ " \x7b",
      by simp only [← String.append_assoc]; rfl⟩ .nil
  exact ((((hattributes.append (.braced _ _ (opened_type v.name))).append opened_blank).append
    (.braced _ _ hbinding)).append opened_blank).append (.braced _ _ hattribute)

/-- The layout bindings of a set are one function. -/
theorem opened_setLayoutLines (set : Nat) (table : SetTable) :
    Opened (setLayoutLines set table) [.function (setLayoutName set)] := by
  refine .braced _ _ (.cons ⟨?_, ?_⟩ .nil)
  · exact commas ((runtimeCounts table).map fun count => s!"{count}: u32") ++ ") -> " ++
      s!"[vk::DescriptorSetLayoutBinding; {table.size}]" ++ " \x7b"
  · simp only [← String.append_assoc]
    rfl

/-- An attribute opens nothing. -/
theorem opened_derive : Opened ["#[derive(Debug)]"] [] := .of_forall (by decide)

/-- The line that opens the functions of a type. -/
theorem opened_impl (name : String) : Opened ["impl " ++ name ++ " \x7b"] [] := by
  refine .of_forall (List.forall_mem_singleton.2 ?_)
  simp [isOpening, List.isPrefixOf]

/-- The writer of a set is one type: its functions stand inside a block of their own. -/
theorem opened_setWriterLines (set : Nat) (table : SetTable) :
    Opened (setWriterLines set table) [.type (writerName set)] :=
  ((opened_derive.append (.braced _ _ (opened_type _))).append opened_blank).append
    (.braced _ _ (opened_impl (writerName set)))

/-- The push-constant ranges are one function. -/
theorem opened_pushRangeLines {ranges : List PushRange} {lines : List String}
    (h : pushRangeLines ranges = .ok lines) :
    Opened lines [.function "push_constant_ranges"] := by
  obtain ⟨items, -, h⟩ := Result.bind_eq_ok_iff.1 h
  cases h
  refine .braced _ _ (.cons ⟨?_, ?_⟩ .nil)
  · exact ") -> [vk::PushConstantRange; " ++ toString ranges.length ++ "]" ++ " \x7b"
  · simp only [← String.append_assoc]
    rfl

/-- What sets the constants of a stage is one type. Neither its functions nor its default can be
seen as declarations of their own. -/
theorem ProgramStage.opened_specializerLines (s : ProgramStage) :
    Opened s.specializerLines [.type (specializerName s.ident)] := by
  have hallow : Opened ["", "#[allow(non_snake_case)]"] [] := .of_forall (by decide)
  have hdefault : Opened [s!"impl Default for {specializerName s.ident}" ++ " \x7b"] [] := by
    refine .of_forall (List.forall_mem_singleton.2 ?_)
    change isOpening ("impl Default for " ++ specializerName s.ident ++ " \x7b") = false
    simp [isOpening, List.isPrefixOf]
  exact ((((opened_derive.append (.braced _ _ (opened_type _))).append hallow).append
    (.braced _ _ (opened_impl (specializerName s.ident)))).append opened_blank).append
      (.braced _ _ hdefault)

/-- The words of a module are one constant. -/
theorem ProgramStage.opened_codeLines (s : ProgramStage) :
    Opened s.codeLines [.constant (codeName s.ident)] := by
  refine .bracketed _ (.cons ⟨" [u32; " ++ toString s.code.length ++ "] = [", ?_⟩ .nil) (by decide)
  have hcolon : ": [u32; " = ":" ++ " [u32; " := by decide
  change "pub static " ++ codeName s.ident ++ ": [u32; " ++ toString s.code.length ++ "] = [" =
    "pub static " ++ codeName s.ident ++ ":" ++ (" [u32; " ++ toString s.code.length ++ "] = [")
  rw [hcolon]
  simp only [String.append_assoc]

namespace Program

/-- What puts all parts together is one type. -/
theorem opened_componentsLines (p : Program) (options : Options) :
    Opened (p.componentsLines options) [.type "Components"] := by
  have himpl : Opened ["impl Components" ++ " \x7b"] [] := .of_forall (by decide)
  exact ((opened_derive.append (.braced _ _ (opened_type "Components"))).append opened_blank).append
    (.braced _ _ himpl)

/-- The declarations of the program in the order in which they are printed. It is a list of what
`Program.sections` prints, one part after the other. -/
def items (p : Program) (options : Options) : List Item :=
  p.structs.map (.type ·.name) ++
    p.vertex.toList.flatMap (·.items) ++
    (p.sets.keys.flatMap fun set => [.function (setLayoutName set), .type (writerName set)]) ++
    (if p.hasPushConstants then [.function "push_constant_ranges"] else []) ++
    (p.stages.filter (!·.specializations.isEmpty)).map (.type <| specializerName ·.ident) ++
    (if options.source then p.stages.map (.constant <| codeName ·.ident) else []) ++
    [.type "Components"]

/-- The parts of a program with the lines of its push-constant ranges.

**Proof sketch.** Part by part, in the order of the source: what each of them opens is known, and
`append` and `flatMap` put them together. -/
theorem opened_append (p : Program) (options : Options) {push : List (List String)}
    {ranges : List Item} (hpush : Opened push.flatten ranges) :
    Opened (p.structs.map (·.lines) ++
        (p.vertex.map (·.lines)).toList ++
        (p.sets.entries.flatMap fun (set, table) =>
          [setLayoutLines set table, setWriterLines set table]) ++
        push ++
        (p.stages.filter (!·.specializations.isEmpty)).map (·.specializerLines) ++
        (if options.source then p.stages.map (·.codeLines) else []) ++
        [p.componentsLines options]).flatten
      (p.structs.map (Item.type ·.name) ++
        p.vertex.toList.flatMap (·.items) ++
        (p.sets.keys.flatMap fun set =>
          [Item.function (setLayoutName set), .type (writerName set)]) ++
        ranges ++
        (p.stages.filter (!·.specializations.isEmpty)).map (Item.type <| specializerName ·.ident) ++
        (if options.source then p.stages.map (Item.constant <| codeName ·.ident) else []) ++
        [Item.type "Components"]) := by
  have hvertex : Opened (p.vertex.map (·.lines)).toList.flatten
      (p.vertex.toList.flatMap (·.items)) := by
    cases p.vertex with
    | none => exact .nil
    | some v => simpa using v.opened_lines
  have hsets : Opened (p.sets.entries.flatMap fun (set, table) =>
        [setLayoutLines set table, setWriterLines set table]).flatten
      (p.sets.keys.flatMap fun set => [.function (setLayoutName set), .type (writerName set)]) := by
    rw [Table.keys, List.flatMap_map, List.flatMap_def, List.flatten_flatten, List.map_map,
      ← List.flatMap_def]
    refine .flatMap fun e _ => ?_
    simpa using (opened_setLayoutLines e.1 e.2).append (opened_setWriterLines e.1 e.2)
  have hcode : Opened (if options.source then p.stages.map (·.codeLines) else []).flatten
      (if options.source then p.stages.map (.constant <| codeName ·.ident) else []) := by
    split
    · exact .map fun s _ => s.opened_codeLines
    · exact .nil
  simp only [List.flatten_append]
  refine .append (.append (.append (.append (.append (.append ?_ hvertex) hsets) hpush) ?_)
    hcode) ?_
  · exact .map fun d _ => d.opened_lines
  · exact .map fun s _ => s.opened_specializerLines
  · simpa using p.opened_componentsLines options

/-- **What is printed.** The parts of the source of a program open its declarations, and nothing
else that can be seen from outside.

**Proof sketch.** With push constants the lines of the ranges have been made
(`opened_pushRangeLines`), and without them there are none. The rest is `opened_append`. -/
theorem opened_sections {p : Program} {options : Options} {parts : List (List String)}
    (h : p.sections options = .ok parts) : Opened parts.flatten (p.items options) := by
  unfold items
  by_cases hsome : p.hasPushConstants
  · simp only [sections, if_pos hsome, Result.bind_eq_ok_iff] at h
    obtain ⟨push, hpush, h⟩ := h
    obtain ⟨lines, hlines, rfl⟩ := Result.map_eq_ok_iff.1 hpush
    cases h
    rw [if_pos hsome]
    refine opened_append p options ?_
    simpa [List.singleton] using opened_pushRangeLines hlines
  · simp only [sections, if_neg hsome] at h
    cases h
    rw [if_neg hsome]
    exact opened_append p options Opened.nil

end Program

end ShaderBindings
