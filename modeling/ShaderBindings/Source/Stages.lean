import ShaderBindings.Source.Names
/-!
# Printed stages

For each stage the type that collects its specialization constants, and its embedded words.

## Main definitions

* `ProgramStage.specializerLines` - the type that collects specialization constants.
* `ProgramStage.codeLines` - the embedded words.
-/

set_option autoImplicit false

namespace ShaderBindings

open Text

/-! ## Specialization constants -/

/-- The function that sets a constant. -/
def setterLines (name : String) (spec : SpecEntry) : List String :=
  braced s!"pub fn {name}(&mut self, value: {spec.kind.typeName}) -> {writeResult}"
    [s!"self.inner.{spec.kind.setter}({spec.constantId}, value)?;",
     "Ok(self)"] ""

/-- The type that collects the specialization constants of a stage. There is one function for each
constant, by the name that `setterNames` finds for it. -/
def ProgramStage.specializerLines (s : ProgramStage) : List String :=
  let name := specializerName s.ident
  let flags := stageFlags {s.stage}
  ["#[derive(Debug)]"] ++
    braced s!"pub struct {name}" [s!"inner: {runtimeCrate}::Specializer,"] "" ++
    ["", "#[allow(non_snake_case)]"] ++
    braced s!"impl {name}"
      (braced "pub fn new() -> Self"
          [s!"let inner = {runtimeCrate}::Specializer::new({flags}, {s.specializations.length});",
           "Self \x7b inner \x7d"] "" ++
        ((setterNames s.specializations).flatMap fun (setter, spec) =>
          "" :: setterLines setter spec) ++
        [""] ++
        braced "pub fn stage(&self) -> vk::ShaderStageFlags" ["self.inner.stage()"] "" ++
        ["", "/// The returned info points into `self`."] ++
        braced "pub fn info(&self) -> vk::SpecializationInfo" ["self.inner.info()"] "") "" ++
    [""] ++
    braced s!"impl Default for {name}" (braced "fn default() -> Self" ["Self::new()"] "") ""

/-! ## Embedded words -/

/-- A list cut into pieces of `n + 1` values; the last piece may be shorter. -/
def chunks {α : Type} (n : Nat) (l : List α) : List (List α) :=
  match l with
  | [] => []
  | a :: rest => (a :: rest.take n) :: chunks n (rest.drop n)
termination_by l.length
decreasing_by
  simp only [List.length_drop, List.length_cons]
  omega

/-- The pieces of a list give the list. -/
theorem flatten_chunks {α : Type} (n : Nat) (l : List α) : (chunks n l).flatten = l := by
  fun_induction chunks n l with
  | case1 => rfl
  | case2 a rest ih => simp [ih]

/-- A word in eight hexadecimal digits. -/
def wordText (w : UInt32) : String :=
  String.ofList ('0' :: 'x' :: zeroPad 8 (hexDigits w.toNat))

/-- The embedded words of a stage, eight to a line. The number of words is part of the type of the
constant. -/
def ProgramStage.codeLines (s : ProgramStage) : List String :=
  bracketed s!"pub static {codeName s.ident}: [u32; {s.code.length}] = ["
    ((chunks 7 s.code).map fun words => commas (words.map wordText) ++ ",") "];"

end ShaderBindings
