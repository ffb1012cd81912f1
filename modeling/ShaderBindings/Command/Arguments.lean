import ShaderBindings.Program.Names
/-!
# Command line arguments

An argument is an option, the value of the option before it, or an input. Two dashes alone end the
options.

## Main definitions

* `ShaderBindings.Command.Settings` - what is asked for.
* `ShaderBindings.Command.UsageFault` - why arguments are refused.
* `ShaderBindings.Command.Request` - what the arguments ask to do.
* `ShaderBindings.Command.parseArguments` - reads the arguments.
-/

set_option autoImplicit false

namespace ShaderBindings.Command

/-- The options that take a value. -/
inductive ValueOption where
  | output
  | vertex
  | module
deriving DecidableEq, Repr

namespace ValueOption

/-- The options that take a value. -/
def all : List ValueOption := [output, vertex, module]

/-- The name of the option after two dashes. -/
def long : ValueOption → String
  | output => "output"
  | vertex => "vertex"
  | module => "module"

/-- The name of the option after one dash. -/
def short? : ValueOption → Option Char
  | output => some 'o'
  | vertex => some 'v'
  | module => none

/-- Whether the option can be given again. -/
def isRepeatable : ValueOption → Bool
  | module => true
  | _ => false

/-- The value that stands in for one that is left out. -/
def fallback? : ValueOption → Option String
  | vertex => some "Vertex"
  | _ => none

end ValueOption

/-- The options without a value. -/
inductive Flag where
  | noVertex
  | noSource
deriving DecidableEq, Repr

namespace Flag

/-- The options without a value. -/
def all : List Flag := [noVertex, noSource]

/-- The name of the option after two dashes. -/
def long : Flag → String
  | noVertex => "no-vertex"
  | noSource => "no-source"

end Flag

/-- Why arguments are refused. The options with a value have one of their own for a missing value; a
flag has none, since what stands behind its equals sign is not looked at. -/
inductive UsageFault where
  | unknownOption (name : String)
  | missingValue (option : ValueOption)
  | repeatedOption (option : ValueOption)
  | repeatedFlag (flag : Flag)
deriving DecidableEq, Repr

/-- Describes the fault. -/
def UsageFault.message : UsageFault → String
  | unknownOption name => s!"unknown option: {name}"
  | missingValue option => s!"option without a value: --{option.long}"
  | repeatedOption option => s!"option given more than once: --{option.long}"
  | repeatedFlag flag => s!"option given more than once: --{flag.long}"

/-! ## Going through the arguments -/

/-- What the arguments so far hold. Options and values are kept apart, so that an option whose value
never comes can be told from one that was not given at all. -/
structure Collected where
  inputs : List String := []
  /-- The options with a value, each as often as it is given. -/
  options : List ValueOption := []
  /-- The values that are given. -/
  values : List (ValueOption × String) := []
  flags : List Flag := []
deriving DecidableEq, Repr

/-- What ends the reading of the arguments at once. -/
inductive Stop where
  | help
  | version
  | fault (f : UsageFault)
deriving DecidableEq, Repr

/-- The characters without the dashes in front. -/
def dropDashes (cs : List Char) : List Char := cs.dropWhile (· == '-')

/-- The value that follows an equals sign; further equals signs in front of it are dropped. -/
def valueText (cs : List Char) : String := String.ofList (cs.dropWhile (· == '='))

/-- An argument that begins with a dash. Only an option can leave something open: its value may be
the argument behind it. -/
inductive Dashed where
  /-- An option, with its value if that is part of the argument. -/
  | option (o : ValueOption) (value : Option String)
  | flag (f : Flag)
  | stop (s : Stop)
deriving DecidableEq, Repr

/-- The option of a name with its value, if there is one in the argument. What is not to have a
value ignores it. -/
def longOption (name : String) (value : Option String) : Dashed :=
  match ValueOption.all.find? (·.long == name) with
  | some o => .option o value
  | none =>
    match Flag.all.find? (·.long == name) with
    | some f => .flag f
    | none =>
      if name = "help" then .stop .help
      else if name = "version" then .stop .version
      else .stop (.fault (.unknownOption s!"--{name}"))

/-- Reads an argument that begins with two dashes. The name ends at the first equals sign, and what
is behind it is the value; a flag takes no notice of such a value. -/
def longArgument (cs : List Char) : Dashed :=
  let cs := dropDashes cs
  let name := String.ofList (cs.takeWhile (· != '='))
  match cs.dropWhile (· != '=') with
  | [] => longOption name none
  | rest => longOption name (some (valueText rest))

/-- Reads an argument that begins with one dash. Only its first letter counts: for an option the
rest is the value, for a flag or an unknown letter the rest is not looked at. -/
def shortArgument (cs : List Char) : Dashed :=
  match dropDashes cs with
  | [] => .stop (.fault (.unknownOption "-"))
  | c :: rest =>
    match ValueOption.all.find? (·.short? == some c) with
    | some o => .option o (if rest.isEmpty then none else some (valueText rest))
    | none =>
      if c = 'h' then .stop .help
      else if c = 'V' then .stop .version
      else .stop (.fault (.unknownOption (String.ofList ['-', c])))

/-- Reads an argument that begins with a dash; a dash alone counts as a value. -/
def dashed? (arg : String) : Option Dashed :=
  match arg.toList with
  | '-' :: '-' :: cs => some (longArgument cs)
  | '-' :: c :: cs => some (shortArgument (c :: cs))
  | _ => none

/-- Goes through the arguments, `waiting` being the option whose value comes next.

What begins with a dash is never a value, so an option that waits for one in front of it is left
without. Behind two dashes everything is an input, also what begins with a dash. -/
def collect (c : Collected) (waiting : Option ValueOption) :
    List String → Except Stop Collected
  | [] => .ok c
  | arg :: rest =>
    if arg = "--" then .ok { c with inputs := c.inputs ++ rest }
    else
      match dashed? arg with
      | some (.stop s) => .error s
      | some (.flag f) => collect { c with flags := c.flags ++ [f] } none rest
      | some (.option o none) => collect { c with options := c.options ++ [o] } (some o) rest
      | some (.option o (some value)) =>
        collect { c with options := c.options ++ [o], values := c.values ++ [(o, value)] } none rest
      | none =>
        match waiting with
        | some o => collect { c with values := c.values ++ [(o, arg)] } none rest
        | none => collect { c with inputs := c.inputs ++ [arg] } none rest

/-! ## What is asked for -/

namespace Collected

/-- The values of an option; its fallback, if it has one and no value is given. So an option with a
fallback never lacks a value, even if it is given without one. -/
def valuesOf (c : Collected) (o : ValueOption) : List String :=
  match (c.values.filter (·.1 == o)).map (·.2) with
  | [] => o.fallback?.toList
  | values => values

/-- What is wrong with an option: it is given again, or it lacks a value. -/
def optionFault? (c : Collected) (o : ValueOption) : Option UsageFault :=
  if !o.isRepeatable && 1 < c.options.count o then some (.repeatedOption o)
  else if o ∈ c.options ∧ c.valuesOf o = [] then some (.missingValue o)
  else none

/-- What is wrong with a flag: it is given again. -/
def flagFault? (c : Collected) (f : Flag) : Option UsageFault :=
  if 1 < c.flags.count f then some (.repeatedFlag f) else none

/-- What is wrong with the arguments. Options with a value are looked at before flags, and each of
them in the order of its table, not in that of the arguments. -/
def fault? (c : Collected) : Option UsageFault :=
  (ValueOption.all.findSome? c.optionFault?).or (Flag.all.findSome? c.flagFault?)

end Collected

/-- What is asked for. -/
structure Settings where
  /-- The modules to read; without any, one module is read from the standard input. -/
  inputs : List String
  /-- The file to write to; without it, the source is written to the standard output. -/
  output : Option String
  options : Options
deriving DecidableEq, Repr

/-- The settings that the arguments make up. Where an option is not given, the value is that which
the help text names; where one is given several times although it must not be, `Collected.fault?`
has been asked before. -/
def Collected.settings (c : Collected) : Settings where
  inputs := c.inputs
  output := (c.valuesOf .output).head?
  options :=
    { vertexName := (c.valuesOf .vertex).headD "Vertex"
      vertex := .noVertex ∉ c.flags
      source := .noSource ∉ c.flags
      modules := c.valuesOf .module }

/-- What the arguments ask to do. -/
inductive Request where
  | help
  | version
  | generate (s : Settings)
  | refuse (f : UsageFault)
deriving DecidableEq, Repr

/-- Reads the arguments. Help and version are printed as soon as they are met, whatever comes behind
them; a fault of single arguments comes before a fault of all arguments together. -/
def parseArguments (args : List String) : Request :=
  match collect {} none args with
  | .error .help => .help
  | .error .version => .version
  | .error (.fault f) => .refuse f
  | .ok c =>
    match c.fault? with
    | some f => .refuse f
    | none => .generate c.settings

end ShaderBindings.Command
