import ShaderBindings.Command.Arguments
import ShaderBindings.Source.Print
import ShaderBindings.Spirv.Module
/-!
# A session

What the command does: reads the modules, generates their bindings, writes the source. The files are
behind an interface, so that a session can be run on any store of files.

## Main definitions

* `ShaderBindings.Command.FileFault`, `Files` - a store of files, and what can go wrong with one.
* `ShaderBindings.Command.Failure` - why a session fails.
* `ShaderBindings.Command.run` - a session, up to what is printed.
-/

set_option autoImplicit false

namespace ShaderBindings.Command

/-- Why a file cannot be read or written. Four reasons are told apart, those that a store in memory
can have as well; for all others the description of the system is kept. -/
inductive FileFault where
  | notFound
  | notDirectory
  | isDirectory
  | nameTooLong
  | other (description : String)
deriving DecidableEq, Repr

/-- Describes the fault, in the words and with the number of the operating system. -/
def FileFault.message : FileFault → String
  | notFound => "No such file or directory (os error 2)"
  | notDirectory => "Not a directory (os error 20)"
  | isDirectory => "Is a directory (os error 21)"
  | nameTooLong => "File name too long (os error 36)"
  | other description => description

/-- A store of files. What it does to its surroundings is left to the monad, so the same session
runs on the files of the system and on a folder in memory. -/
structure Files (m : Type → Type) where
  read : String → m (Except FileFault (List UInt8))
  write : String → String → m (Except FileFault Unit)
  /-- All of the standard input. -/
  input : m (List UInt8)

/-- Why a session fails. There is one case for each thing a session does: it reads files, it parses
what it has read, it generates the source, and it writes that. -/
inductive Failure where
  | read (path : String) (fault : FileFault)
  | parse (source : String) (cause : Spirv.ParseError)
  | generate (cause : Error)
  | write (path : String) (fault : FileFault)
deriving DecidableEq, Repr

/-- Describes the failure. A failure of generation stands for itself; the others name the file, or
the standard input, that they are about. -/
def Failure.message : Failure → String
  | read path fault => s!"failed to read {path}: {fault.message}"
  | parse source cause => s!"failed to parse {source}: {cause.message}"
  | generate cause => cause.message
  | write path fault => s!"failed to write {path}: {fault.message}"

section Session

variable {m : Type → Type} [Monad m]

/-- Reads a module. If the file cannot be read, its path is reported; if it can be read and not
parsed, the path stands for the source of the bytes. -/
def readModule (files : Files m) (path : String) : ExceptT Failure m ShaderModule := do
  let bytes ← ExceptT.mk ((·.mapError (.read path)) <$> files.read path)
  let parsed ← ExceptT.mk (pure ((Spirv.parseBytes bytes).mapError (.parse path)))
  return parsed.reflected

/-- Reads a module from the standard input. -/
def readInput (files : Files m) : ExceptT Failure m ShaderModule := do
  let bytes ← files.input
  let parsed ← ExceptT.mk (pure ((Spirv.parseBytes bytes).mapError (.parse "stdin")))
  return parsed.reflected

/-- Generates bindings as the settings say. Returns what is printed.

Files are read one by one, and the first one that fails ends the session: the ones behind it are not
read. Nothing is written unless all bindings are generated. -/
def generateSource (files : Files m) (s : Settings) : ExceptT Failure m String := do
  let modules ←
    if s.inputs.isEmpty then List.singleton <$> readInput files
    else s.inputs.mapM (readModule files)
  let source ← ExceptT.mk (pure ((generate s.options modules).mapError .generate))
  match s.output with
  | none => return source
  | some path =>
    ExceptT.mk ((·.mapError (.write path)) <$> files.write path source)
    return ""

end Session

/-- How a session ends. An ending says what is printed and with which number the command exits, see
`Ending.output`, `Ending.complaint` and `Ending.exitCode`. -/
inductive Ending where
  /-- What was asked for is done; the text is printed. -/
  | done (text : String)
  | failed (cause : Failure)
  | refused (fault : UsageFault)
deriving DecidableEq, Repr

namespace Ending

/-- The exit code. A failure of what was asked for is told from arguments that were refused. -/
def exitCode : Ending → Nat
  | done _ => 0
  | failed _ => 10
  | refused _ => 1

/-- What is written to the standard output. -/
def output : Ending → String
  | done text => text
  | _ => ""

/-- What is written to the standard error. -/
def complaint : Ending → String
  | done _ => ""
  | failed cause => s!"autoshader failed: {cause.message}\n"
  | refused fault => s!"error: {fault.message}\n"

end Ending

/-- The name and the version of the command. -/
def versionText : String := "autoshader 0.1.0\n"

/-- How to use the command. -/
def helpText : String := Text.unlines
  ["autoshader 0.1.0",
   "Generates Rust bindings for Vulkan from SPIR-V modules",
   "",
   "USAGE:",
   "    autoshader [FLAGS] [OPTIONS] [MODULE]...",
   "",
   "FLAGS:",
   "    -h, --help         Prints help information",
   "        --no-source    Passes module code to Components::new instead of embedding it",
   "        --no-vertex    Skips the vertex struct and input descriptions",
   "    -V, --version      Prints version information",
   "",
   "OPTIONS:",
   "        --module <NAME>...    Wraps the output in `pub mod NAME`; repeat to nest",
   "    -o, --output <FILE>       Writes the bindings to FILE instead of stdout",
   "    -v, --vertex <NAME>       Name of the generated vertex struct [default: Vertex]",
   "",
   "ARGS:",
   "    <MODULE>...    SPIR-V modules to read; reads one module from stdin if omitted"]

/-- Does what the arguments ask for. Files are read and written only if bindings are asked for. -/
def run {m : Type → Type} [Monad m] (files : Files m) (args : List String) : m Ending :=
  match parseArguments args with
  | .help => pure (.done helpText)
  | .version => pure (.done versionText)
  | .refuse fault => pure (.refused fault)
  | .generate s => do
    match ← (generateSource files s).run with
    | .ok text => return .done text
    | .error cause => return .failed cause

end ShaderBindings.Command
