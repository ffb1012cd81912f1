import ShaderBindings.Command.Session
/-!
# The command

Runs a session on the files of the system.
-/

set_option autoImplicit false

namespace ShaderBindings.Command

/-- Why the system refuses a file. -/
def faultOf : IO.Error → FileFault
  | .noFileOrDirectory .. => .notFound
  | .inappropriateType _ code _ => if code = 21 then .isDirectory else .notDirectory
  | e => .other e.toString

/-- The files of the system. A file is read and written as a whole, and what the system throws
becomes a fault of the file. -/
def systemFiles : Files IO where
  read path := do
    try
      return .ok (← IO.FS.readBinFile path).toList
    catch e => return .error (faultOf e)
  write path text := do
    try
      IO.FS.writeFile path text
      return .ok ()
    catch e => return .error (faultOf e)
  input := do return (← (← IO.getStdin).readBinToEnd).toList

end ShaderBindings.Command

open ShaderBindings.Command in
/-- Runs the command. What is printed goes to the standard output, a complaint to the standard
error. -/
def main (args : List String) : IO UInt32 := do
  let ending ← run systemFiles args
  IO.print ending.output
  IO.eprint ending.complaint
  return ending.exitCode.toUInt32
