import ShaderBindings.Command.Session
/-!
# Folders

A folder that is held in memory, as a store of files. Paths are followed part by part, starting in
the folder or, for a path that begins with a slash, at the root. Of what lies outside the folder
nothing is known but the folders above it.

The session is written for any store of files. This one is for running a command line without a file
system: the driver that feeds recorded command lines to the session keeps their files in it. No
result of the library is about it.

## Main definitions

* `ShaderBindings.Command.Place` - where a path leads.
* `ShaderBindings.Command.Folder` - files by path, with `Folder.read` and `Folder.write`.
* `ShaderBindings.Command.inFolder` - a folder as a store of files.
-/

set_option autoImplicit false

namespace ShaderBindings.Command

/-- Where a path leads. Above the folder there are folders of which nothing is known but that they
are there, so a path can go up and come down again only as far as `elsewhere`. -/
inductive Place where
  /-- A place below the folder, by the names on the way. -/
  | inside (names : List String)
  /-- A folder above the folder. -/
  | above
  /-- A place outside the folder and the folders above it. -/
  | elsewhere
deriving DecidableEq, Repr

/-- One step up. -/
def Place.parent : Place → Place
  | .inside [] => .above
  | .inside names => .inside names.dropLast
  | _ => .above

/-- One step down to the given name. -/
def Place.child (name : String) : Place → Place
  | .inside names => .inside (names ++ [name])
  | _ => .elsewhere

/-- The most bytes that a name can have. -/
def longestName : Nat := 255

/-- The most bytes that a path can have. -/
def longestPath : Nat := 4095

/-- What stands at a place. -/
inductive FolderEntry where
  | file (bytes : List UInt8)
  | folder
  | missing
deriving DecidableEq

/-- The files of a folder, by the names on the way to them, each once. -/
structure Folder where
  files : List (List String × List UInt8)
deriving DecidableEq

namespace Folder

/-- The folder of the given files. -/
def ofList (files : List (String × List UInt8)) : Folder :=
  ⟨files.map fun (name, bytes) => (name.splitOn "/", bytes)⟩

/-- What stands at a place. The files are all that is kept: a name that is the beginning of the path
of a file is a folder, and no folder but the outermost can be empty. -/
def entry (f : Folder) : Place → FolderEntry
  | .inside names =>
    match f.files.lookup names with
    | some bytes => .file bytes
    | none =>
      if names.isEmpty || f.files.any fun (file, _) => names.isPrefixOf file then .folder
      else .missing
  | .above => .folder
  | .elsewhere => .missing

/-- Goes into what stands at a place, which has to be a folder. A step goes in before it looks at
the name, so `a/..` needs a folder `a`. -/
def enter (f : Folder) (p : Place) : Except FileFault Unit :=
  match f.entry p with
  | .folder => .ok ()
  | .file _ => .error .notDirectory
  | .missing => .error .notFound

/-- Follows one part of a path. An empty part and a dot lead nowhere, two dots lead up. -/
def step (f : Folder) (p : Place) (part : String) : Except FileFault Place := do
  f.enter p
  if part = "" ∨ part = "." then return p
  else if part = ".." then return p.parent
  else if longestName < part.utf8ByteSize then throw .nameTooLong
  else return p.child part

/-- Follows the parts of a path. A path that starts with a slash starts above the folder, and from
there no name leads back into it. -/
def follow (f : Folder) (path : String) (parts : List String) : Except FileFault Place :=
  parts.foldlM f.step (if path.startsWith "/" then .above else .inside [])

/-- The parts of a path, which is neither empty nor too long. A slash at the end gives an empty
part: it leads nowhere, but what stands in front of it has to be a folder. -/
def partsOf (path : String) : Except FileFault (List String) :=
  if path.isEmpty then .error .notFound
  else if longestPath < path.utf8ByteSize then .error .nameTooLong
  else .ok (path.splitOn "/")

/-- Reads a file. A path that ends with a slash or a dot leads into a folder and so never to a
file. -/
def read (f : Folder) (path : String) : Except FileFault (List UInt8) := do
  let place ← f.follow path (← partsOf path)
  match f.entry place with
  | .file bytes => return bytes
  | .folder => throw .isDirectory
  | .missing => throw .notFound

/-- The folder with a file at a place, instead of what stood there. What is outside is not kept, so
writing there goes through and leaves no trace. -/
def put (f : Folder) (p : Place) (bytes : List UInt8) : Folder :=
  match p with
  | .inside names => ⟨f.files.filter (·.1 != names) ++ [(names, bytes)]⟩
  | _ => f

/-- Whether the path ends in a slash behind the name of a file that could be made. -/
def asksForFolder (parts : List String) : Bool :=
  parts.getLast? == some "" && (parts.filter (· != "")).getLast?.any fun part =>
    part != "." && part != ".."

/-- Writes a file, which need not be there, into a folder that has to be there. A path that asks for
a folder is refused even if nothing stands there, but its way is followed first. -/
def write (f : Folder) (path : String) (text : String) : Except FileFault Folder := do
  let parts ← partsOf path
  if asksForFolder parts then
    f.enter (← f.follow path (parts.filter (· != "")).dropLast)
    throw .isDirectory
  else
    let place ← f.follow path parts
    match f.entry place with
    | .folder => throw .isDirectory
    | .file _ | .missing => return f.put place text.toUTF8.toList

end Folder

/-- A folder as a store of files, next to the given standard input. -/
def inFolder (input : List UInt8) : Files (StateM Folder) where
  read path := do return (← get).read path
  write path text := do
    match (← get).write path text with
    | .ok f =>
      set f
      return .ok ()
    | .error fault => return .error fault
  input := pure input

end ShaderBindings.Command
