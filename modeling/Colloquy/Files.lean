/-!
# Files

The files that a program sees, as a value. Paths are written with slashes; those that do not start
with one are seen from the root, too.
-/

namespace Colloquy

/-- What is stored under a path. -/
inductive FileEntry where
  | file (bytes : List UInt8)
  | directory
  deriving DecidableEq, Repr

/-- A path as the names of its parts, from the root. -/
abbrev Path := List String

/-- A path below another one. A path that starts at the root is taken as it is. -/
def joinPath (directory name : String) : String :=
  if name.startsWith "/" || directory.isEmpty then name
  else if directory.endsWith "/" then directory ++ name
  else directory ++ "/" ++ name

/-- The files that exist, by their paths. -/
structure FileTree where
  entries : List (Path × FileEntry) := []
  deriving Repr

namespace FileTree

/-- What is stored under a path. Every part of the path of an entry is a directory, and so is the
root. -/
def find? (files : FileTree) (path : Path) : Option FileEntry :=
  match files.entries.find? fun entry => entry.1 == path with
  | some entry => some entry.2
  | none =>
      let hasInside := files.entries.any fun entry =>
        path.length < entry.1.length && path.isPrefixOf entry.1
      if path.isEmpty || hasInside then some .directory else none

/-- Whether a path names a directory. -/
def isDirectory (files : FileTree) (path : Path) : Bool :=
  files.find? path == some .directory

/-- Follow the parts of a written path. Parts that lead nowhere or upwards do so only from a
directory. -/
def follow? (files : FileTree) : Path → List String → Option Path
  | path, [] => some path
  | path, part :: rest =>
      if part = "" ∨ part = "." then
        if files.isDirectory path then follow? files path rest else none
      else if part = ".." then
        if files.isDirectory path then follow? files path.dropLast rest else none
      else follow? files (path ++ [part]) rest

/-- The path that is written. -/
def locate? (files : FileTree) (written : String) : Option Path :=
  files.follow? [] (written.splitOn "/")

/-- Whether anything is stored under a written path. -/
def isThere (files : FileTree) (written : String) : Bool :=
  ((files.locate? written).bind files.find?).isSome

/-- The text of a file, if it is one and holds UTF-8. -/
def readText? (files : FileTree) (written : String) : Option String :=
  match (files.locate? written).bind files.find? with
  | some (.file bytes) => String.fromUTF8? bytes.toByteArray
  | _ => none

/-- Whether directories can be made up to a path: no part of it is a file. -/
def hasRoom (files : FileTree) (path : Path) : Bool :=
  (List.range path.length).all fun parts =>
    match files.find? (path.take parts) with
    | some (.file _) => false
    | some .directory | none => true

/-- Store a new file and the directories it is in, if nothing is in the way. -/
def create (files : FileTree) (written text : String) : FileTree :=
  match files.locate? written with
  | some path =>
      if files.hasRoom path && (files.find? path).isNone then
        ⟨(path, .file text.toUTF8.toList) :: files.entries⟩
      else files
  | none => files

end FileTree

end Colloquy
