namespace Assurance
namespace Maintenance

/-!
# Paths and file systems

A path is a list of names, from the root of the file system or from the current
directory.  A single dot is kept only at the start of a relative path, where it
makes the difference between the current directory and no path at all.

Looking a path up walks through its names one by one, so a step back is only
possible out of a directory that exists.
-/

/-- A path as it is written. -/
structure Path where
  absolute : Bool
  names : List String
deriving DecidableEq, Repr

namespace Path

def ofText (text : String) : Path :=
  let absolute := text.startsWith "/"
  let parts := (text.splitOn "/").filter fun name => !name.isEmpty
  match parts with
  | "." :: parts =>
      ⟨absolute, (if absolute then [] else ["."]) ++ parts.filter (· != ".")⟩
  | parts => ⟨absolute, parts.filter (· != ".")⟩

/-- The path without its last name; a path without names has no parent. -/
def parent? (path : Path) : Option Path :=
  if path.names.isEmpty then none else some { path with names := path.names.dropLast }

def append (path : Path) (names : List String) : Path :=
  { path with names := path.names ++ names }

/-- Whether a path is the empty text, which never leads anywhere. -/
def isNothing (path : Path) : Bool :=
  !path.absolute && path.names.isEmpty

end Path

/-- The names that lead from the root of a file system to a place in it. -/
abbrev Place : Type := List String

/-- The directories and files of a file system. -/
structure FileSystem where
  directories : List Place
  files : List (Place × String)
deriving DecidableEq, Repr

/-- Why a tool cannot be started. -/
inductive StartError where
  /-- There is no such tool, or no such directory. -/
  | notFound
  /-- A file stands where a directory is needed. -/
  | notDirectory
deriving DecidableEq, Repr

def StartError.message : StartError → String
  | notFound => "No such file or directory (os error 2)"
  | notDirectory => "Not a directory (os error 20)"

namespace FileSystem

/-- The place itself and all directories above it. -/
def ancestors (place : Place) : List Place :=
  (List.range (place.length + 1)).map place.take

/-- The file system with given directories and files and the directories above them. -/
def ofContents (directories : List Place) (files : List (Place × String)) : FileSystem where
  directories :=
    (directories ++ files.map fun file => file.1.dropLast).flatMap ancestors
  files := files

def hasDirectory (system : FileSystem) (place : Place) : Bool :=
  system.directories.contains place

def hasFile (system : FileSystem) (place : Place) : Bool :=
  system.files.any fun (file, _) => file == place

/-- The directory that one name leads to. -/
def enter (system : FileSystem) (place : Place) (name : String) : Except StartError Place :=
  if name == "." then .ok place
  else if name == ".." then .ok place.dropLast
  else if system.hasDirectory (place ++ [name]) then .ok (place ++ [name])
  else if system.hasFile (place ++ [name]) then .error .notDirectory
  else .error .notFound

/-- The directory that a path leads to. -/
def lookUp (system : FileSystem) (current : Place) (path : Path) : Except StartError Place :=
  if path.isNothing then .error .notFound
  else path.names.foldlM system.enter (if path.absolute then [] else current)

end FileSystem

end Maintenance
end Assurance
