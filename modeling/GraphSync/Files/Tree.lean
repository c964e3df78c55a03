import GraphSync.Files.Error

/-!
# File trees

A file tree is a set of files by their place, with a working directory. A place is the list of names
on the way from the root. The directories are the places on the way to a file or to the working
directory.
-/

namespace GraphSync

/-- The names on the way from the root. -/
abbrev Place := List String

/-- Files by place, and the place from which relative paths start. -/
structure FileTree where
  files : List (Place × ByteArray)
  workingDirectory : Place

namespace FileTree

/-! ## Places -/

/-- The content of the file at a place. -/
def file? (t : FileTree) (place : Place) : Option ByteArray := t.files.lookup place

/-- Whether a place is a directory. -/
def isDirectory (t : FileTree) (place : Place) : Bool :=
  place.isPrefixOf t.workingDirectory ||
    t.files.any fun (p, _) => place.isPrefixOf p && place.length < p.length

/-- The longest name, in bytes. -/
def maxName : Nat := 255

/-- The longest path, in bytes. -/
def maxPath : Nat := 4095

/-- The place to which names lead from a directory. Every name has to be looked up in a directory,
also the empty name and the names of one and two dots. -/
def follow (t : FileTree) (place : Place) : List String → Except FileError Place
  | [] => .ok place
  | name :: rest =>
    if (t.file? place).isSome then .error .notDirectory
    else if !t.isDirectory place then .error .notFound
    else if name.isEmpty || name == "." then follow t place rest
    else if name == ".." then follow t place.dropLast rest
    else if maxName < name.utf8ByteSize then .error .nameTooLong
    else follow t (place ++ [name]) rest

/-- The place of a path. -/
def place (t : FileTree) (path : String) : Except FileError Place :=
  if path.isEmpty then .error .notFound
  else if path.contains '\x00' then .error .nullInPath
  else if maxPath < path.utf8ByteSize then .error .nameTooLong
  else
    let start := if path.front == '/' then [] else t.workingDirectory
    t.follow start (path.splitOn "/")

/-! ## Reading -/

/-- The text of the file at a path. -/
def readText (t : FileTree) (path : String) : Except FileError String := do
  let place ← t.place path
  match t.file? place with
  | none => .error (if t.isDirectory place then .isDirectory else .notFound)
  | some bytes =>
    match String.fromUTF8? bytes with
    | some text => .ok text
    | none => .error .notText

end FileTree

end GraphSync
