namespace HeaderScan

/-!
Files below a directory, and the reading of them as text.

A path is followed name by name, and the first name that leads nowhere decides why the file cannot
be read.  Of what is around the directory only the way further up is known.
-/

/-- Why a file cannot be read. -/
inductive ReadFailure
  | missing
  | isDirectory
  /-- Something on the way to the file is itself a file. -/
  | notDirectory
  /-- The path, or a name in it, is too long. -/
  | nameTooLong
  /-- The path holds a character that no path can hold. -/
  | invalidName
  | notText
  deriving DecidableEq, Repr

namespace ReadFailure

/-- The failure in words. -/
def message : ReadFailure → String
  | missing => "No such file or directory (os error 2)"
  | isDirectory => "Is a directory (os error 21)"
  | notDirectory => "Not a directory (os error 20)"
  | nameTooLong => "File name too long (os error 36)"
  | invalidName => "file name contained an unexpected NUL byte"
  | notText => "stream did not contain valid UTF-8"

end ReadFailure

/-- Files by their paths, each the list of names on the way to the file.  The directories are the
places on these ways.  Of two files with one path the first counts. -/
structure FileTree where
  files : List (List String × ByteArray)

namespace FileTree

/-- The greatest number of bytes in a name. -/
def nameLimit : Nat :=
  255

/-- The greatest number of bytes in a path. -/
def pathLimit : Nat :=
  4095

/-- A place on the way of a path. -/
inductive Place
  /-- A directory around the tree: above it, or at the start of an absolute path. -/
  | outside
  /-- The directory of the tree, or one below it. -/
  | directory (path : List String)
  | file (content : ByteArray)

namespace Place

/-- The directory above a directory.  There is always one, since the topmost is above itself. -/
def parent : Place → Place
  | directory (name :: path) => directory (name :: path).dropLast
  | _ => outside

end Place

/-- The names in a path, as far as they lead anywhere. -/
def pathNames (path : String) : List String :=
  (path.splitOn "/").filter fun name => name != "" && name != "."

/-- The files with these paths and contents, written one after the other: a later file takes the
place of an earlier one. -/
def ofFiles (files : List (String × ByteArray)) : FileTree :=
  ⟨(files.map fun (path, content) => (pathNames path, content)).reverse⟩

/-- What is called so at a place. -/
def entry? (tree : FileTree) (place : Place) (name : String) : Option Place :=
  match place with
  | .directory path =>
    let target := path ++ [name]
    match tree.files.lookup target with
    | some content => some (.file content)
    | none =>
      if tree.files.any fun file => target.isPrefixOf file.1 then some (.directory target)
      else none
  | _ => none

/-- Goes from a place to what is called so there. -/
def step (tree : FileTree) (place : Place) (name : String) : Except ReadFailure Place :=
  match place with
  | .file _ => .error .notDirectory
  | place =>
    if name = "" || name = "." then .ok place
    else if name = ".." then .ok place.parent
    else if nameLimit < name.utf8ByteSize then .error .nameTooLong
    else
      match tree.entry? place name with
      | none => .error .missing
      | some found => .ok found

/-- Where a path starts: in the directory of the tree, unless it is absolute. -/
def origin (path : String) : Place :=
  if path.toList.head? = some '/' then .outside else .directory []

/-- Follows a path to its end. -/
def locate (tree : FileTree) (path : String) : Except ReadFailure Place :=
  if path.toList.contains '\x00' then .error .invalidName
  else if path = "" then .error .missing
  else if pathLimit < path.utf8ByteSize then .error .nameTooLong
  else (path.splitOn "/").foldlM tree.step (origin path)

/-- Reads the file at a path as text. -/
def read (tree : FileTree) (path : String) : Except ReadFailure String :=
  match tree.locate path with
  | .error failure => .error failure
  | .ok (.file content) =>
    match String.fromUTF8? content with
    | none => .error .notText
    | some text => .ok text
  | .ok _ => .error .isDirectory

end FileTree
end HeaderScan
