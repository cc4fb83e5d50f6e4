/-
# Folders

A folder is a tree of files that is held in memory, given by the path of each file and its bytes.  A
file is read by a path, which is followed part by part from the folder.  A part that is empty or one
dot stays where it is and two dots lead one folder up.  Of what is outside the folder only the
folders above it are known.
-/
import MiniPascal.CommandLine.Perform

namespace MiniPascal

/-- The files of a folder: the names along the path of each, and its bytes. -/
abbrev Folder := List (List String × List UInt8)

namespace Folder

/-- The parts of a path, between its slashes. -/
def parts (path : String) : List String := ((path.split '/').map (·.copy)).toList

/-- The folder of the files, each given by its path. -/
def ofList (files : List (String × List UInt8)) : Folder :=
  files.map fun (path, bytes) => ((parts path).filter fun part => part ≠ "" ∧ part ≠ ".", bytes)

/-- The bytes of the file at the place. -/
def file? (folder : Folder) (place : List String) : Option (List UInt8) :=
  (folder.find? fun entry => entry.1 = place).map Prod.snd

/-- Whether the place is a folder: the top one, or one on the way to a file. -/
def hasFolder (folder : Folder) (place : List String) : Bool :=
  place.isEmpty || folder.any fun entry => place.length < entry.1.length && place.isPrefixOf entry.1

/-- Follows the parts of a path from outside the folder. -/
def followOutside (parts : List String) : FileError :=
  if parts.all fun part => part = "" ∨ part = "." ∨ part = ".." then .isDirectory else .notFound

/-- Follows the parts of a path from a place within the folder. -/
def follow (folder : Folder) (place : List String) : List String → Except FileError (List UInt8)
  | [] =>
    match folder.file? place with
    | some bytes => .ok bytes
    | none => .error (if folder.hasFolder place then .isDirectory else .notFound)
  | part :: rest =>
    if (folder.file? place).isSome then .error .notDirectory
    else if !folder.hasFolder place then .error .notFound
    else if part = "" ∨ part = "." then folder.follow place rest
    else if part = ".." then
      if place.isEmpty then .error (followOutside rest) else folder.follow place.dropLast rest
    else folder.follow (place ++ [part]) rest

/-- The bytes of the file at the path; a path that starts with a slash leads outside. -/
def read (folder : Folder) (path : String) : Except FileError (List UInt8) :=
  if path.isEmpty then .error .notFound
  else if path.startsWith '/' then .error (followOutside (parts path))
  else folder.follow [] (parts path)

end Folder

end MiniPascal
