import CellPurse.Command.Host
import CellPurse.Settings.Location

/-!
# CellPurse.Command.FileTree — files in memory

A tree of files with a place in it from which others are named.  The directories are those that the places of files go
through.  A part of a place is looked up in the directory before it, so that the first part that fails decides.

* `FileTree`: the files by their places from the root;
* `FileTree.look`: what is at a place.
-/

namespace CellPurse

/-- Files in memory. -/
structure FileTree where
  /-- The place from which others are named. -/
  here : Location.Parts
  files : List (Location.Parts × Bytes)

namespace FileTree

/-- How many bytes a part of a place may have. -/
def partLimit : Nat := 255

/-- How many bytes a place may have, and one for its end. -/
def placeLimit : Nat := 4096

/-- What is at a place from the root. -/
def entry (t : FileTree) (parts : Location.Parts) : Entry :=
  match t.files.find? fun f => f.1 = parts with
  | some f => .file f.2
  | none =>
    if parts.isEmpty || parts.isPrefixOf t.here || t.files.any fun f => parts.isPrefixOf f.1 then .directory
    else .absent

/-- What is at the place that some parts name from another place. -/
def follow (t : FileTree) (place : Location.Parts) : Location.Parts → Entry
  | [] => t.entry place
  | part :: rest =>
    match t.entry place with
    | .directory =>
      if part = ['.', '.'] then t.follow place.dropLast rest
      else if partLimit < (String.ofList part).utf8ByteSize then .tooLong
      else t.follow (place ++ [part]) rest
    | .file _ => .underFile
    | e => e

/-- What is at a place. -/
def look (t : FileTree) (place : String) : Entry :=
  if placeLimit ≤ place.utf8ByteSize then .tooLong
  else t.follow (if place.startsWith "/" then [] else t.here) (Location.parts place.toList)

end FileTree

end CellPurse
