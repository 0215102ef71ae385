/-
What can be read from a disk, and trees of files.

A program that reads files sees of them what stands at each written path
(`Disk`). Which paths lead to one file is up to the disk.

In a tree a location is a list of names; folders are remembered, so that
one stays there when its last file is removed. Looking up a written path
goes from folder to folder, with the usual meaning of one point and two
points, and never leaves the tree. As a disk the tree is the folder where
paths start, and there is nothing else (`Files.disk`).
-/
import Clearance.Collection.Table
import Clearance.Collection.Distinct
import Clearance.Storage.Path

namespace Clearance.Storage

/-- A disk as it is at a moment. -/
structure Disk where
  /-- The content of the file that a path leads to, if it can be read. -/
  read? : Path → Option String

/-- The names from the root to a file or a folder. -/
abbrev Location := List String

/-- A tree of files with their contents. -/
structure Files where
  contents : Table Location String
  /-- The folders apart from the root. -/
  folders : List Location

namespace Files

/-- The tree with nothing in it. -/
def empty : Files := ⟨∅, []⟩

/-- Whether there is a folder at a location. -/
def isFolder (files : Files) (l : Location) : Bool := l.isEmpty || files.folders.contains l

/-- Follows the parts of a path from a folder. -/
def walk? (files : Files) : Location → List String → Option Location
  | l, [] => some l
  | l, name :: rest =>
    if !files.isFolder l then none
    else if name.isEmpty || name == "." then walk? files l rest
    else if name == ".." then if l.isEmpty then none else walk? files l.dropLast rest
    else walk? files (l ++ [name]) rest

/-- The parts of a path between its slashes. -/
def parts (path : String) : List String :=
  (Text.splitAll (· == '/') path.toList).map String.ofList

/-- Where a path leads from the root of the tree. -/
def locate? (files : Files) (path : String) : Option Location :=
  files.walk? [] (parts path)

/-- The content of the file that a path leads to. -/
def read? (files : Files) (path : String) : Option String :=
  (files.locate? path).bind files.contents.get?

/-- The folders on the way to a location. -/
def around (l : Location) : List Location :=
  (List.range l.length).filterMap fun n => if n == 0 then none else some (l.take n)

/-- The tree with a content at a path. Missing folders are made; a file
must not stand in the place of a folder, nor a folder in that of the
file. -/
def write? (files : Files) (path content : String) : Option Files :=
  let l := (parts path).filter fun name => !name.isEmpty && name != "."
  if l.isEmpty || files.isFolder l || (around l).any files.contents.contains then none
  else some
    { contents := files.contents.insert l content
      folders := addAllNew files.folders (around l) }

/-- The tree without the file that a path leads to, if there is one. -/
def remove? (files : Files) (path : String) : Option Files := do
  let l ← files.locate? path
  if files.contents.contains l then some { files with contents := files.contents.erase l }
  else none

/-- The disk with nothing but a tree, where paths start. -/
def disk (files : Files) : Disk := ⟨fun p => if p.isAbsolute then none else files.read? p.text⟩

instance : Coe Files Disk := ⟨disk⟩

end Files

end Clearance.Storage
