import Bindery.File.Path
import Bindery.SortedMap

/-! # File trees

A `FileTree` is a directory with everything below it, and a working directory in which relative
paths start.  A path is followed one component at a time, and whatever it passes through must be a
directory.  Paths and names that are too long lead nowhere. -/

namespace Bindery

/-- The names that lead from the root of a tree to a place in it. -/
abbrev Location := List String

/-- Files with their content, and directories. -/
structure FileTree where
  files : SortedMap Location String := SortedMap.empty
  /-- The directories other than the root. -/
  directories : SortedMap Location Unit := SortedMap.empty
  /-- Where relative paths start. -/
  working : Location := []

namespace FileTree

def isDirectory (t : FileTree) (place : Location) : Bool :=
  place.isEmpty || t.directories.contains place

def addDirectory (t : FileTree) (place : Location) : FileTree :=
  if place.isEmpty then t else { t with directories := t.directories.insert place () }

/-- Makes every place along a way from the root a directory. -/
def addDirectories (t : FileTree) (place : Location) : FileTree :=
  (List.range (place.length + 1)).foldl (fun t n => t.addDirectory (place.take n)) t

/-- Puts a file at a place, in directories made for it. -/
def addFile (t : FileTree) (place : Location) (content : String) : FileTree :=
  { t.addDirectories place.dropLast with files := t.files.insert place content }

/-! ### Following paths -/

/-- Where one component leads from a place. -/
def step (place : Location) : Component → Location
  | .root => []
  | .current => place
  | .parent => place.dropLast
  | .name text => place ++ [text]

/-- Where components lead from a place, if every place that is passed is a directory. -/
def follow (t : FileTree) (place : Location) : List Component → Option Location
  | [] => some place
  | c :: rest =>
    if t.isDirectory place && c.fits then t.follow (step place c) rest else none

/-- The place of a path; the empty path has none. -/
def locate? (t : FileTree) (p : Path) : Option Location :=
  if p.text ≠ "" ∧ p.isUsable then t.follow t.working p.components else none

/-- Whether the spelling of a path admits a directory only. -/
def namesDirectory (p : Path) : Bool :=
  ['/'].isSuffixOf p.text.toList || ['/', '.'].isSuffixOf p.text.toList

def read? (t : FileTree) (p : Path) : Option String :=
  if namesDirectory p then none else (t.locate? p).bind t.files.find?

def isFile (t : FileTree) (p : Path) : Bool :=
  (t.read? p).isSome

/-- The stems of all files at or below a path. -/
def stems? (t : FileTree) (p : Path) : Option NameSet :=
  match t.locate? p with
  | none => none
  | some place =>
    if t.isDirectory place then
      let below := t.files.keys.filter fun file => place.isPrefixOf file
      some (NameSet.ofNames (below.filterMap fun file =>
        file.getLast?.map fun name => (Path.splitName name).1))
    else if t.isFile p then some (NameSet.ofNames p.stem?.toList)
    else none

/-! ### Writing -/

/-- Makes the directories along a path that are not there, up to one that cannot be made because its
name is too long or a file is in the way. -/
def makeDirectories (t : FileTree) (place : Location) : List Component → FileTree × Bool
  | [] => (t, true)
  | c :: rest =>
    if t.files.contains (step place c) || !c.fits then (t, false)
    else (t.addDirectory (step place c)).makeDirectories (step place c) rest

/-- Replaces the content of a file in an existing directory, or puts a new file there. -/
def write? (t : FileTree) (p : Path) (content : String) : Option FileTree :=
  if namesDirectory p then none
  else
    match t.locate? p with
    | none => none
    | some place =>
      if t.isDirectory place then none
      else some { t with files := t.files.insert place content }

/-- Writes a file, in directories made for it.  The tree comes back as far as it was changed. -/
def put (t : FileTree) (p : Path) (content : String) : FileTree × Bool :=
  if p.directory.isUsable then
    match t.makeDirectories t.working p.components.dropLast with
    | (t, false) => (t, false)
    | (t, true) =>
      match t.write? p content with
      | some t => (t, true)
      | none => (t, false)
  else (t, false)

/-! ### Changes -/

/-- The text of the path to a place from above it. -/
def pathText (place : Location) : String :=
  String.intercalate "/" place

/-- The files below the working directory that another tree has not got, or has with other content,
in ascending order of their paths from there. -/
def changes (t before : FileTree) : List (String × String) :=
  let changed := t.files.entries.filter fun (place, content) =>
    t.working.isPrefixOf place && before.files.find? place != some content
  (SortedMap.ofList (changed.map fun (place, content) =>
    (pathText (place.drop t.working.length), content))).entries

end FileTree

end Bindery
