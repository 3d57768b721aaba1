import GpuTrace.Error

/-!
# Files in memory

A file tree holds the files of a machine by their places; a place is the list of
names from the root. A path is followed name by name from a directory: an empty
name and `.` stay where they are, `..` goes up and stays at the root, and every
other name must be there. A place that is a link leads to another place. Only a
directory has names in it, so a path that goes on behind a file, if only by a
slash, is in error.
-/

namespace GpuTrace.Program

/-- Files by their places, each with its text or with why it can not be read.
Directories on the way to a file need no entry of their own. A link leads to a
place that is no link. -/
structure FileTree where
  entries : List (List String × Except FileError String)
  links : List (List String × List String)

namespace FileTree

def longestName : Nat := 255

def longestPath : Nat := 4095

def content (t : FileTree) (place : List String) : Except FileError String :=
  match t.entries.lookup place with
  | some content => content
  | none =>
    if place.isEmpty || t.entries.any (fun entry => place.isPrefixOf entry.1) then
      .error .isDirectory
    else .error .notFound

def isDirectory (t : FileTree) (place : List String) : Bool :=
  match t.content place with
  | .error .isDirectory => true
  | _ => false

def contains (t : FileTree) (place : List String) : Bool :=
  match t.content place with
  | .error .notFound => false
  | _ => true

def target (t : FileTree) (place : List String) : List String :=
  (t.links.lookup place).getD place

def step (t : FileTree) (place : List String) (name : String) : Except FileError (List String) :=
  if !t.isDirectory place then .error .notDirectory
  else if name = "" ∨ name = "." then .ok place
  else if name = ".." then .ok place.dropLast
  else if longestName < name.utf8ByteSize then .error .nameTooLong
  else
    let next := t.target (place ++ [name])
    if t.contains next then .ok next else .error .notFound

def walk (t : FileTree) (place : List String) (names : List String) :
    Except FileError (List String) :=
  names.foldlM t.step place

/-- What reading the file under a path gives, where a path without a slash in
front starts at the place `current`. -/
def read (t : FileTree) (current : List String) (path : String) : Except FileError String := do
  if path.isEmpty then throw .notFound
  else if longestPath < path.utf8ByteSize then throw .nameTooLong
  else
    let start := if path.startsWith "/" then [] else current
    t.content (← t.walk start (path.splitOn "/"))

end FileTree

end GpuTrace.Program
