import Conform.Text.Split

namespace Conform

inductive FileEntry where
  | file (bytes : ByteArray)
  | directory

/-- The entries of a working directory by the names on their paths. Directories on the way to an
entry are there without an entry of their own. -/
structure FileTree where
  entries : List (List String × FileEntry)

namespace FileTree

def empty : FileTree := ⟨[]⟩

def parts (path : String) : List String := (Text.pieces '/' path.toList).map String.ofList

def ofList (entries : List (String × FileEntry)) : FileTree :=
  let names (path : String) := (parts path).filter fun p => p ≠ "" && p ≠ "."
  ⟨(entries.map fun (path, entry) => (names path, entry)).reverse⟩

/-- Whether the names lead to a directory. Those above the working directory are there, and nothing
is known to be in them. -/
def isDirectory (t : FileTree) (names : List String) : Bool :=
  names.all (· = "..") ||
    t.entries.any fun (entry, content) =>
      (names.isPrefixOf entry && names ≠ entry) ||
        (names = entry &&
          match content with
          | .directory => true
          | .file _ => false)

def bytes? (t : FileTree) (names : List String) : Option ByteArray :=
  match t.entries.lookup names with
  | some (.file bytes) => some bytes
  | _ => none

/-- Follows the parts of a path from a directory on, by the names to it in reverse. A part leads on
only from a directory. -/
def follow (t : FileTree) (dir : List String) : List String → Option (List String)
  | [] => some dir.reverse
  | part :: rest =>
    if !t.isDirectory dir.reverse then none
    else if part = "" ∨ part = "." then follow t dir rest
    else if part = ".." then
      match dir with
      | [] => follow t [".."] rest
      | name :: parent => follow t (if name = ".." then ".." :: dir else parent) rest
    else follow t (part :: dir) rest

def names? (t : FileTree) (path : String) : Option (List String) :=
  if Text.startsWith "/" path ∨ path = "" then none else t.follow [] (parts path)

def isFile (t : FileTree) (path : String) : Bool :=
  (t.names? path).any fun names => (t.bytes? names).isSome

def contains (t : FileTree) (path : String) : Bool :=
  t.isFile path || (t.names? path).any t.isDirectory

/-- The text of the file at a relative path; none if there is no file, or no text in it. -/
def readText? (t : FileTree) (path : String) : Option String := do
  String.fromUTF8? (← t.bytes? (← t.names? path))

end FileTree

end Conform
