import TextCharts.Files.Basic
import TextCharts.Text.Split

namespace TextCharts

-- Directories and files by the parts of their absolute names. Whatever lies above one of them is a
-- directory too.
structure FileTree where
  working : List String
  directories : List (List String) := []
  files : List (List String × ByteArray) := []

namespace FileTree

inductive Entry
  | directory
  | file (bytes : ByteArray)

def isDirectory (t : FileTree) (place : List String) : Bool :=
  let known := t.working :: t.directories ++ t.files.map (·.1.dropLast)
  known.any (place.isPrefixOf ·)

def entry? (t : FileTree) (place : List String) : Option Entry :=
  if t.isDirectory place then some .directory
  else (t.files.lookup place).map .file

-- How many bytes a part of a name may have.
def partLimit : Nat := 255

-- How many bytes a name must not reach.
def nameLimit : Nat := 4096

-- Goes on from a place, which has to be a directory.
def enter (t : FileTree) (place : List String) (part : String) : Except FileError (List String) :=
  match t.entry? place with
  | none => .error .notFound
  | some (.file _) => .error .notDirectory
  | some .directory =>
    if part = "" || part = "." then .ok place
    else if part = ".." then .ok place.dropLast
    else if partLimit < part.utf8ByteSize then .error .nameTooLong
    else .ok (place ++ [part])

-- The place that a name stands for; there need not be anything.
def walk (t : FileTree) (name : String) : Except FileError (List String) :=
  if name.contains '\x00' then .error .badName
  else if name.isEmpty then .error .notFound
  else if nameLimit ≤ name.utf8ByteSize then .error .nameTooLong
  else
    let start := if name.startsWith "/" then [] else t.working
    ((Text.splitOn '/' name.toList).map String.ofList).foldlM t.enter start

def read (t : FileTree) : Files := fun name => do
  let place ← t.walk name
  match t.entry? place with
  | none => .error .notFound
  | some .directory => .error .isDirectory
  | some (.file bytes) => return { directory := place.dropLast, text := ← textOf bytes }

end FileTree
end TextCharts
