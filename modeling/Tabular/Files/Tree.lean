/-!
# File trees

Files with a content of any type, and directories. A tree lists its nodes by their location, the
names from the root down.

## Main definitions

- `FileTree` — files and directories by location
- `FileTree.node?` — what stands at a location
- `FileTree.put`, `FileTree.erase`, `FileTree.move` — changes at a location
- `FileTree.listing` — the names in a directory
- `FileTree.filesBelow` — the files at and below a location
-/

namespace Tabular

/-- Names from the root of a tree down. -/
abbrev Location := List String

/-- A file with its content, or a directory. -/
inductive FileNode (α : Type)
  | file (content : α)
  | directory
deriving DecidableEq, Repr

/-- Files and directories by location. The root is a directory and is not listed. -/
structure FileTree (α : Type) where
  entries : List (Location × FileNode α)
deriving Repr

namespace FileTree

variable {α : Type}

/-- The root alone. -/
def empty : FileTree α := ⟨[]⟩

/-- What stands at a location. -/
def node? (t : FileTree α) (place : Location) : Option (FileNode α) :=
  if place = [] then some .directory else t.entries.lookup place

/-- Puts a node at a location, over what stands there. -/
def put (t : FileTree α) (place : Location) (node : FileNode α) : FileTree α :=
  if (t.entries.lookup place).isSome then
    ⟨t.entries.map fun entry => if entry.1 = place then (place, node) else entry⟩
  else ⟨t.entries ++ [(place, node)]⟩

/-- Takes the node at a location away. -/
def erase (t : FileTree α) (place : Location) : FileTree α :=
  ⟨t.entries.filter (·.1 ≠ place)⟩

/-- A location after `source` and what is below it moved to `target`. -/
def relocate (source target place : Location) : Location :=
  if source.isPrefixOf place then target ++ place.drop source.length else place

/-- Moves a node and what is below it, over what stands at the target. -/
def move (t : FileTree α) (source target : Location) : FileTree α :=
  ⟨(t.erase target).entries.map fun entry => (relocate source target entry.1, entry.2)⟩

/-- There are nodes below a location. -/
def isOccupied (t : FileTree α) (place : Location) : Bool :=
  t.entries.any fun entry => place.isPrefixOf entry.1 && entry.1 ≠ place

/-- The name of a node that stands in a directory, with a slash behind that of a directory. -/
def listedName (place : Location) (entry : Location × FileNode α) : Option String :=
  if entry.1.dropLast = place then
    entry.1.getLast?.map fun name =>
      match entry.2 with
      | .file _ => name
      | .directory => name ++ "/"
  else none

/-- The names in a directory in increasing order. -/
def listing (t : FileTree α) (place : Location) : List String :=
  (t.entries.filterMap (listedName place)).mergeSort (· ≤ ·)

/-- One location comes before another or is it: by the first name that differs, and a directory
before what is in it. -/
def precedes : Location → Location → Bool
  | [], _ => true
  | _ :: _, [] => false
  | a :: as, b :: bs => if a = b then precedes as bs else decide (a < b)

/-- The files at and below a location, directory by directory: the names of a directory come in
increasing order, and what is below a name comes where the name stands. -/
def filesBelow (t : FileTree α) (place : Location) : List (Location × α) :=
  (t.entries.filterMap fun entry =>
    match entry.2 with
    | .file content => if place.isPrefixOf entry.1 then some (entry.1, content) else none
    | .directory => none).mergeSort fun a b => precedes a.1 b.1

end FileTree

end Tabular
