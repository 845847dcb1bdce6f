import Homeplan.SortedMap

namespace Homeplan

/-! Directory trees: files and folders without links, addressed by the names from the top down. -/

inductive FileTree where
  | file (content : ByteArray)
  | folder (entries : List (String × FileTree))

namespace FileTree

instance : Inhabited FileTree := ⟨.folder []⟩

/-- A position in a tree: the names from its top down. -/
abbrev Position := List String

def find? : FileTree → Position → Option FileTree
  | tree, [] => some tree
  | .file _, _ :: _ => none
  | .folder entries, name :: rest =>
      match entries.lookup name with
      | some entry => entry.find? rest
      | none => none

/-- Puts something at a position whose folder is there; any other position leaves the tree as it
is. -/
def put : FileTree → Position → FileTree → FileTree
  | _, [], entry => entry
  | .file content, _ :: _, _ => .file content
  | .folder entries, [name], entry => .folder (SortedMap.insertEntry name entry entries)
  | .folder entries, name :: next :: rest, entry =>
      match entries.lookup name with
      | some inner => .folder (SortedMap.insertEntry name (inner.put (next :: rest) entry) entries)
      | none => .folder entries

def remove : FileTree → Position → FileTree
  | .file content, _ => .file content
  | .folder entries, [] => .folder entries
  | .folder entries, [name] => .folder (entries.filter fun entry => entry.1 ≠ name)
  | .folder entries, name :: next :: rest =>
      match entries.lookup name with
      | some inner => .folder (SortedMap.insertEntry name (inner.remove (next :: rest)) entries)
      | none => .folder entries

def isFolderAt (tree : FileTree) (position : Position) : Bool :=
  match tree.find? position with
  | some (.folder _) => true
  | _ => false

/-- The entries of the folder at a position. -/
def entriesAt (tree : FileTree) (position : Position) : List (String × FileTree) :=
  match tree.find? position with
  | some (.folder entries) => entries
  | _ => []

/-! ## Listing -/

mutual

/-- Every entry below a folder, depth first and in order of names; a file comes with its content. -/
def listing (above : String) : FileTree → List (String × Option ByteArray)
  | .file content => [(above, some content)]
  | .folder entries => (above ++ "/", none) :: listingEntries (above ++ "/") entries

def listingEntries (above : String) : List (String × FileTree) → List (String × Option ByteArray)
  | [] => []
  | (name, entry) :: rest => listing (above ++ name) entry ++ listingEntries above rest

end

def contents : FileTree → List (String × Option ByteArray)
  | .file _ => []
  | .folder entries => listingEntries "" entries

end FileTree

end Homeplan
