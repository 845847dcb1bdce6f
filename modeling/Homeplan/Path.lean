import Homeplan.SortedMap

namespace Homeplan

/-! File paths: texts with slashes between their parts.

A path is compared and taken apart by its components.  Empty parts do not count, and neither do
dots, except for a dot that a relative path begins with.
-/

structure Path where
  text : String
deriving DecidableEq, Repr, Inhabited

namespace Path

inductive Component where
  | root
  | here
  | above
  | name (value : String)
deriving DecidableEq, Repr

/-- Characters by which components are ordered: the root, dots, double dots, then names. -/
def Component.rank : Component → List Char
  | .root => ['0']
  | .here => ['1']
  | .above => ['2']
  | .name value => '3' :: value.toList

theorem Component.rank_injective {left right : Component} (same : left.rank = right.rank) :
    left = right := by
  cases left <;> cases right <;> simp_all [Component.rank, String.toList_inj]

instance : KeyOrder Component := .byRank Component.rank Component.rank_injective

/-- The parts of a text between slashes; there is always one. -/
def split : List Char → List (List Char)
  | [] => [[]]
  | character :: rest =>
      if character = '/' then [] :: split rest
      else
        match split rest with
        | [] => [[character]]
        | part :: parts => (character :: part) :: parts

def join : List (List Char) → List Char
  | [] => []
  | [part] => part
  | part :: next :: rest => part ++ '/' :: join (next :: rest)

def isAbsolute (path : Path) : Bool := path.text.toList.head? = some '/'

/-- The parts behind the root, empty ones included. -/
def parts (path : Path) : List (List Char) :=
  if path.isAbsolute then split (path.text.toList.drop 1) else split path.text.toList

/-- Whether a part counts as a component.  Only the first part of a relative path may be a dot. -/
def counts (mayBeDot : Bool) (part : List Char) : Bool :=
  part ≠ [] && (mayBeDot || part ≠ ['.'])

/-- The parts, each with whether it counts. -/
def markedParts (path : Path) : List (List Char × Bool) :=
  match path.parts with
  | [] => []
  | first :: rest =>
      (first, counts (!path.isAbsolute) first) :: rest.map fun part => (part, counts false part)

def Component.ofPart (part : List Char) : Component :=
  if part = ['.'] then .here
  else if part = ['.', '.'] then .above
  else .name (String.ofList part)

def components (path : Path) : List Component :=
  let body := (path.markedParts.filter (·.2)).map fun marked => Component.ofPart marked.1
  if path.isAbsolute then .root :: body else body

/-- The path without its last component, unless it has none or is a root. -/
def parent? (path : Path) : Option Path :=
  let skipped (marked : List (List Char × Bool)) := marked.dropWhile (fun part => !part.2)
  match skipped path.markedParts.reverse with
  | [] => none
  | _ :: before =>
      let kept := join ((skipped before).reverse.map (·.1))
      some ⟨String.ofList (if path.isAbsolute then '/' :: kept else kept)⟩

/-- The last component, if it is a name. -/
def fileName? (path : Path) : Option String :=
  match path.components.getLast? with
  | some (.name value) => some value
  | _ => none

/-- What follows the last dot of the file name; a dot at its start does not count. -/
def extension? (path : Path) : Option String :=
  path.fileName?.bind fun name =>
    let reversed := name.toList.reverse
    let extension := reversed.takeWhile (· ≠ '.')
    match reversed.drop extension.length with
    | _ :: _ :: _ => some (String.ofList extension.reverse)
    | _ => none

/-- A path below another one.  An absolute path stays as it is. -/
def append (base path : Path) : Path :=
  if path.isAbsolute then path
  else if base.text.isEmpty || base.text.toList.getLast? = some '/' then ⟨base.text ++ path.text⟩
  else ⟨base.text ++ "/" ++ path.text⟩

end Path

end Homeplan
