import Homeplan.Document.Toml.Statements

namespace Homeplan.Toml

/-! Putting the statements of a TOML text together.

A table is defined once, in one of three ways, which decide what later keys may add to it.
-/

/-- How a table came to be. -/
inductive Origin where
  /-- By its own header or braces, or as the whole text. -/
  | opened
  /-- By the header of a table below it. -/
  | passed
  /-- By a dotted key. -/
  | dotted
deriving DecidableEq, Repr

inductive Node where
  | leaf (document : Document)
  | table (origin : Origin) (entries : List (String × Node))
  /-- A list of tables, of which later headers only reach the newest. -/
  | tables (newest : List (String × Node)) (older : List (List (String × Node)))

abbrev Entries := List (String × Node)

/-- Replaces what stands under a name, or adds it at the end. -/
def Entries.change (name : String) (change : Option Node → Option Node) :
    Entries → Option Entries
  | [] => (change none).map fun node => [(name, node)]
  | (other, node) :: rest =>
      if other = name then (change (some node)).map fun node => (other, node) :: rest
      else (Entries.change name change rest).map ((other, node) :: ·)

/-- Changes the table that a path leads to.  Tables that are missing are made on the way, and a
dotted key does not pass through a table that has been opened. -/
def within (byDots : Bool) (change : Origin → Entries → Option Entries) :
    List String → Origin → Entries → Option Entries
  | [], origin, entries => change origin entries
  | name :: path, _, entries =>
      entries.change name fun
        | none =>
            let made : Origin := if byDots then .dotted else .passed
            (within byDots change path made []).map (.table made)
        | some (.leaf _) => none
        | some (.table origin inner) =>
            if byDots && origin = .opened then none
            else (within byDots change path origin inner).map (.table origin)
        | some (.tables newest older) =>
            (within byDots change path .opened newest).map (.tables · older)

/-- Adds an entry under a name that is free.  A table made by dotted keys gets its entries by dotted
keys alone, and no other table does. -/
def addEntry (path : KeyPath) (document : Document) (origin : Origin) (entries : Entries) :
    Option Entries :=
  within true
    (fun origin entries =>
      if (origin == .dotted) == path.parents.isEmpty then none
      else
        entries.change path.name fun
          | none => some (.leaf document)
          | some _ => none)
    path.parents origin entries

/-- Opens a table, unless it has been opened before or is something else. -/
def openTable (path : KeyPath) (entries : Entries) : Option Entries :=
  within false
    (fun _ entries =>
      entries.change path.name fun
        | none => some (.table .opened [])
        | some (.table .passed inner) => some (.table .opened inner)
        | some _ => none)
    path.parents .opened entries

/-- Opens one more table of a list that only such headers have made. -/
def openElement (path : KeyPath) (entries : Entries) : Option Entries :=
  within false
    (fun _ entries =>
      entries.change path.name fun
        | none => some (.tables [] [])
        | some (.tables newest older) => some (.tables [] (newest :: older))
        | some _ => none)
    path.parents .opened entries

/-! ## Documents -/

mutual

def Node.document : Node → Document
  | .leaf document => document
  | .table _ entries => .mapping (membersOf entries)
  | .tables newest older => .sequence (olderDocuments older ++ [.mapping (membersOf newest)])

def membersOf : List (String × Node) → List (Document × Document)
  | [] => []
  | (name, node) :: rest => (.text name, node.document) :: membersOf rest

/-- The documents of tables given from the newest to the oldest, oldest first. -/
def olderDocuments : List (List (String × Node)) → List Document
  | [] => []
  | entries :: rest => olderDocuments rest ++ [.mapping (membersOf entries)]

end

mutual

def Value.document? : Value → Option Document
  | .scalar document => some document
  | .array items => (itemDocuments? items).map .sequence
  | .inline entries => (inlineEntries? [] entries).map fun made => .mapping (membersOf made)

def itemDocuments? : List Value → Option (List Document)
  | [] => some []
  | item :: rest => do
      let document ← item.document?
      let documents ← itemDocuments? rest
      some (document :: documents)

def inlineEntries? (made : Entries) : List (KeyPath × Value) → Option Entries
  | [] => some made
  | (path, value) :: rest => do
      let document ← value.document?
      let made ← addEntry path document .opened made
      inlineEntries? made rest

end

/-- The text read so far: its tables, and the path to the table that entries go to. -/
structure Progress where
  current : List String
  entries : Entries

def Progress.add (progress : Progress) : Statement → Option Progress
  | .entry path value => do
      let document ← value.document?
      let entries ← within false (addEntry path document) progress.current .opened progress.entries
      some { progress with entries }
  | .table path => do
      let entries ← openTable path progress.entries
      some ⟨path.names, entries⟩
  | .element path => do
      let entries ← openElement path progress.entries
      some ⟨path.names, entries⟩

/-- The document of a whole text. -/
def document? (text : String) : Option Document := do
  let statements ← statementsOf text
  let progress ← statements.foldlM Progress.add ⟨[], []⟩
  some (.mapping (membersOf progress.entries))

end Homeplan.Toml
