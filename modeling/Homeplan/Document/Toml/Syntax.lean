import Homeplan.Document

namespace Homeplan.Toml

/-! TOML as written: statements one after the other, before their keys are put together.

A carriage return in front of a line feed belongs to the end of the line, and every reader below
takes a text whose lines end in a line feed alone (`unifyLineEnds`).
-/

/-- A key of one or more names, all but the last naming tables. -/
structure KeyPath where
  parents : List String
  name : String
deriving DecidableEq, Repr

/-- The path through one more table. -/
def KeyPath.below (parent : String) (path : KeyPath) : KeyPath :=
  { path with parents := parent :: path.parents }

def KeyPath.names (path : KeyPath) : List String := path.parents ++ [path.name]

inductive Value where
  | scalar (document : Document)
  | array (items : List Value)
  /-- A table in braces. -/
  | inline (entries : List (KeyPath × Value))
deriving Repr, Inhabited

inductive Statement where
  | entry (path : KeyPath) (value : Value)
  /-- Opens a table. -/
  | table (path : KeyPath)
  /-- Opens one more table of a list of tables. -/
  | element (path : KeyPath)
deriving Repr

/-! ## Blanks and comments -/

/-- Lines with one form of line end. -/
def unifyLineEnds : List Char → List Char
  | '\r' :: '\n' :: rest => '\n' :: unifyLineEnds rest
  | character :: rest => character :: unifyLineEnds rest
  | [] => []

def isBlank (character : Char) : Bool := character = ' ' || character = '\t'

def skipBlanks (text : List Char) : List Char := text.dropWhile isBlank

/-- Whether a character may stand in comments and strings: no control but the tabulator. -/
def isPrintable (character : Char) : Bool :=
  character = '\t' || (32 ≤ character.toNat && character.toNat ≠ 127)

/-- Drops blanks, line ends and comments. -/
def skipGaps (inComment : Bool) : List Char → List Char
  | [] => []
  | character :: rest =>
      if character = '\n' then skipGaps false rest
      else if inComment then
        if isPrintable character then skipGaps true rest else character :: rest
      else if isBlank character then skipGaps false rest
      else if character = '#' then skipGaps true rest
      else character :: rest

/-- What follows a statement: blanks and a comment up to the end of the line. -/
def endLine (text : List Char) : Option (List Char) :=
  let afterComment := match skipBlanks text with
    | '#' :: comment => comment.dropWhile isPrintable
    | other => other
  match afterComment with
  | [] => some []
  | '\n' :: rest => some rest
  | _ => none

end Homeplan.Toml
