import Homeplan.Json
import Homeplan.Text.Quoted

namespace Homeplan

/-! Documents as far as they can be read, and what can be wrong with them.

Reading a notation never fails: a text that stops being well formed gives a document that is
`broken` at that place, with everything before it intact.  Whoever walks the document from left to
right therefore meets the first problem of either kind, shape or notation, where the text has it.
-/

/-- What a text holds, in any notation. -/
inductive Document where
  | null
  | bool (value : Bool)
  | integer (value : Int)
  | real (value : Binary64)
  /-- An infinity or no number at all, where a notation can write one. -/
  | unbounded
  | text (value : String)
  | sequence (items : List Document)
  /-- Members in the order of the text; a name is the text that it is written as. -/
  | mapping (members : List (Document × Document))
  /-- A well-formed piece that denotes no value. -/
  | unreadable
  /-- The place where the text stops being well formed. -/
  | broken
deriving Repr, Inhabited

namespace Document

/-- What stands where something else was expected. -/
inductive Found where
  | null
  | bool (value : Bool)
  | integer (value : Int)
  | real (value : Binary64)
  | text (value : String)
  | sequence
  | mapping
deriving DecidableEq, Repr

def Found.description : Found → String
  | .null => "null"
  | .bool true => "boolean `true`"
  | .bool false => "boolean `false`"
  | .integer value => "integer `" ++ toString value ++ "`"
  | .real value => "floating point `" ++ value.text ++ "`"
  | .text value => "string " ++ Text.quoted value
  | .sequence => "sequence"
  | .mapping => "map"

inductive Expected where
  | text
  | bool
  | unsigned
  | signed
  | sequence
  | mapping
  | nothing
  | record (name : String)
deriving DecidableEq, Repr

def Expected.description : Expected → String
  | .text => "a string"
  | .bool => "a boolean"
  | .unsigned => "u32"
  | .signed => "i32"
  | .sequence => "a sequence"
  | .mapping => "a map"
  | .nothing => "unit"
  | .record name => "struct " ++ name

/-- A well-formed piece of the wrong shape. -/
inductive Mismatch where
  | wrongKind (found : Found) (expected : Expected)
  | outOfRange (value : Int) (expected : Expected)
  | unknownChoice (name : String) (choices : List String)
  | missingField (field : String)
  | repeatedField (field : String)
  /-- A record written as a list that ends before its required fields do. -/
  | tooFewItems (count : Nat) (record : String) (fields : Nat)
deriving DecidableEq, Repr

def Mismatch.message : Mismatch → String
  | .wrongKind found expected =>
      "invalid type: " ++ found.description ++ ", expected " ++ expected.description
  | .outOfRange value expected =>
      "invalid value: integer `" ++ toString value ++ "`, expected " ++ expected.description
  | .unknownChoice name choices =>
      "unknown variant `" ++ name ++ "`, expected one of " ++
        String.intercalate ", " (choices.map (fun choice => "`" ++ choice ++ "`"))
  | .missingField field => "missing field `" ++ field ++ "`"
  | .repeatedField field => "duplicate field `" ++ field ++ "`"
  | .tooFewItems count record fields =>
      "invalid length " ++ toString count ++ ", expected struct " ++ record ++ " with " ++
        toString fields ++ (if fields = 1 then " element" else " elements")

inductive Fault where
  | malformed
  | mismatch (problem : Mismatch)
deriving DecidableEq, Repr

def Fault.message : Fault → String
  | .malformed => "malformed text"
  | .mismatch problem => problem.message

/-- The fault of finding this document where something else is expected. -/
def unexpected (document : Document) (expected : Expected) : Fault :=
  match document with
  | .null => .mismatch (.wrongKind .null expected)
  | .bool value => .mismatch (.wrongKind (.bool value) expected)
  | .integer value => .mismatch (.wrongKind (.integer value) expected)
  | .real value => .mismatch (.wrongKind (.real value) expected)
  | .text value => .mismatch (.wrongKind (.text value) expected)
  | .sequence _ => .mismatch (.wrongKind .sequence expected)
  | .mapping _ => .mismatch (.wrongKind .mapping expected)
  | .unbounded | .unreadable | .broken => .malformed

mutual

/-- Whether the text of a document that nobody reads is well formed. -/
def isIntact : Document → Bool
  | .sequence items => areIntact items
  | .mapping members => membersIntact members
  | .broken => false
  | .null | .bool _ | .integer _ | .real _ | .unbounded | .text _ | .unreadable => true

def areIntact : List Document → Bool
  | [] => true
  | item :: rest => isIntact item && areIntact rest

def membersIntact : List (Document × Document) → Bool
  | [] => true
  | (name, value) :: rest => isIntact name && isIntact value && membersIntact rest

end

end Document

end Homeplan
