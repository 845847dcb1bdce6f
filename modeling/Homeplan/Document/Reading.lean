import Homeplan.Document
import Homeplan.Json.Ordered
import Homeplan.SortedMap

namespace Homeplan.Document

/-! Reading typed values from a document, from left to right up to the first fault. -/

/-- How documents of a notation are read. -/
structure Rules where
  /-- How many more lists and mappings may be opened inside each other, if that is limited. -/
  nesting : Option Nat
  /-- Whether items behind the last field of a record written as a list are passed over. -/
  skipsSurplus : Bool
  /-- Whether a document is the empty content of a bare choice. -/
  isNothing : Document → Bool

abbrev Reader (α : Type u) := Rules → Document → Except Fault α

/-- The rules inside one more list or mapping. -/
def Rules.inner (rules : Rules) : Except Fault Rules :=
  match rules.nesting with
  | none => .ok rules
  | some 0 => .error .malformed
  | some (levels + 1) => .ok { rules with nesting := some levels }

namespace Reader

def text : Reader String := fun _ document =>
  match document with
  | .text value => .ok value
  | other => .error (other.unexpected .text)

def bool : Reader Bool := fun _ document =>
  match document with
  | .bool value => .ok value
  | other => .error (other.unexpected .bool)

/-- An integer of 32 bits without sign. -/
def unsigned : Reader UInt32 := fun _ document =>
  match document with
  | .integer value =>
      if 0 ≤ value && value < 0x100000000 then .ok (UInt32.ofNat value.toNat)
      else .error (.mismatch (.outOfRange value .unsigned))
  | other => .error (other.unexpected .unsigned)

/-- An integer of 32 bits with sign. -/
def signed : Reader Int32 := fun _ document =>
  match document with
  | .integer value =>
      if -0x80000000 ≤ value && value < 0x80000000 then .ok (Int32.ofInt value)
      else .error (.mismatch (.outOfRange value .signed))
  | other => .error (other.unexpected .signed)

def optional (read : Reader α) : Reader (Option α) := fun rules document =>
  match document with
  | .null => .ok none
  | present => do
      let value ← read rules present
      return some value

def list (read : Reader α) : Reader (List α) := fun rules document =>
  match document with
  | .sequence items => do
      let inner ← rules.inner
      items.mapM (read inner)
  | other => .error (other.unexpected .sequence)

def memberName : Document → Except Fault String
  | .text name => .ok name
  | _ => .error .malformed

/-- A mapping from any names to values of one kind; the last value of a name stays. -/
def dictionary (read : Reader α) : Reader (SortedMap String α) := fun rules document =>
  match document with
  | .mapping members => do
      let inner ← rules.inner
      members.foldlM (fun (map : SortedMap String α) (member : Document × Document) => do
        let name ← memberName member.1
        let value ← read inner member.2
        return map.insert name value) {}
  | other => .error (other.unexpected .mapping)

/-- One of some named choices: its name, or a mapping from its name to an empty content. -/
def choice (names : List String) (ofName? : String → Option α) : Reader α := fun rules document =>
  let named (name : String) : Except Fault α :=
    match ofName? name with
    | some value => .ok value
    | none => .error (.mismatch (.unknownChoice name names))
  match document with
  | .text name => named name
  | .mapping members => do
      let _ ← rules.inner
      match members with
      | [] => .error .malformed
      | (name, content) :: others => do
          let name ← memberName name
          let value ← named name
          if rules.isNothing content then
            if others.isEmpty then .ok value else .error .malformed
          else .error (content.unexpected .nothing)
  | _ => .error .malformed

mutual

/-- Any value, with members in the order of the document. -/
def json (rules : Rules) : Document → Except Fault Json
  | .null => .ok .null
  | .bool value => .ok (.bool value)
  | .integer value => .ok (.integer value)
  | .real value => .ok (.real value)
  | .unbounded => .ok .null
  | .text value => .ok (.text value)
  | .sequence items => do
      let inner ← rules.inner
      let values ← jsonItems inner items
      return .array values
  | .mapping members => do
      let inner ← rules.inner
      let values ← jsonMembers inner members
      return .object values
  | .unreadable => .error .malformed
  | .broken => .error .malformed

def jsonItems (rules : Rules) : List Document → Except Fault (List Json)
  | [] => .ok []
  | item :: rest => do
      let value ← json rules item
      let values ← jsonItems rules rest
      return value :: values

def jsonMembers (rules : Rules) : List (Document × Document) → Except Fault (List (String × Json))
  | [] => .ok []
  | (name, item) :: rest => do
      let name ← memberName name
      let value ← json rules item
      let values ← jsonMembers rules rest
      return (name, value) :: values

end

def settings : Reader Settings := fun rules document =>
  match document with
  | .mapping members => do
      let inner ← rules.inner
      let values ← jsonMembers inner members
      return Settings.ofMembers values
  | other => .error (other.unexpected .mapping)

/-! ## Records -/

/-- A field of a record that is read into a draft. -/
structure RecordField (δ : Type u) where
  name : String
  required : Bool
  isRead : δ → Bool
  read : Rules → δ → Document → Except Fault δ

/-- A field kept in one optional place of the draft. -/
def field (name : String) (required : Bool) (place : δ → Option α) (fill : δ → α → δ)
    (read : Reader α) : RecordField δ where
  name := name
  required := required
  isRead draft := (place draft).isSome
  read rules draft document := do
    let value ← read rules document
    return fill draft value

/-- Reads one member of a record.  A second member for a field is refused before its value is
looked at; a member for no field only has to be well formed. -/
def member (fields : List (RecordField δ)) (rules : Rules) (draft : δ)
    (member : Document × Document) : Except Fault δ := do
  let name ← memberName member.1
  match fields.find? (·.name = name) with
  | some field =>
      if field.isRead draft then .error (.mismatch (.repeatedField field.name))
      else field.read rules draft member.2
  | none => if member.2.isIntact then .ok draft else .error .malformed

/-- Reads the fields of a record from a list, in their order. -/
def positional (record : String) (count : Nat) (rules : Rules) :
    List (RecordField δ) → List Document → δ → Except Fault δ
  | [], [], draft => .ok draft
  | [], _ :: _, draft => if rules.skipsSurplus then .ok draft else .error .malformed
  | missing, [], draft =>
      match missing.findIdx? (·.required) with
      | some index =>
          .error (.mismatch (.tooFewItems (count - missing.length + index) record count))
      | none => .ok draft
  | field :: fields, item :: items, draft => do
      let draft ← field.read rules draft item
      positional record count rules fields items draft

/-- A record: a mapping from field names in any order, or a list of its fields in their order, of
which those at the end may be left out that are not required. -/
def record (name : String) (fields : List (RecordField δ)) (start : δ) : Reader δ :=
  fun rules document =>
  match document with
  | .mapping members => do
      let inner ← rules.inner
      let draft ← members.foldlM (member fields inner) start
      match fields.find? (fun field => field.required && !field.isRead draft) with
      | some field => .error (.mismatch (.missingField field.name))
      | none => .ok draft
  | .sequence items => do
      let inner ← rules.inner
      positional name fields.length inner fields items start
  | other => .error (other.unexpected (.record name))

end Reader

end Homeplan.Document
