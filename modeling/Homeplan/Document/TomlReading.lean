import Homeplan.Document.Reading
import Homeplan.Document.Toml.Tables

namespace Homeplan.Toml

/-! Reading typed values from TOML text. -/

open Document

/-- Items behind the last field of a record written as a list are passed over, and the content of a
bare choice is an empty table or list. -/
def rules : Rules where
  nesting := none
  skipsSurplus := true
  isNothing
    | .mapping [] | .sequence [] => true
    | _ => false

def read (reader : Reader α) (text : String) : Except Fault α :=
  match document? text with
  | some document => reader rules document
  | none => .error .malformed

end Homeplan.Toml
