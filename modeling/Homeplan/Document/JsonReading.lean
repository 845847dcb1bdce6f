import Homeplan.Document.JsonText
import Homeplan.Document.Reading

namespace Homeplan.JsonText

/-! Reading typed values from JSON text. -/

open Document

/-- At most 127 lists and objects stand inside each other, and the content of a bare choice is
null. -/
def rules : Rules where
  nesting := some 127
  skipsSurplus := false
  isNothing
    | .null => true
    | _ => false

/-- Reads a whole text, behind whose value only blanks may follow. -/
def read (reader : Reader α) (text : String) : Except Fault α := do
  let source := ofString text
  let value ← reader rules source.root
  if source.complete then return value else .error .malformed

/-- Any JSON value, its members arranged. -/
def readJson (text : String) : Except Fault Json := do
  let value ← read Reader.json text
  return value.arranged

end Homeplan.JsonText
