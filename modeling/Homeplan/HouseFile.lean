import Homeplan.Document.JsonReading
import Homeplan.Document.TomlReading
import Homeplan.FileFault
import Homeplan.HousePlan.Reading
import Homeplan.Path

namespace Homeplan

/-! House plans in files.  The extension of the file name tells the format. -/

inductive HouseFormat where
  | json
  | toml
deriving DecidableEq, Repr

/-- The format of a file, by its extension in either case. -/
def HouseFormat.ofPath? (path : Path) : Option HouseFormat :=
  match path.extension?.map (·.map Char.toLower) with
  | some "json" => some .json
  | some "toml" => some .toml
  | _ => none

inductive HouseFileError where
  | unsupportedFormat (path : Path)
  | unreadable (path : Path) (fault : FileFault)
  | invalid (format : HouseFormat) (path : Path) (fault : Document.Fault)
deriving DecidableEq, Repr

namespace HouseFileError

def message : HouseFileError → String
  | .unsupportedFormat path =>
      "unsupported house file " ++ path.text ++ ": expected a .json or .toml extension"
  | .unreadable path _ => "failed to read " ++ path.text
  | .invalid .json path _ => "failed to parse JSON in " ++ path.text
  | .invalid .toml path _ => "failed to parse TOML in " ++ path.text

def causes : HouseFileError → List String
  | .unsupportedFormat _ => []
  | .unreadable _ fault => [fault.message]
  | .invalid _ _ fault => [fault.message]

end HouseFileError

namespace HousePlan

/-- The plan that a text of some format describes.  The path only serves messages. -/
def parse (format : HouseFormat) (path : Path) (text : String) : Except HouseFileError HousePlan :=
  let plan := match format with
    | .json => JsonText.read reader text
    | .toml => Toml.read reader text
  plan.mapError (.invalid format path)

/-- Loads the plan in a file; the format is settled before the file is read. -/
def load [Monad m] (readText : Path → m (Except FileFault String)) (path : Path) :
    m (Except HouseFileError HousePlan) :=
  match HouseFormat.ofPath? path with
  | none => pure (.error (.unsupportedFormat path))
  | some format => do
      match ← readText path with
      | .error fault => pure (.error (.unreadable path fault))
      | .ok text => pure (parse format path text)

end HousePlan

end Homeplan
