import Homeplan.Binary64.Shortest
import Homeplan.SortedMap

namespace Homeplan

/-! JSON values and their compact text.

Objects keep their members in the order given.  A settings value keeps them by
strictly increasing name (`Json.Ordered`), which every reader establishes.
-/

inductive Json where
  | null
  | bool (value : Bool)
  | integer (value : Int)
  | real (value : Binary64)
  | text (value : String)
  | array (items : List Json)
  | object (members : List (String × Json))
deriving Repr, Inhabited

namespace Json

mutual

def decEq : (left right : Json) → Decidable (left = right)
  | .null, .null => isTrue rfl
  | .bool left, .bool right =>
      if same : left = right then isTrue (by rw [same])
      else isFalse (by simpa using same)
  | .integer left, .integer right =>
      if same : left = right then isTrue (by rw [same])
      else isFalse (by simpa using same)
  | .real left, .real right =>
      if same : left = right then isTrue (by rw [same])
      else isFalse (by simpa using same)
  | .text left, .text right =>
      if same : left = right then isTrue (by rw [same])
      else isFalse (by simpa using same)
  | .array left, .array right =>
      match decEqItems left right with
      | isTrue same => isTrue (by rw [same])
      | isFalse differs => isFalse (by simpa using differs)
  | .object left, .object right =>
      match decEqMembers left right with
      | isTrue same => isTrue (by rw [same])
      | isFalse differs => isFalse (by simpa using differs)
  | .null, .bool _ | .null, .integer _ | .null, .real _ | .null, .text _ | .null, .array _
  | .null, .object _ | .bool _, .null | .bool _, .integer _ | .bool _, .real _ | .bool _, .text _
  | .bool _, .array _ | .bool _, .object _ | .integer _, .null | .integer _, .bool _
  | .integer _, .real _ | .integer _, .text _ | .integer _, .array _ | .integer _, .object _
  | .real _, .null | .real _, .bool _ | .real _, .integer _ | .real _, .text _ | .real _, .array _
  | .real _, .object _ | .text _, .null | .text _, .bool _ | .text _, .integer _ | .text _, .real _
  | .text _, .array _ | .text _, .object _ | .array _, .null | .array _, .bool _
  | .array _, .integer _ | .array _, .real _ | .array _, .text _ | .array _, .object _
  | .object _, .null | .object _, .bool _ | .object _, .integer _ | .object _, .real _
  | .object _, .text _ | .object _, .array _ => isFalse (by simp)

def decEqItems : (left right : List Json) → Decidable (left = right)
  | [], [] => isTrue rfl
  | [], _ :: _ => isFalse (by simp)
  | _ :: _, [] => isFalse (by simp)
  | left :: lefts, right :: rights =>
      match decEq left right, decEqItems lefts rights with
      | isTrue head, isTrue tail => isTrue (by rw [head, tail])
      | isFalse head, _ => isFalse (by simp [head])
      | _, isFalse tail => isFalse (by simp [tail])

def decEqMembers : (left right : List (String × Json)) → Decidable (left = right)
  | [], [] => isTrue rfl
  | [], _ :: _ => isFalse (by simp)
  | _ :: _, [] => isFalse (by simp)
  | (leftName, left) :: lefts, (rightName, right) :: rights =>
      if name : leftName = rightName then
        match decEq left right, decEqMembers lefts rights with
        | isTrue head, isTrue tail => isTrue (by rw [name, head, tail])
        | isFalse head, _ => isFalse (by simp [head])
        | _, isFalse tail => isFalse (by simp [tail])
      else isFalse (by simp [name])

end

instance : DecidableEq Json := decEq

/-! ## Compact text -/

/-- The form of a character inside a string: quotation marks, backslashes and the controls below
the blank are escaped, all else stands as it is. -/
def escaped (character : Char) : List Char :=
  if character = '"' then ['\\', '"']
  else if character = '\\' then ['\\', '\\']
  else if character.toNat = 8 then ['\\', 'b']
  else if character.toNat = 9 then ['\\', 't']
  else if character.toNat = 10 then ['\\', 'n']
  else if character.toNat = 12 then ['\\', 'f']
  else if character.toNat = 13 then ['\\', 'r']
  else if character.toNat < 32 then
    ['\\', 'u', '0', '0', Nat.digitChar (character.toNat / 16),
      Nat.digitChar (character.toNat % 16)]
  else [character]

def stringText (value : String) : String :=
  String.ofList ('"' :: (value.toList.flatMap escaped ++ ['"']))

mutual

/-- The text without blanks, members in their order. -/
def compact : Json → String
  | .null => "null"
  | .bool true => "true"
  | .bool false => "false"
  | .integer value => toString value
  | .real value => value.text
  | .text value => stringText value
  | .array items => "[" ++ compactItems items ++ "]"
  | .object members => "\x7b" ++ compactMembers members ++ "\x7d"

def compactItems : List Json → String
  | [] => ""
  | [item] => compact item
  | item :: next :: rest => compact item ++ "," ++ compactItems (next :: rest)

def compactMembers : List (String × Json) → String
  | [] => ""
  | [(name, value)] => stringText name ++ ":" ++ compact value
  | (name, value) :: next :: rest =>
      stringText name ++ ":" ++ compact value ++ "," ++ compactMembers (next :: rest)

end

/-! ## Ordered objects -/

mutual

/-- Every object lists its members by strictly increasing name. -/
def Ordered : Json → Prop
  | .array items => OrderedItems items
  | .object members => KeysIncrease members ∧ OrderedMembers members
  | _ => True

def OrderedItems : List Json → Prop
  | [] => True
  | item :: rest => Ordered item ∧ OrderedItems rest

def OrderedMembers : List (String × Json) → Prop
  | [] => True
  | (_, value) :: rest => Ordered value ∧ OrderedMembers rest

end

end Json

/-- Settings overrides: JSON values by strictly increasing name, ordered at every depth. -/
structure Settings where
  members : List (String × Json)
  sorted : KeysIncrease members
  ordered : Json.OrderedMembers members
deriving DecidableEq

namespace Settings

def toJson (settings : Settings) : Json := .object settings.members

end Settings

end Homeplan
