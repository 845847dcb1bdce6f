import Homeplan.Json
import Homeplan.SortedMap

namespace Homeplan

/-! The ordered form of a JSON value: members by strictly increasing name at every depth.

Of the members that share a name the last one stays.  Two objects that differ only in the order
of their members have one ordered form.
-/

namespace Json

mutual

def arranged : Json → Json
  | .array items => .array (arrangedItems items)
  | .object members => .object (arrangedMembers members)
  | .null => .null
  | .bool value => .bool value
  | .integer value => .integer value
  | .real value => .real value
  | .text value => .text value

def arrangedItems : List Json → List Json
  | [] => []
  | item :: rest => arranged item :: arrangedItems rest

def arrangedMembers : List (String × Json) → List (String × Json)
  | [] => []
  | (name, value) :: rest =>
      let later := arrangedMembers rest
      if later.any (·.1 = name) then later
      else SortedMap.insertEntry name (arranged value) later

end

theorem orderedMembers_insertEntry {name : String} {value : Json}
    {members : List (String × Json)} (valueOrdered : Ordered value)
    (ordered : OrderedMembers members) :
    OrderedMembers (SortedMap.insertEntry name value members) := by
  induction members with
  | nil => exact ⟨valueOrdered, ordered⟩
  | cons head rest ih =>
      obtain ⟨headOrdered, restOrdered⟩ := ordered
      unfold SortedMap.insertEntry
      split
      · exact ⟨valueOrdered, headOrdered, restOrdered⟩
      · split
        · exact ⟨headOrdered, ih restOrdered⟩
        · exact ⟨valueOrdered, restOrdered⟩

theorem keysIncrease_arrangedMembers (members : List (String × Json)) :
    KeysIncrease (arrangedMembers members) := by
  induction members with
  | nil => exact List.Pairwise.nil
  | cons head rest ih =>
      unfold arrangedMembers
      simp only
      split
      · exact ih
      · exact SortedMap.keysIncrease_insertEntry _ _ ih

mutual

theorem arranged_ordered : ∀ value : Json, Ordered (arranged value)
  | .array items => by simpa [arranged, Ordered] using arrangedItems_ordered items
  | .object members => by
      simpa [arranged, Ordered] using
        ⟨keysIncrease_arrangedMembers members, arrangedMembers_ordered members⟩
  | .null | .bool _ | .integer _ | .real _ | .text _ => by simp [arranged, Ordered]

theorem arrangedItems_ordered : ∀ items : List Json, OrderedItems (arrangedItems items)
  | [] => by simp [arrangedItems, OrderedItems]
  | item :: rest => by
      simpa [arrangedItems, OrderedItems] using
        ⟨arranged_ordered item, arrangedItems_ordered rest⟩

theorem arrangedMembers_ordered : ∀ members : List (String × Json),
    OrderedMembers (arrangedMembers members)
  | [] => by simp [arrangedMembers, OrderedMembers]
  | (name, value) :: rest => by
      unfold arrangedMembers
      simp only
      split
      · exact arrangedMembers_ordered rest
      · exact orderedMembers_insertEntry (arranged_ordered value) (arrangedMembers_ordered rest)

end

end Json

namespace Settings

/-- The settings of an object's members, whatever their order. -/
def ofMembers (members : List (String × Json)) : Settings where
  members := Json.arrangedMembers members
  sorted := Json.keysIncrease_arrangedMembers members
  ordered := Json.arrangedMembers_ordered members

end Settings

end Homeplan
