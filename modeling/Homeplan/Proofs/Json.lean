import Homeplan.Json.Ordered
import Homeplan.Proofs.SortedMap

namespace Homeplan.Json

/-! Values that compact texts can carry without loss, and what arranging does to ordered values. -/

/-- What holds of a list or an object if it holds of all values in it, holds of every value. -/
theorem induction {motive : Json → Prop} (null : motive .null)
    (bool : ∀ value, motive (.bool value)) (integer : ∀ value, motive (.integer value))
    (real : ∀ value, motive (.real value)) (text : ∀ value, motive (.text value))
    (array : ∀ items, (∀ item ∈ items, motive item) → motive (.array items))
    (object : ∀ members, (∀ member ∈ members, motive member.2) → motive (.object members)) :
    ∀ json, motive json
  | .null => null
  | .bool value => bool value
  | .integer value => integer value
  | .real value => real value
  | .text value => text value
  | .array items => array items fun item _ =>
      induction null bool integer real text array object item
  | .object members => object members fun member _ =>
      induction null bool integer real text array object member.2
termination_by json => sizeOf json
decreasing_by
  · rename_i inItems
    have smaller := List.sizeOf_lt_of_mem inItems
    simp
    omega
  · rename_i inMembers
    have smaller := List.sizeOf_lt_of_mem inMembers
    obtain ⟨name, value⟩ := member
    simp at smaller ⊢
    omega

mutual

/-- All numbers in the value are integers of 64 bits, with or without sign: they are at least -2^63
and less than 2^64. -/
def Exact : Json → Prop
  | .integer value => -9223372036854775808 ≤ value ∧ value < 18446744073709551616
  | .real _ => False
  | .array items => ExactItems items
  | .object members => ExactMembers members
  | .null | .bool _ | .text _ => True

def ExactItems : List Json → Prop
  | [] => True
  | item :: rest => Exact item ∧ ExactItems rest

def ExactMembers : List (String × Json) → Prop
  | [] => True
  | (_, value) :: rest => Exact value ∧ ExactMembers rest

end

mutual

/-- How many lists and objects stand inside each other. -/
def depth : Json → Nat
  | .array items => depthOfItems items + 1
  | .object members => depthOfMembers members + 1
  | .null | .bool _ | .integer _ | .real _ | .text _ => 0

def depthOfItems : List Json → Nat
  | [] => 0
  | item :: rest => max (depth item) (depthOfItems rest)

def depthOfMembers : List (String × Json) → Nat
  | [] => 0
  | (_, value) :: rest => max (depth value) (depthOfMembers rest)

end

mutual

def decExact : (json : Json) → Decidable json.Exact
  | .integer value =>
      inferInstanceAs (Decidable (-9223372036854775808 ≤ value ∧ value < 18446744073709551616))
  | .real _ => isFalse id
  | .array items => decExactItems items
  | .object members => decExactMembers members
  | .null | .bool _ | .text _ => isTrue trivial

def decExactItems : (items : List Json) → Decidable (ExactItems items)
  | [] => isTrue trivial
  | item :: rest =>
      match decExact item, decExactItems rest with
      | isTrue head, isTrue tail => isTrue ⟨head, tail⟩
      | isFalse head, _ => isFalse fun exact => head exact.1
      | _, isFalse tail => isFalse fun exact => tail exact.2

def decExactMembers : (members : List (String × Json)) → Decidable (ExactMembers members)
  | [] => isTrue trivial
  | (_, value) :: rest =>
      match decExact value, decExactMembers rest with
      | isTrue head, isTrue tail => isTrue ⟨head, tail⟩
      | isFalse head, _ => isFalse fun exact => head exact.1
      | _, isFalse tail => isFalse fun exact => tail exact.2

end

instance : DecidablePred Exact := decExact

theorem exactItems_iff {items : List Json} : ExactItems items ↔ ∀ item ∈ items, item.Exact := by
  induction items with
  | nil => simp [ExactItems]
  | cons item rest ih => simp [ExactItems, ih]

theorem exactMembers_iff {members : List (String × Json)} :
    ExactMembers members ↔ ∀ member ∈ members, member.2.Exact := by
  induction members with
  | nil => simp [ExactMembers]
  | cons member rest ih => simp [ExactMembers, ih]

theorem depthOfItems_le_iff {items : List Json} {levels : Nat} :
    depthOfItems items ≤ levels ↔ ∀ item ∈ items, item.depth ≤ levels := by
  induction items with
  | nil => simp [depthOfItems]
  | cons item rest ih => rw [depthOfItems, Nat.max_le, ih, List.forall_mem_cons]

theorem depthOfMembers_le_iff {members : List (String × Json)} {levels : Nat} :
    depthOfMembers members ≤ levels ↔ ∀ member ∈ members, member.2.depth ≤ levels := by
  induction members with
  | nil => simp [depthOfMembers]
  | cons member rest ih => rw [depthOfMembers, Nat.max_le, ih, List.forall_mem_cons]

theorem orderedItems_iff {items : List Json} :
    OrderedItems items ↔ ∀ item ∈ items, item.Ordered := by
  induction items with
  | nil => simp [OrderedItems]
  | cons item rest ih => simp [OrderedItems, ih]

theorem orderedMembers_iff {members : List (String × Json)} :
    OrderedMembers members ↔ ∀ member ∈ members, member.2.Ordered := by
  induction members with
  | nil => simp [OrderedMembers]
  | cons member rest ih => simp [OrderedMembers, ih]

/-! ## Arranging -/

theorem arrangedItems_eq_map (items : List Json) : arrangedItems items = items.map arranged := by
  induction items with
  | nil => rfl
  | cons item rest ih => rw [arrangedItems, ih, List.map_cons]

/-- Members whose names increase are only arranged inside. -/
theorem arrangedMembers_of_increase {members : List (String × Json)}
    (increase : KeysIncrease members)
    (each : ∀ member ∈ members, member.2.arranged = member.2) :
    arrangedMembers members = members := by
  induction members with
  | nil => rfl
  | cons member rest ih =>
      obtain ⟨name, value⟩ := member
      obtain ⟨before, restIncrease⟩ := List.pairwise_cons.mp increase
      have restSame := ih restIncrease fun other inRest =>
        each other (List.mem_cons_of_mem _ inRest)
      have single : (rest.any (·.1 = name)) = false := by
        simp only [List.any_eq_false, decide_eq_true_eq]
        intro other inRest same
        exact KeyOrder.irrefl name (same ▸ before other inRest)
      simp only [arrangedMembers, restSame, single, Bool.false_eq_true, if_false,
        each (name, value) (List.mem_cons_self ..)]
      exact SortedMap.insertEntry_of_before before

/-- Arranging leaves an ordered value as it is. -/
theorem arranged_of_ordered {json : Json} (ordered : json.Ordered) : json.arranged = json := by
  induction json using Json.induction with
  | null => rfl
  | bool value => rfl
  | integer value => rfl
  | real value => rfl
  | text value => rfl
  | array items each =>
      have allOrdered : ∀ item ∈ items, item.Ordered := orderedItems_iff.mp ordered
      have same : items.map arranged = items.map id :=
        List.map_congr_left fun item member => each item member (allOrdered item member)
      rw [arranged, arrangedItems_eq_map, same, List.map_id]
  | object members each =>
      obtain ⟨increase, allOrdered⟩ : KeysIncrease members ∧ OrderedMembers members := ordered
      rw [arranged, arrangedMembers_of_increase increase fun member inMembers =>
        each member inMembers (orderedMembers_iff.mp allOrdered member inMembers)]

theorem arrangedMembers_of_ordered {members : List (String × Json)}
    (increase : KeysIncrease members) (ordered : OrderedMembers members) :
    arrangedMembers members = members :=
  arrangedMembers_of_increase increase fun member inMembers =>
    arranged_of_ordered (orderedMembers_iff.mp ordered member inMembers)

end Homeplan.Json
