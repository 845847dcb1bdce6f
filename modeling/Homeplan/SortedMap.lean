namespace Homeplan

/-! Finite maps listed by strictly increasing key.

A map has one representation, so two maps with the same lookups are equal and
every walk over a map visits the keys in order.  Keys are compared by a strict
linear order, which for text is the order of code points.
-/

/-- A decidable strict linear order on keys. -/
class KeyOrder (κ : Type u) where
  Before : κ → κ → Prop
  decide : DecidableRel Before
  irrefl : ∀ key : κ, ¬ Before key key
  trans : ∀ {first second third : κ}, Before first second → Before second third →
    Before first third
  connected : ∀ {first second : κ}, ¬ Before first second → ¬ Before second first → first = second

namespace KeyOrder

instance [KeyOrder κ] (left right : κ) : Decidable (Before left right) := decide left right

/-- The order of keys by their ranks, which tell all keys apart. -/
@[reducible]
def byRank [KeyOrder ρ] (rank : κ → ρ)
    (injective : ∀ {left right : κ}, rank left = rank right → left = right) : KeyOrder κ where
  Before left right := Before (rank left) (rank right)
  decide left right := decide (rank left) (rank right)
  irrefl key := irrefl (rank key)
  trans := trans
  connected notBefore notAfter := injective (connected notBefore notAfter)

instance : KeyOrder Nat where
  Before left right := left < right
  decide left right := Nat.decLt left right
  irrefl := Nat.lt_irrefl
  trans := Nat.lt_trans
  connected notBefore notAfter := Nat.le_antisymm (Nat.not_lt.mp notAfter) (Nat.not_lt.mp notBefore)

instance : KeyOrder UInt32 := byRank UInt32.toNat UInt32.toNat_inj.mp

instance : KeyOrder Char := byRank Char.toNat Char.toNat_inj.mp

/-- Lists are ordered by their first difference; a list comes before its continuations. -/
instance [DecidableEq α] [KeyOrder α] : KeyOrder (List α) where
  Before := List.Lex Before
  decide := List.decidableLex Before
  irrefl list :=
    letI : LT α := ⟨Before⟩
    letI : Std.Irrefl (α := α) (· < ·) := ⟨irrefl⟩
    List.lt_irrefl list
  trans before after :=
    letI : LT α := ⟨Before⟩
    letI : Trans (α := α) (· < ·) (· < ·) (· < ·) := ⟨trans⟩
    List.lt_trans before after
  connected notBefore notAfter :=
    letI : LT α := ⟨Before⟩
    letI : Std.Irrefl (α := α) (· < ·) := ⟨irrefl⟩
    letI : Std.Trichotomous (α := α) (· < ·) := ⟨fun _ _ => connected⟩
    letI : Std.Asymm (α := α) (· < ·) :=
      ⟨fun first _ before after => irrefl first (trans before after)⟩
    List.le_antisymm notAfter notBefore

instance : KeyOrder String := byRank String.toList String.toList_inj.mp

end KeyOrder

/-- Each key comes before all keys after it. -/
def KeysIncrease [KeyOrder κ] (entries : List (κ × α)) : Prop :=
  entries.Pairwise fun left right => KeyOrder.Before left.1 right.1

structure SortedMap (κ : Type u) (α : Type v) [KeyOrder κ] where
  entries : List (κ × α)
  sorted : KeysIncrease entries
deriving DecidableEq

namespace SortedMap

variable {κ : Type u} {α : Type v} [KeyOrder κ]

/-- Puts a value under a key, in place of the value the key had. -/
def insertEntry (key : κ) (value : α) : List (κ × α) → List (κ × α)
  | [] => [(key, value)]
  | (other, old) :: rest =>
      if KeyOrder.Before key other then (key, value) :: (other, old) :: rest
      else if KeyOrder.Before other key then (other, old) :: insertEntry key value rest
      else (key, value) :: rest

theorem mem_insertEntry_key {key : κ} {value : α} {entry : κ × α} {entries : List (κ × α)}
    (member : entry ∈ insertEntry key value entries) : entry.1 = key ∨ entry ∈ entries := by
  induction entries with
  | nil =>
      have same : entry = (key, value) := by simpa [insertEntry] using member
      exact Or.inl (by rw [same])
  | cons head rest ih =>
      unfold insertEntry at member
      split at member
      · rcases List.mem_cons.mp member with same | later
        · exact Or.inl (by rw [same])
        · exact Or.inr later
      · split at member
        · rcases List.mem_cons.mp member with same | later
          · exact Or.inr (List.mem_cons.mpr (Or.inl same))
          · exact (ih later).imp_right (List.mem_cons_of_mem _)
        · rcases List.mem_cons.mp member with same | later
          · exact Or.inl (by rw [same])
          · exact Or.inr (List.mem_cons_of_mem _ later)

theorem keysIncrease_insertEntry (key : κ) (value : α) {entries : List (κ × α)}
    (sorted : KeysIncrease entries) : KeysIncrease (insertEntry key value entries) := by
  induction entries with
  | nil => exact List.pairwise_singleton _ _
  | cons head rest ih =>
      obtain ⟨above, sortedRest⟩ := List.pairwise_cons.mp sorted
      unfold insertEntry
      split
      · rename_i before
        apply List.pairwise_cons.mpr
        refine ⟨?_, sorted⟩
        intro entry member
        rcases List.mem_cons.mp member with same | later
        · exact same ▸ before
        · exact KeyOrder.trans before (above entry later)
      · rename_i notBefore
        split
        · rename_i after
          apply List.pairwise_cons.mpr
          refine ⟨?_, ih sortedRest⟩
          intro entry member
          rcases mem_insertEntry_key member with same | later
          · exact same ▸ after
          · exact above entry later
        · rename_i notAfter
          have same : key = head.1 := KeyOrder.connected notBefore notAfter
          exact List.pairwise_cons.mpr ⟨fun entry member => same ▸ above entry member, sortedRest⟩

def empty : SortedMap κ α := ⟨[], List.Pairwise.nil⟩

instance : EmptyCollection (SortedMap κ α) := ⟨empty⟩

instance : Inhabited (SortedMap κ α) := ⟨empty⟩

/-- Puts a value under a key; a key that is already there gets the new value. -/
def insert (map : SortedMap κ α) (key : κ) (value : α) :
    SortedMap κ α :=
  ⟨insertEntry key value map.entries, keysIncrease_insertEntry key value map.sorted⟩

def get? [DecidableEq κ] (map : SortedMap κ α) (key : κ) : Option α :=
  map.entries.lookup key

def contains [DecidableEq κ] (map : SortedMap κ α) (key : κ) : Bool :=
  (map.get? key).isSome

def keys (map : SortedMap κ α) : List κ := map.entries.map (·.1)

def values (map : SortedMap κ α) : List α := map.entries.map (·.2)

def size (map : SortedMap κ α) : Nat := map.entries.length

def isEmpty (map : SortedMap κ α) : Bool := map.entries.isEmpty

/-- Replaces the value of a key by a function of the value it had, if any. -/
def alter [DecidableEq κ] (map : SortedMap κ α) (key : κ)
    (change : Option α → α) : SortedMap κ α :=
  map.insert key (change (map.get? key))

/-- The map of a list of entries; of a repeated key the last value stays. -/
def ofList (entries : List (κ × α)) : SortedMap κ α :=
  entries.foldl (fun map entry => map.insert entry.1 entry.2) empty

end SortedMap

end Homeplan
