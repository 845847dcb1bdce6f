import Homeplan.Capability
import Mathlib.Data.List.Basic
import Mathlib.Data.Nat.Bitwise

namespace Homeplan

/-! Sets of capabilities hold exactly the capabilities that they are built from.

Everything follows from which bits of the word are set: those at the positions of the listed
capabilities.  No position is shared, and none lies beyond a word of 32 bits.
-/

namespace Capability

theorem all_position (capability : Capability) :
    all[capability.position]? = some capability := by
  cases capability <;> rfl

theorem position_injective {left right : Capability} (same : left.position = right.position) :
    left = right := by
  have found := left.all_position
  rw [same, right.all_position, Option.some.injEq] at found
  exact found.symm

theorem mem_all (capability : Capability) : capability ∈ all :=
  List.mem_of_getElem? capability.all_position

theorem all_in_order : all.Pairwise fun earlier later => earlier.ctorIdx < later.ctorIdx := by
  decide

/-- The bit of a capability in a word of 32 bits. -/
def bit (capability : Capability) : UInt32 := 1 <<< UInt32.ofNat capability.position

theorem toNat_bit (capability : Capability) : capability.bit.toNat = 1 <<< capability.position := by
  cases capability <;> rfl

end Capability

namespace Capabilities

/-! ## Bits -/

@[simp] theorem not_contains_none (capability : Capability) : none.contains capability = false := by
  simp [none, contains]

theorem testBit_insert (set : Capabilities) (added : Capability) (place : Nat) :
    (set.insert added).bits.testBit place = true ↔
      set.bits.testBit place = true ∨ added.position = place := by
  rw [insert, Nat.testBit_or, Bool.or_eq_true, Nat.one_shiftLeft, Nat.testBit_two_pow,
    decide_eq_true_iff]

theorem testBit_foldl_insert (set : Capabilities) (capabilities : List Capability) (place : Nat) :
    (capabilities.foldl insert set).bits.testBit place = true ↔
      set.bits.testBit place = true ∨ ∃ added ∈ capabilities, added.position = place := by
  induction capabilities generalizing set with
  | nil => simp
  | cons first rest ih =>
      rw [List.foldl_cons, ih, testBit_insert, List.exists_mem_cons_iff, or_assoc]

theorem testBit_ofList (capabilities : List Capability) (place : Nat) :
    (ofList capabilities).bits.testBit place = true ↔
      ∃ added ∈ capabilities, added.position = place := by
  simp [ofList, testBit_foldl_insert, none]

theorem eq_of_testBit {left right : Capabilities}
    (same : ∀ place, left.bits.testBit place = true ↔ right.bits.testBit place = true) :
    left = right :=
  congrArg mk (Nat.eq_of_testBit_eq fun place => Bool.eq_iff_iff.mpr (same place))

/-! ## Members -/

theorem contains_ofList (capabilities : List Capability) (capability : Capability) :
    (ofList capabilities).contains capability = true ↔ capability ∈ capabilities := by
  rw [contains, testBit_ofList]
  constructor
  · rintro ⟨added, member, same⟩
    rwa [← Capability.position_injective same]
  · intro member
    exact ⟨capability, member, rfl⟩

theorem contains_union (left right : Capabilities) (capability : Capability) :
    (left.union right).contains capability = true ↔
      left.contains capability = true ∨ right.contains capability = true := by
  simp [union, contains, Nat.testBit_or]

theorem union_ofList (left right : List Capability) :
    (ofList left).union (ofList right) = ofList (left ++ right) := by
  apply eq_of_testBit
  intro place
  simp [union, Nat.testBit_or, testBit_ofList, or_and_right, exists_or]

theorem containsAny_ofList (left right : List Capability) :
    (ofList left).containsAny right = true ↔ ∃ shared ∈ left, shared ∈ right := by
  simp [containsAny, contains_ofList, and_comm]

theorem ofList_eq_iff {left right : List Capability} :
    ofList left = ofList right ↔ ∀ capability, capability ∈ left ↔ capability ∈ right := by
  constructor
  · intro same capability
    rw [← contains_ofList, same, contains_ofList]
  · intro same
    apply eq_of_testBit
    simp [testBit_ofList, same]

theorem isEmpty_ofList (capabilities : List Capability) :
    (ofList capabilities).isEmpty = true ↔ capabilities = [] := by
  have isNone : (ofList capabilities).isEmpty = true ↔ ofList capabilities = ofList [] := by
    rw [isEmpty, decide_eq_true_iff]
    exact ⟨fun noBit => congrArg mk noBit, fun same => congrArg bits same⟩
  rw [isNone, ofList_eq_iff, List.eq_nil_iff_forall_not_mem]
  simp

theorem mem_toList_ofList (capabilities : List Capability) (capability : Capability) :
    capability ∈ (ofList capabilities).toList ↔ capability ∈ capabilities := by
  simp [toList, Capability.mem_all, contains_ofList]

theorem toList_in_order (set : Capabilities) :
    set.toList.Pairwise fun earlier later => earlier.ctorIdx < later.ctorIdx :=
  Capability.all_in_order.filter _

theorem nodup_toList (set : Capabilities) : set.toList.Nodup :=
  set.toList_in_order.imp fun before same => Nat.ne_of_lt before (congrArg Capability.ctorIdx same)

theorem ofList_toList (capabilities : List Capability) :
    ofList (ofList capabilities).toList = ofList capabilities :=
  ofList_eq_iff.mpr (mem_toList_ofList capabilities)

/-! ## Building place by place -/

/-- The walk has added everything in front of its index, so the rest of the array is left. -/
theorem addFrom_eq_foldl (capabilities : Array Capability) (index : Nat) (set : Capabilities) :
    addFrom capabilities index set = (capabilities.toList.drop index).foldl insert set := by
  fun_induction addFrom capabilities index set with
  | case1 index set inBounds ih =>
      have inList : index < capabilities.toList.length := by simpa using inBounds
      rw [ih, List.drop_eq_getElem_cons inList, List.foldl_cons, Array.getElem_toList]
  | case2 index set beyond =>
      rw [List.drop_eq_nil_of_le (by simpa using beyond), List.foldl_nil]

theorem ofArray_toArray (capabilities : List Capability) :
    ofArray capabilities.toArray = ofList capabilities := by
  rw [ofArray, addFrom_eq_foldl, List.drop_zero, ofList]

/-! ## Words of 32 bits -/

/-- The word that holds the listed capabilities. -/
def word (capabilities : List Capability) : UInt32 :=
  capabilities.foldl (fun bits capability => bits ||| capability.bit) 0

theorem toNat_foldl_or {bits : UInt32} {set : Capabilities} (held : bits.toNat = set.bits)
    (capabilities : List Capability) :
    (capabilities.foldl (fun bits capability => bits ||| capability.bit) bits).toNat =
      (capabilities.foldl insert set).bits := by
  induction capabilities generalizing bits set with
  | nil => exact held
  | cons first rest ih =>
      apply ih
      rw [UInt32.toNat_or, Capability.toNat_bit, held, insert]

theorem toNat_word (capabilities : List Capability) :
    (word capabilities).toNat = (ofList capabilities).bits :=
  toNat_foldl_or rfl capabilities

theorem word_and_bit_ne_zero_iff (capabilities : List Capability) (capability : Capability) :
    word capabilities &&& capability.bit ≠ 0 ↔
      (ofList capabilities).contains capability = true := by
  rw [contains, Ne, ← UInt32.toNat_inj, UInt32.toNat_and, toNat_word, Capability.toNat_bit,
    Nat.one_shiftLeft, Nat.and_two_pow]
  simp

/-- A set is what the elements of a list make it, however often and in whatever order they are
listed, and it does not matter whether it is built from the head of the list or place by place.  It
lists its elements once each, in the order of declaration.  No bit is lost in a word of 32 bits, where
a capability is looked up by its bit alone. -/
theorem behave_as_sets (left right : List Capability) :
    ofArray left.toArray = ofList left ∧
    (∀ capability, (ofList left).contains capability = true ↔ capability ∈ left) ∧
    (ofList left).union (ofList right) = ofList (left ++ right) ∧
    ((ofList left).containsAny right = true ↔ ∃ shared ∈ left, shared ∈ right) ∧
    ((ofList left).isEmpty = true ↔ left = []) ∧
    (ofList left = ofList right ↔ ∀ capability, capability ∈ left ↔ capability ∈ right) ∧
    (∀ capability, capability ∈ (ofList left).toList ↔ capability ∈ left) ∧
    (ofList left).toList.Nodup ∧
    ((ofList left).toList.Pairwise fun earlier later => earlier.ctorIdx < later.ctorIdx) ∧
    ofList (ofList left).toList = ofList left ∧
    (word left).toNat = (ofList left).bits ∧
    ∀ capability, word left &&& capability.bit ≠ 0 ↔ capability ∈ left := by
  refine ⟨ofArray_toArray left, contains_ofList left, union_ofList left right,
    containsAny_ofList left right, isEmpty_ofList left, ofList_eq_iff, mem_toList_ofList left,
    nodup_toList _, toList_in_order _, ofList_toList left, toNat_word left, fun capability => ?_⟩
  rw [word_and_bit_ne_zero_iff, contains_ofList]

example : (ofList [.humidity, .shutter, .humidity]).toList = [.shutter, .humidity] := by decide

end Capabilities

end Homeplan
