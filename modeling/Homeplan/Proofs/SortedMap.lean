import Homeplan.SortedMap

namespace Homeplan.SortedMap

/-! Lookups in sorted maps.

What an insertion does to a map is said once, by its effect on `get?`.  The entries, the keys and
the values of a map are then read off its lookups.
-/

variable {κ : Type u} {α : Type v} [KeyOrder κ] [DecidableEq κ]

@[simp] theorem get?_empty (key : κ) : ({} : SortedMap κ α).get? key = none := rfl

omit [KeyOrder κ] in
theorem lookup_pair_cons (key first : κ) (old : α) (rest : List (κ × α)) :
    ((first, old) :: rest).lookup key = if key = first then some old else rest.lookup key := by
  by_cases same : key = first
  · simp [same]
  · have differs : (key == first) = false := beq_false_of_ne same
    simp [List.lookup_cons, differs, same]

theorem lookup_insertEntry (key other : κ) (value : α) (entries : List (κ × α)) :
    (insertEntry key value entries).lookup other =
      if other = key then some value else entries.lookup other := by
  induction entries with
  | nil => exact lookup_pair_cons other key value []
  | cons head rest ih =>
      obtain ⟨first, old⟩ := head
      unfold insertEntry
      split
      · exact lookup_pair_cons other key value _
      · rename_i notBefore
        split
        · rename_i after
          have different : first ≠ key := fun same => KeyOrder.irrefl key (same ▸ after)
          rw [lookup_pair_cons, ih, lookup_pair_cons]
          by_cases same : other = first
          · simp [same, different]
          · simp [same]
        · rename_i notAfter
          have replaced : key = first := KeyOrder.connected notBefore notAfter
          rw [lookup_pair_cons, lookup_pair_cons, ← replaced]
          by_cases same : other = key <;> simp [same]

/-- An insertion changes the lookup of its own key and no other. -/
theorem get?_insert (map : SortedMap κ α) (key other : κ) (value : α) :
    (map.insert key value).get? other = if other = key then some value else map.get? other :=
  lookup_insertEntry key other value map.entries

theorem get?_alter (map : SortedMap κ α) (key other : κ) (change : Option α → α) :
    (map.alter key change).get? other =
      if other = key then some (change (map.get? key)) else map.get? other :=
  get?_insert map key other _

omit [DecidableEq κ] in
theorem before_of_mem {key : κ} {value : α} {rest : List (κ × α)} {entry : κ × α}
    (sorted : KeysIncrease ((key, value) :: rest)) (member : entry ∈ rest) :
    KeyOrder.Before key entry.1 :=
  (List.pairwise_cons.mp sorted).1 entry member

omit [DecidableEq κ] in
theorem insertEntry_of_before {key : κ} {value : α} {entries : List (κ × α)}
    (before : ∀ entry ∈ entries, KeyOrder.Before key entry.1) :
    insertEntry key value entries = (key, value) :: entries := by
  cases entries with
  | nil => rfl
  | cons head rest => rw [insertEntry, if_pos (before head (List.mem_cons_self ..))]

omit [DecidableEq κ] in
theorem insertEntry_of_after {key : κ} {value : α} {entries : List (κ × α)}
    (after : ∀ entry ∈ entries, KeyOrder.Before entry.1 key) :
    insertEntry key value entries = entries ++ [(key, value)] := by
  induction entries with
  | nil => rfl
  | cons head rest ih =>
      have headBefore := after head (List.mem_cons_self ..)
      have notBefore : ¬ KeyOrder.Before key head.1 := fun before =>
        KeyOrder.irrefl key (KeyOrder.trans before headBefore)
      rw [insertEntry, if_neg notBefore, if_pos headBefore,
        ih fun entry inRest => after entry (List.mem_cons_of_mem _ inRest), List.cons_append]

omit [DecidableEq κ] in
theorem insertEntry_perm {key : κ} {value : α} {entries : List (κ × α)}
    (absent : key ∉ entries.map (·.1)) :
    (insertEntry key value entries).Perm ((key, value) :: entries) := by
  induction entries with
  | nil => exact .refl _
  | cons head rest ih =>
      obtain ⟨other, old⟩ := head
      obtain ⟨different, absentLater⟩ := List.ne_and_not_mem_of_not_mem_cons absent
      unfold insertEntry
      split
      · exact .refl _
      · split
        · exact ((ih absentLater).cons _).trans (.swap ..)
        · exact absurd (KeyOrder.connected ‹_› ‹_›) different

theorem lookup_eq_some_iff {entries : List (κ × α)} (sorted : KeysIncrease entries) {key : κ}
    {value : α} : entries.lookup key = some value ↔ (key, value) ∈ entries := by
  induction entries with
  | nil => simp
  | cons head rest ih =>
      obtain ⟨first, old⟩ := head
      rw [lookup_pair_cons]
      by_cases same : key = first
      · subst same
        have absent : (key, value) ∉ rest := fun member =>
          KeyOrder.irrefl key (before_of_mem sorted member)
        simp [absent, eq_comm]
      · simp [same, ih (List.pairwise_cons.mp sorted).2]

theorem mem_entries_iff (map : SortedMap κ α) {key : κ} {value : α} :
    (key, value) ∈ map.entries ↔ map.get? key = some value :=
  (lookup_eq_some_iff map.sorted).symm

theorem mem_values_iff (map : SortedMap κ α) {value : α} :
    value ∈ map.values ↔ ∃ key, map.get? key = some value := by
  simp [values, mem_entries_iff]

/-- Entries with increasing keys take the place of what the map has under these keys. -/
theorem get?_foldl_insert {entries : List (κ × α)} (sorted : KeysIncrease entries)
    (map : SortedMap κ α) (key : κ) :
    (entries.foldl (fun map entry => map.insert entry.1 entry.2) map).get? key =
      (entries.lookup key).or (map.get? key) := by
  induction entries generalizing map with
  | nil => rfl
  | cons head rest ih =>
      obtain ⟨first, value⟩ := head
      obtain ⟨above, sortedRest⟩ := List.pairwise_cons.mp sorted
      rw [List.foldl_cons, ih sortedRest, get?_insert, lookup_pair_cons]
      by_cases same : key = first
      · have absent : rest.lookup key = none := by
          apply Option.eq_none_iff_forall_ne_some.mpr
          intro other found
          have before := above _ ((lookup_eq_some_iff sortedRest).mp found)
          exact KeyOrder.irrefl first (same ▸ before)
        simp [same ▸ absent, same]
      · simp [same]

theorem contains_iff (map : SortedMap κ α) {key : κ} :
    map.contains key = true ↔ ∃ value, map.get? key = some value :=
  Option.isSome_iff_exists

omit [DecidableEq κ] in
theorem keys_nodup (map : SortedMap κ α) : map.keys.Nodup := by
  refine List.Pairwise.map _ (fun left right before => ?_) map.sorted
  exact fun same => KeyOrder.irrefl right.1 (same ▸ before)

theorem mem_keys_iff (map : SortedMap κ α) {key : κ} :
    key ∈ map.keys ↔ ∃ value, map.get? key = some value := by
  simp [keys, mem_entries_iff]

theorem mem_keys_insert (map : SortedMap κ α) {key other : κ} {value : α} :
    other ∈ (map.insert key value).keys ↔ other = key ∨ other ∈ map.keys := by
  simp only [mem_keys_iff, get?_insert]
  by_cases same : other = key <;> simp [same]

theorem mem_keys_ofList {entries : List (κ × α)} {key : κ} :
    key ∈ (ofList entries).keys ↔ key ∈ entries.map (·.1) := by
  have folded (map : SortedMap κ α) :
      key ∈ (entries.foldl (fun map entry => map.insert entry.1 entry.2) map).keys ↔
        key ∈ map.keys ∨ key ∈ entries.map (·.1) := by
    induction entries generalizing map with
    | nil => simp
    | cons entry rest ih =>
        rw [List.foldl_cons, ih, mem_keys_insert, List.map_cons, List.mem_cons, or_comm (a := key = _),
          or_assoc]
  have start : key ∉ (empty : SortedMap κ α).keys := List.not_mem_nil
  exact (folded empty).trans (or_iff_right start)

omit [KeyOrder κ] [DecidableEq κ] in
/-- Lists that increase by the same order are equal if they have the same members. -/
theorem eq_of_increasing {before : κ → κ → Prop}
    (asymmetric : ∀ first second, before first second → ¬ before second first)
    {left right : List κ} (leftIncreases : left.Pairwise before)
    (rightIncreases : right.Pairwise before) (same : ∀ item, item ∈ left ↔ item ∈ right) :
    left = right := by
  have distinct {list : List κ} (increases : list.Pairwise before) : list.Nodup := by
    apply increases.imp
    intro first second ordered equal
    subst equal
    exact asymmetric first first ordered ordered
  have permuted : left.Perm right :=
    (List.perm_ext_iff_of_nodup (distinct leftIncreases) (distinct rightIncreases)).mpr same
  apply permuted.eq_of_pairwise _ leftIncreases rightIncreases
  intro first second _ _ ordered reversed
  exact absurd reversed (asymmetric first second ordered)

omit [DecidableEq κ] in
/-- The keys of a map stand in one order, however they came in. -/
theorem keys_eq_of_mem_iff {left : SortedMap κ α} {right : SortedMap κ β}
    (same : ∀ key, key ∈ left.keys ↔ key ∈ right.keys) : left.keys = right.keys := by
  have leftIncreases : left.keys.Pairwise KeyOrder.Before := List.pairwise_map.mpr left.sorted
  have rightIncreases : right.keys.Pairwise KeyOrder.Before := List.pairwise_map.mpr right.sorted
  apply eq_of_increasing _ leftIncreases rightIncreases same
  intro first second ordered reversed
  exact KeyOrder.irrefl first (KeyOrder.trans ordered reversed)

/-- A map is determined by its lookups. -/
theorem eq_of_get? {left right : SortedMap κ α}
    (same : ∀ key, left.get? key = right.get? key) : left = right := by
  obtain ⟨leftEntries, leftSorted⟩ := left
  obtain ⟨rightEntries, rightSorted⟩ := right
  have distinct {entries : List (κ × α)} (sorted : KeysIncrease entries) : entries.Nodup := by
    refine List.Pairwise.imp (fun {first second} before equal => ?_) sorted
    exact KeyOrder.irrefl second.1 (equal ▸ before)
  have permuted : leftEntries.Perm rightEntries := by
    refine (List.perm_ext_iff_of_nodup (distinct leftSorted) (distinct rightSorted)).mpr ?_
    intro entry
    rw [← lookup_eq_some_iff leftSorted, ← lookup_eq_some_iff rightSorted]
    exact iff_of_eq (congrArg (· = some entry.2) (same entry.1))
  congr
  refine permuted.eq_of_pairwise ?_ leftSorted rightSorted
  intro first second _ _ before after
  exact absurd (KeyOrder.trans before after) (KeyOrder.irrefl first.1)

end Homeplan.SortedMap
