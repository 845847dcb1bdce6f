import Homeplan.Proofs.Catalog
import Mathlib.Data.List.Nodup

namespace Homeplan

/-! What an extension makes of a catalog, whatever the catalog holds.

Adding the row of a custom type changes one lookup.  Rows with different identifiers can be added in
any order, so an extension is determined by which types are added and not by their order.
-/

namespace SortedMap

variable {κ : Type u} {α : Type v} [KeyOrder κ] [DecidableEq κ]

theorem size_insert (map : SortedMap κ α) {key : κ} (absent : map.get? key = none) (value : α) :
    (map.insert key value).size = map.size + 1 := by
  have notListed : key ∉ map.entries.map (·.1) := by
    intro listed
    obtain ⟨old, found⟩ := map.mem_keys_iff.mp listed
    simp [absent] at found
  exact (insertEntry_perm notListed).length_eq

end SortedMap

/-- The catalog entry of a custom type: its display name, the class that it names and the set of the
capabilities that it lists. -/
structure CatalogEntry.IsOf (entry : CatalogEntry) (type : CustomType) : Prop where
  id : entry.id = type.id
  displayName : entry.displayName = type.displayName
  deviceClass : entry.deviceClass.name = type.className
  capabilities : entry.capabilities = .ofList type.capabilities

theorem CustomType.isOf_entry {type : CustomType} {row : TypeRow}
    (described : type.row? = some row) : row.entry.IsOf type := by
  obtain ⟨deviceClass, named, rfl⟩ := Option.map_eq_some_iff.mp described
  exact ⟨rfl, rfl, DeviceClass.ofName?_eq_some_iff.mp named, rfl⟩

namespace Catalog

variable {catalog next : Catalog} {rows others : List TypeRow}

/-! ## Adding rows -/

theorem addRow_comm (catalog : Catalog) {first second : TypeRow} (apart : first.id ≠ second.id) :
    (catalog.addRow first).addRow second = (catalog.addRow second).addRow first := by
  have entries : ((catalog.addRow first).addRow second).entries =
      ((catalog.addRow second).addRow first).entries := by
    apply SortedMap.eq_of_get?
    intro id
    have lookups (catalog : Catalog) : catalog.entries.get? id = catalog.get? id := rfl
    simp only [lookups, get?_addRow]
    by_cases isFirst : id = first.id
    · simp [isFirst, apart]
    · simp [isFirst]
  exact congrArg Catalog.mk entries

theorem foldl_addRow_perm (permuted : rows.Perm others) (distinct : (rows.map (·.id)).Nodup)
    (catalog : Catalog) : rows.foldl addRow catalog = others.foldl addRow catalog := by
  apply permuted.foldl_eq'
  intro first firstMember second secondMember catalog
  by_cases same : first.id = second.id
  · rw [List.inj_on_of_nodup_map distinct firstMember secondMember same]
  · exact catalog.addRow_comm same

theorem get?_foldl_addRow_other {id : String} (other : id ∉ rows.map (·.id)) (catalog : Catalog) :
    (rows.foldl addRow catalog).get? id = catalog.get? id := by
  induction rows generalizing catalog with
  | nil => rfl
  | cons row rest ih =>
      obtain ⟨apart, later⟩ := List.ne_and_not_mem_of_not_mem_cons other
      rw [List.foldl_cons, ih later, get?_addRow, if_neg apart]

theorem get?_foldl_addRow_of_mem (distinct : (rows.map (·.id)).Nodup) {row : TypeRow}
    (member : row ∈ rows) (catalog : Catalog) :
    (rows.foldl addRow catalog).get? row.id = some row.entry := by
  induction rows generalizing catalog with
  | nil => contradiction
  | cons first rest ih =>
      obtain ⟨new, distinct⟩ := List.nodup_cons.mp distinct
      rw [List.foldl_cons]
      rcases List.mem_cons.mp member with rfl | later
      · rw [get?_foldl_addRow_other new, get?_addRow, if_pos rfl]
      · exact ih distinct later (catalog.addRow first)

theorem size_foldl_addRow (distinct : (rows.map (·.id)).Nodup)
    (fresh : ∀ row ∈ rows, catalog.get? row.id = none) :
    (rows.foldl addRow catalog).size = catalog.size + rows.length := by
  induction rows generalizing catalog with
  | nil => rfl
  | cons first rest ih =>
      obtain ⟨new, distinct⟩ := List.nodup_cons.mp distinct
      obtain ⟨freshFirst, freshRest⟩ := List.forall_mem_cons.mp fresh
      have grown : (catalog.addRow first).size = catalog.size + 1 :=
        catalog.entries.size_insert freshFirst first.entry
      have stillFresh := fresh_addRow_iff.mpr ⟨new, freshRest⟩
      rw [List.foldl_cons, ih distinct stillFresh, grown, List.length_cons]
      omega

/-! ## Extending a catalog -/

variable {types : List CustomType}

theorem extend_append (catalog : Catalog) (first second : List CustomType) :
    catalog.extend (first ++ second) = catalog.extend first >>= fun next => next.extend second :=
  List.foldlM_append

/-- The catalog has the entries of another one and those of some custom types. -/
structure Extends (next catalog : Catalog) (types : List CustomType) : Prop where
  added : ∀ type ∈ types, ∃ entry, next.get? type.id = some entry ∧ entry.IsOf type
  kept : ∀ id, id ∉ types.map (·.id) → next.get? id = catalog.get? id
  size : next.size = catalog.size + types.length

theorem extends_of_extend (extended : catalog.extend types = .ok next) :
    next.Extends catalog types := by
  obtain ⟨rows, described, distinct, fresh, rfl⟩ := extend_eq_ok_iff.mp extended
  refine ⟨fun type member => ?_, fun id other => ?_, ?_⟩
  · obtain ⟨position, located⟩ := List.mem_iff_getElem?.mp member
    obtain ⟨row, rowLocated, rowOf⟩ := exists_related_of_getElem? described located
    have entryOf := CustomType.isOf_entry rowOf
    refine ⟨row.entry, ?_, entryOf⟩
    rw [← entryOf.id]
    exact get?_foldl_addRow_of_mem distinct (List.mem_of_getElem? rowLocated) catalog
  · rw [← described.map_id] at other
    exact get?_foldl_addRow_other other catalog
  · rw [size_foldl_addRow distinct fresh, described.length_eq]

theorem extend_of_perm {others : List CustomType} (permuted : types.Perm others)
    (extended : catalog.extend types = .ok next) : catalog.extend others = .ok next := by
  have accepted := (catalog.exists_extend_iff types).mp ⟨next, extended⟩
  obtain ⟨supported, typesDistinct, typesNew⟩ := accepted
  obtain ⟨other, otherExtended⟩ := (catalog.exists_extend_iff others).mpr
    ⟨fun type member => supported type (permuted.mem_iff.mpr member),
      (permuted.map (·.id)).nodup_iff.mp typesDistinct,
      fun type member => typesNew type (permuted.mem_iff.mpr member)⟩
  obtain ⟨rows, described, distinct, _, rfl⟩ := extend_eq_ok_iff.mp extended
  obtain ⟨otherRows, otherDescribed, _, _, rfl⟩ := extend_eq_ok_iff.mp otherExtended
  rw [otherExtended]
  have rowsPermuted : rows.Perm otherRows := by
    rw [described.eq_filterMap, otherDescribed.eq_filterMap]
    exact permuted.filterMap _
  rw [foldl_addRow_perm rowsPermuted distinct]

/-- An extension by two lists is one by the first and then by the second, and fails like that.  It
succeeds exactly with types of known classes and with new identifiers that differ, whatever their
order, and adds the entries of these types and nothing else. -/
theorem extends_additively_in_any_order (catalog : Catalog) :
    (∀ first second, catalog.extend (first ++ second) =
      catalog.extend first >>= fun next => next.extend second) ∧
    (∀ types, (∃ next, catalog.extend types = .ok next) ↔
      (∀ type ∈ types, ∃ deviceClass, DeviceClass.name deviceClass = type.className) ∧
      (types.map (·.id)).Nodup ∧ ∀ type ∈ types, catalog.get? type.id = none) ∧
    (∀ types next, catalog.extend types = .ok next → next.Extends catalog types) ∧
    ∀ types others, types.Perm others → ∀ next,
      catalog.extend types = .ok next ↔ catalog.extend others = .ok next :=
  ⟨catalog.extend_append, catalog.exists_extend_iff, fun _ _ => extends_of_extend,
    fun _ _ permuted _ => ⟨extend_of_perm permuted, extend_of_perm permuted.symm⟩⟩

end Catalog

end Homeplan
