import Homeplan.Catalog
import Homeplan.Proofs.Capability
import Homeplan.Proofs.FirstDefect
import Homeplan.Proofs.SortedMap

namespace Homeplan

/-! Which device types a catalog knows, and when custom types can be added to it.

A catalog is compared with a plain table: `Catalog.Lists` says that its lookups are the rows of the
table.  The built-in catalog lists the built-in rows, and an extension appends the rows of the
custom types.
-/

theorem DeviceClass.ofName?_eq_some_iff {name : String} {deviceClass : DeviceClass} :
    DeviceClass.ofName? name = some deviceClass ↔ deviceClass.name = name := by
  constructor
  · intro found
    simpa using List.find?_some found
  · intro same
    subst same
    cases deviceClass <;> rfl

/-- A device type as a table lists it. -/
structure TypeRow where
  id : String
  displayName : String
  deviceClass : DeviceClass
  /-- The capabilities of the type itself, without those that its class implies. -/
  capabilities : List Capability

namespace TypeRow

def entry (row : TypeRow) : CatalogEntry :=
  ⟨row.id, row.displayName, row.deviceClass, .ofList row.capabilities⟩

/-- Whether devices of the type are window frames, by their class or by the type itself. -/
def IsFrame (row : TypeRow) : Prop :=
  row.deviceClass.impliedCapability = .windowFrame ∨ .windowFrame ∈ row.capabilities

theorem allCapabilities_contains (row : TypeRow) (capability : Capability) :
    row.entry.allCapabilities.contains capability = true ↔
      row.deviceClass.impliedCapability = capability ∨ capability ∈ row.capabilities := by
  rw [CatalogEntry.allCapabilities, Capabilities.contains_union, DeviceClass.impliedCapabilities,
    Capabilities.contains_ofList, List.mem_singleton, eq_comm]
  exact or_congr Iff.rfl (Capabilities.contains_ofList _ _)

end TypeRow

def CustomType.row? (type : CustomType) : Option TypeRow :=
  (DeviceClass.ofName? type.className).map
    fun deviceClass => ⟨type.id, type.displayName, deviceClass, type.capabilities⟩

/-- The rows of some custom types, one for each type. -/
def CustomType.Rows : List CustomType → List TypeRow → Prop :=
  List.Forall₂ fun type row => type.row? = some row

theorem CustomType.Rows.eq_filterMap {types : List CustomType} {rows : List TypeRow}
    (described : CustomType.Rows types rows) : rows = types.filterMap CustomType.row? := by
  induction described with
  | nil => rfl
  | cons first _ ih => simp [first, ← ih]

theorem CustomType.Rows.map_id {types : List CustomType} {rows : List TypeRow}
    (described : CustomType.Rows types rows) : rows.map (·.id) = types.map (·.id) := by
  induction described with
  | nil => rfl
  | cons first _ ih =>
      obtain ⟨deviceClass, _, rfl⟩ := Option.map_eq_some_iff.mp first
      simp [ih]

theorem CustomType.exists_rows_iff {types : List CustomType} :
    (∃ rows, CustomType.Rows types rows) ↔
      ∀ type ∈ types, ∃ deviceClass, DeviceClass.name deviceClass = type.className := by
  unfold CustomType.Rows
  rw [exists_forall₂_iff]
  simp [CustomType.row?, DeviceClass.ofName?_eq_some_iff]

namespace Catalog

/-- The row of a type that has a row of capabilities. -/
def row? : String × String × DeviceClass → Option TypeRow
  | (id, displayName, deviceClass) => (Capabilities.typeRows.find? (·.1 = id)).map
      fun row => ⟨id, displayName, deviceClass, row.2⟩

def builtinRows : List TypeRow := builtinTypes.filterMap row?

/-- The catalog knows exactly the types of a table, and no two rows share their identifier. -/
structure Lists (catalog : Catalog) (rows : List TypeRow) : Prop where
  distinct : (rows.map (·.id)).Nodup
  get?_iff : ∀ {id entry}, catalog.get? id = some entry ↔
    ∃ row ∈ rows, row.id = id ∧ row.entry = entry

def addRow (catalog : Catalog) (row : TypeRow) : Catalog :=
  ⟨catalog.entries.insert row.id row.entry⟩

theorem get?_addRow (catalog : Catalog) (row : TypeRow) (id : String) :
    (catalog.addRow row).get? id = if id = row.id then some row.entry else catalog.get? id :=
  SortedMap.get?_insert catalog.entries row.id id row.entry

theorem get?_addRow_eq_none_iff {catalog : Catalog} {row : TypeRow} {id : String} :
    (catalog.addRow row).get? id = none ↔ id ≠ row.id ∧ catalog.get? id = none := by
  rw [get?_addRow]
  split <;> simp_all

/-- The types of other rows are new behind a row if and only if they were new before and have other
identifiers. -/
theorem fresh_addRow_iff {catalog : Catalog} {row : TypeRow} {rest : List TypeRow} :
    (∀ other ∈ rest, (catalog.addRow row).get? other.id = none) ↔
      row.id ∉ rest.map (·.id) ∧ ∀ other ∈ rest, catalog.get? other.id = none := by
  simp only [get?_addRow_eq_none_iff, imp_and, forall_and, List.mem_map, not_exists, not_and]

theorem contains_eq_false_iff {catalog : Catalog} {id : String} :
    catalog.contains id = false ↔ catalog.get? id = none :=
  Option.isSome_eq_false_iff.trans Option.isNone_iff_eq_none

/-- A custom type can be added if and only if its class is known and its identifier is new. -/
theorem add_eq_ok_iff {catalog next : Catalog} {type : CustomType} :
    catalog.add type = .ok next ↔
      ∃ row, type.row? = some row ∧ catalog.get? row.id = none ∧ next = catalog.addRow row := by
  unfold add CustomType.row?
  cases DeviceClass.ofName? type.className with
  | none => simp
  | some deviceClass =>
      simp only [Option.map_some, Option.some.injEq, exists_eq_left', ← contains_eq_false_iff]
      cases catalog.contains type.id with
      | true => simp
      | false => simp [addRow, TypeRow.entry, eq_comm]

namespace Lists

variable {catalog : Catalog} {rows : List TypeRow} (listed : catalog.Lists rows)
include listed

theorem contains_iff {id : String} : catalog.contains id = true ↔ id ∈ rows.map (·.id) := by
  have found : catalog.contains id = true ↔ ∃ entry, catalog.get? id = some entry :=
    catalog.entries.contains_iff
  simp [found, listed.get?_iff]

theorem addRow {row : TypeRow} (fresh : row.id ∉ rows.map (·.id)) :
    (catalog.addRow row).Lists (rows ++ [row]) where
  distinct := by
    simpa [List.nodup_append] using ⟨listed.distinct, by simpa using fresh⟩
  get?_iff := by
    intro id entry
    rw [get?_addRow]
    by_cases own : id = row.id
    · subst own
      have absent : ∀ other ∈ rows, other.id ≠ row.id := fun other member same =>
        fresh (List.mem_map.mpr ⟨other, member, same⟩)
      simp only [if_true, Option.some.injEq, List.mem_append, List.mem_singleton]
      constructor
      · intro own
        subst own
        exact ⟨row, Or.inr rfl, rfl, rfl⟩
      · intro listedRow
        obtain ⟨other, member | rfl, same, entryOf⟩ := listedRow
        · exact absurd same (absent other member)
        · exact entryOf
    · rw [if_neg own, listed.get?_iff]
      constructor
      · intro found
        obtain ⟨other, member, found⟩ := found
        exact ⟨other, List.mem_append_left _ member, found⟩
      · intro found
        obtain ⟨other, member, same, entryOf⟩ := found
        rcases List.mem_append.mp member with member | last
        · exact ⟨other, member, same, entryOf⟩
        · rw [List.mem_singleton.mp last] at same
          exact absurd same.symm own

theorem foldl_addRow {more : List TypeRow} (distinct : ((rows ++ more).map (·.id)).Nodup) :
    (more.foldl Catalog.addRow catalog).Lists (rows ++ more) := by
  induction more generalizing catalog rows with
  | nil => simpa using listed
  | cons row rest ih =>
      have fresh : row.id ∉ rows.map (·.id) := by
        rw [List.map_append, List.nodup_append] at distinct
        exact fun member => distinct.2.2 _ member _ (by simp) rfl
      have reassociated : rows ++ row :: rest = (rows ++ [row]) ++ rest := by simp
      rw [reassociated] at distinct ⊢
      exact ih (listed.addRow fresh) distinct

end Lists

theorem lists_empty : (⟨{}⟩ : Catalog).Lists [] where
  distinct := List.nodup_nil
  get?_iff := by simp [get?]

/-! ## Built-in types -/

section Types

variable {types : List (String × String × DeviceClass)}

theorem filterMap_row? {rows : List TypeRow}
    (described : List.Forall₂ (fun type row => row? type = some row) types rows) :
    types.filterMap row? = rows ∧ rows.map (·.id) = types.map (·.1) := by
  induction described with
  | nil => exact ⟨rfl, rfl⟩
  | @cons type row _ _ first _ ih =>
      have same : row.id = type.1 := by
        obtain ⟨_, _, rfl⟩ := Option.map_eq_some_iff.mp first
        rfl
      simp [first, ih, same]

theorem entryOf_eq_ok_iff {type : String × String × DeviceClass} {entry : CatalogEntry} :
    entryOf type = .ok entry ↔ ∃ row, row? type = some row ∧ row.entry = entry := by
  obtain ⟨id, displayName, deviceClass⟩ := type
  rw [entryOf, row?, Capabilities.ofType?]
  cases Capabilities.typeRows.find? (·.1 = id) <;> simp [TypeRow.entry]

theorem entryOf_eq_error_iff {type : String × String × DeviceClass}
    {missing : MissingCapabilityRow} : entryOf type = .error missing ↔
      Capabilities.ofType? type.1 = none ∧ missing = ⟨type.1⟩ := by
  obtain ⟨id, displayName, deviceClass⟩ := type
  rw [entryOf]
  cases Capabilities.ofType? id <;> simp [eq_comm]

theorem mapM_entryOf_eq_ok_iff {entries : List CatalogEntry} :
    types.mapM entryOf = .ok entries ↔
      ∃ rows, List.Forall₂ (fun type row => row? type = some row) types rows ∧
        rows.map TypeRow.entry = entries := by
  simp only [mapM_eq_ok_iff, entryOf_eq_ok_iff]
  induction types generalizing entries with
  | nil => simp
  | cons type rest ih =>
      simp only [List.forall₂_cons_left_iff, ih]
      constructor
      · rintro ⟨_, _, ⟨row, found, rfl⟩, ⟨rows, described, rfl⟩, rfl⟩
        exact ⟨row :: rows, ⟨row, rows, found, described, rfl⟩, rfl⟩
      · rintro ⟨_, ⟨row, rows, found, described, rfl⟩, rfl⟩
        exact ⟨_, _, ⟨row, found, rfl⟩, ⟨rows, described, rfl⟩, rfl⟩

/-- Types have a catalog if and only if all of them have rows; it holds these rows. -/
theorem ofTypes_eq_ok_iff {catalog : Catalog} : ofTypes types = .ok catalog ↔
    ∃ rows, List.Forall₂ (fun type row => row? type = some row) types rows ∧
      catalog = rows.foldl addRow ⟨{}⟩ := by
  have folded (rows : List TypeRow) :
      (⟨.ofList ((rows.map TypeRow.entry).map fun entry => (entry.id, entry))⟩ : Catalog) =
        rows.foldl addRow ⟨{}⟩ := by
    rw [SortedMap.ofList, List.map_map, List.foldl_map]
    exact (List.foldl_hom Catalog.mk fun _ _ => rfl).symm
  constructor
  · intro resolved
    obtain ⟨_, walked, same⟩ := bind_eq_ok.mp resolved
    obtain ⟨rows, described, rfl⟩ := mapM_entryOf_eq_ok_iff.mp walked
    exact ⟨rows, described, (Except.ok.inj same).symm.trans (folded rows)⟩
  · rintro ⟨rows, described, rfl⟩
    exact bind_eq_ok.mpr ⟨_, mapM_entryOf_eq_ok_iff.mpr ⟨rows, described, rfl⟩,
      congrArg Except.ok (folded rows)⟩

/-- Without a catalog, the first type that has no row is named. -/
theorem ofTypes_stopped {missing : MissingCapabilityRow}
    (failed : ofTypes types = .error missing) :
    ∃ before type after, types = before ++ type :: after ∧
      (∀ other ∈ before, Capabilities.ofType? other.1 ≠ none) ∧
      Capabilities.ofType? type.1 = none ∧ missing = ⟨type.1⟩ := by
  rcases bind_eq_error.mp failed with walk | never
  · obtain ⟨before, type, after, rfl, passed, stopped⟩ := mapM_stopped walk
    refine ⟨before, type, after, rfl, fun other member absent => ?_,
      entryOf_eq_error_iff.mp stopped⟩
    obtain ⟨entry, taken⟩ := passed other member
    rw [entryOf_eq_error_iff.mpr ⟨absent, rfl⟩] at taken
    cases taken
  · obtain ⟨_, _, impossible⟩ := never
    cases impossible

end Types

theorem builtinRows_described :
    List.Forall₂ (fun type row => row? type = some row) builtinTypes builtinRows := by
  obtain ⟨rows, described, _⟩ := ofTypes_eq_ok_iff.mp ofTypes_builtinTypes
  rwa [builtinRows, (filterMap_row? described).1]

theorem builtinRows_ids : builtinRows.map (·.id) = builtinTypes.map (·.1) :=
  (filterMap_row? builtinRows_described).2

theorem builtin_eq_foldl : builtin = builtinRows.foldl addRow ⟨{}⟩ := by
  obtain ⟨rows, described, resolved⟩ := ofTypes_eq_ok_iff.mp ofTypes_builtinTypes
  rwa [builtinRows, (filterMap_row? described).1]

theorem builtin_lists : builtin.Lists builtinRows := by
  have distinct : (builtinRows.map (·.id)).Nodup := by
    rw [builtinRows_ids]
    decide
  rw [builtin_eq_foldl]
  exact lists_empty.foldl_addRow distinct

section Extension

variable {catalog next : Catalog} {rows : List TypeRow}

theorem extend_cons (catalog : Catalog) (type : CustomType) (rest : List CustomType) :
    catalog.extend (type :: rest) = catalog.add type >>= fun next => next.extend rest :=
  rfl

/-- Custom types can be added one after the other if and only if all of them have rows with
identifiers that are new and differ; then their rows are added in order. -/
theorem extend_eq_ok_iff {types : List CustomType} :
    catalog.extend types = .ok next ↔
      ∃ added, CustomType.Rows types added ∧ (added.map (·.id)).Nodup ∧
        (∀ row ∈ added, catalog.get? row.id = none) ∧ next = added.foldl Catalog.addRow catalog := by
  induction types generalizing catalog with
  | nil => simp [extend, CustomType.Rows, pure, Except.pure, eq_comm]
  | cons type rest ih =>
      simp only [extend_cons, bind_eq_ok, add_eq_ok_iff, ih]
      constructor
      · intro extended
        obtain ⟨_, ⟨row, described, fresh, rfl⟩, added, restDescribed, distinct, restFresh, rfl⟩ :=
          extended
        obtain ⟨new, restFresh⟩ := fresh_addRow_iff.mp restFresh
        exact ⟨row :: added, .cons described restDescribed, List.nodup_cons.mpr ⟨new, distinct⟩,
          List.forall_mem_cons.mpr ⟨fresh, restFresh⟩, rfl⟩
      · intro accepted
        obtain ⟨_, described, distinct, allFresh, rfl⟩ := accepted
        obtain ⟨row, added, first, restDescribed, rfl⟩ := List.forall₂_cons_left_iff.mp described
        obtain ⟨new, distinct⟩ := List.nodup_cons.mp distinct
        obtain ⟨fresh, restFresh⟩ := List.forall_mem_cons.mp allFresh
        exact ⟨_, ⟨row, first, fresh, rfl⟩, added, restDescribed, distinct,
          fresh_addRow_iff.mpr ⟨new, restFresh⟩, rfl⟩

theorem exists_extend_iff (catalog : Catalog) (types : List CustomType) :
    (∃ next, catalog.extend types = .ok next) ↔
      (∀ type ∈ types, ∃ deviceClass, DeviceClass.name deviceClass = type.className) ∧
      (types.map (·.id)).Nodup ∧ ∀ type ∈ types, catalog.get? type.id = none := by
  have sameIds {added : List TypeRow} (described : CustomType.Rows types added) :
      (∀ row ∈ added, catalog.get? row.id = none) ↔
        ∀ type ∈ types, catalog.get? type.id = none := by
    calc
      _ ↔ ∀ id ∈ added.map (·.id), catalog.get? id = none := List.forall_mem_map.symm
      _ ↔ ∀ id ∈ types.map (·.id), catalog.get? id = none := by rw [described.map_id]
      _ ↔ _ := List.forall_mem_map
  simp only [extend_eq_ok_iff, ← CustomType.exists_rows_iff]
  constructor
  · intro extended
    obtain ⟨_, added, described, distinct, fresh, _⟩ := extended
    exact ⟨⟨added, described⟩, described.map_id ▸ distinct, (sameIds described).mp fresh⟩
  · intro accepted
    obtain ⟨⟨added, described⟩, distinct, fresh⟩ := accepted
    exact ⟨_, added, described, described.map_id ▸ distinct, (sameIds described).mpr fresh, rfl⟩

theorem Lists.get?_eq_none_iff (listed : catalog.Lists rows) {id : String} :
    catalog.get? id = none ↔ id ∉ rows.map (·.id) := by
  rw [← contains_eq_false_iff, Bool.eq_false_iff, ne_eq, listed.contains_iff]

theorem Lists.extend_eq_ok_iff (listed : catalog.Lists rows) {types : List CustomType} :
    catalog.extend types = .ok next ↔
      ∃ added, CustomType.Rows types added ∧ ((rows ++ added).map (·.id)).Nodup ∧
        next = added.foldl Catalog.addRow catalog := by
  have apart (added : List TypeRow) : ((rows ++ added).map (·.id)).Nodup ↔
      (added.map (·.id)).Nodup ∧ ∀ row ∈ added, catalog.get? row.id = none := by
    simp only [List.map_append, List.nodup_append, listed.distinct, true_and,
      listed.get?_eq_none_iff]
    refine and_congr Iff.rfl ⟨fun apart row member taken => ?_, fun fresh id taken _ member => ?_⟩
    · exact apart row.id taken row.id (List.mem_map_of_mem member) rfl
    · obtain ⟨row, inAdded, rfl⟩ := List.mem_map.mp member
      rintro rfl
      exact fresh row inAdded taken
  simp only [Catalog.extend_eq_ok_iff, apart, and_assoc]

theorem Lists.extend (listed : catalog.Lists rows) {types : List CustomType}
    (extended : catalog.extend types = .ok next) :
    next.Lists (rows ++ types.filterMap CustomType.row?) := by
  obtain ⟨added, described, distinct, rfl⟩ := listed.extend_eq_ok_iff.mp extended
  rw [← described.eq_filterMap]
  exact listed.foldl_addRow distinct

theorem Lists.exists_extend_iff (listed : catalog.Lists rows) (types : List CustomType) :
    (∃ next, catalog.extend types = .ok next) ↔
      (∀ type ∈ types, ∃ deviceClass, DeviceClass.name deviceClass = type.className) ∧
      (types.map (·.id)).Nodup ∧ ∀ type ∈ types, type.id ∉ rows.map (·.id) := by
  simp only [Catalog.exists_extend_iff, listed.get?_eq_none_iff]

end Extension

end Catalog

end Homeplan
