import Homeplan.Document.JsonReading
import Homeplan.HousePlan
import Homeplan.Proofs.Document.JsonText
import Homeplan.Proofs.FirstDefect

namespace Homeplan.Document

/-! Readers give back the values that JSON documents were made from.

`Reads` relates a reader to the JSON form of a value.  Every reader has one lemma that says what it
reads, so a record is read field by field and no reader is opened twice.
-/

/-- The rules of JSON where this many lists and objects may still be opened inside each other. -/
def jsonRules (levels : Nat) : Rules := { JsonText.rules with nesting := some levels }

/-- The reader reads the JSON value as the given one, wherever its nesting is allowed. -/
def Reads (read : Reader α) (json : Json) (value : α) : Prop :=
  ∀ levels, json.depth ≤ levels → read (jsonRules levels) json.document = .ok value

namespace Reader

theorem reads_text (value : String) : Reads text (.text value) value := fun _ _ => rfl

theorem reads_bool (value : Bool) : Reads bool (.bool value) value := fun _ _ => rfl

theorem reads_unsigned (value : UInt32) : Reads unsigned (.integer value.toNat) value := by
  intro levels _
  have bound : value.toNat < 4294967296 := value.toNat_lt
  have fits : (0 ≤ (value.toNat : Int) && (value.toNat : Int) < 0x100000000) = true := by
    simp
    omega
  rw [Json.document, unsigned]
  simp only [fits, if_true, Int.toNat_natCast, UInt32.ofNat_toNat]

theorem reads_signed (value : Int32) : Reads signed (.integer value.toInt) value := by
  intro levels _
  have low := value.le_toInt
  have high := value.toInt_lt
  have fits : (-0x80000000 ≤ value.toInt && value.toInt < 0x80000000) = true := by
    simp
    omega
  rw [Json.document, signed]
  simp only [fits, if_true, Int32.ofInt_toInt]

theorem reads_optional {read : Reader α} {json : Json} {value : α} (present : json ≠ .null)
    (reads : Reads read json value) : Reads (optional read) json (some value) := by
  intro levels deep
  have same := reads levels deep
  cases json <;> simp_all [optional, Json.document, bind, Except.bind, pure, Except.pure]

/-- What is read inside one more list or object. -/
theorem inner_bind {levels : Nat} (next : Rules → Except Fault α) :
    ((jsonRules (levels + 1)).inner >>= next) = next (jsonRules levels) := rfl

theorem reads_list {read : Reader α} {form : α → Json} {values : List α}
    (each : ∀ value ∈ values, Reads read (form value) value) :
    Reads (list read) (.array (values.map form)) values := by
  intro levels deep
  cases levels with
  | zero => simp [Json.depth] at deep
  | succ levels =>
      have itemsDeep : ∀ value ∈ values, (form value).depth ≤ levels := by
        rw [Json.depth, Nat.add_le_add_iff_right, Json.depthOfItems_le_iff,
          List.forall_mem_map] at deep
        exact deep
      show ((jsonRules (levels + 1)).inner >>= fun inner =>
        (Json.documents (values.map form)).mapM (read inner)) = _
      rw [inner_bind, mapM_eq_ok_iff, Json.documents_eq_map, List.map_map,
        List.forall₂_map_left_iff, List.forall₂_same]
      exact fun value member => each value member levels (itemsDeep value member)

/-- Reading entries in the order of their keys only ever adds a last entry. -/
theorem foldlM_insert {read : Reader α} {form : α → Json} {rules : Rules}
    {entries : List (String × α)} {map : SortedMap String α}
    (increase : KeysIncrease (map.entries ++ entries))
    (each : ∀ entry ∈ entries, read rules (form entry.2).document = .ok entry.2) :
    (entries.map fun entry => (Document.text entry.1, (form entry.2).document)).foldlM
      (fun (map : SortedMap String α) (member : Document × Document) => do
        let name ← memberName member.1
        let value ← read rules member.2
        return map.insert name value) map = .ok ⟨map.entries ++ entries, increase⟩ := by
  induction entries generalizing map with
  | nil => simp [pure, Except.pure]
  | cons entry rest ih =>
      have after : ∀ other ∈ map.entries, KeyOrder.Before other.1 entry.1 := fun other member =>
        (List.pairwise_append.mp increase).2.2 other member entry (List.mem_cons_self ..)
      have added : (map.insert entry.1 entry.2).entries = map.entries ++ [entry] :=
        SortedMap.insertEntry_of_after after
      have same : (map.insert entry.1 entry.2).entries ++ rest = map.entries ++ entry :: rest := by
        rw [added, List.append_assoc, List.singleton_append]
      have restRead := ih (same ▸ increase) fun other member =>
        each other (List.mem_cons_of_mem _ member)
      simp only [List.map_cons, List.foldlM_cons, memberName, each entry (List.mem_cons_self ..),
        bind, Except.bind, pure, Except.pure] at restRead ⊢
      rw [restRead]
      simp only [same]

theorem reads_dictionary {read : Reader α} (form : α → Json) (map : SortedMap String α)
    (each : ∀ entry ∈ map.entries, Reads read (form entry.2) entry.2) :
    Reads (dictionary read) (.object (map.entries.map fun entry => (entry.1, form entry.2)))
      map := by
  intro levels deep
  cases levels with
  | zero => simp [Json.depth] at deep
  | succ levels =>
      rw [Json.depth, Nat.add_le_add_iff_right, Json.depthOfMembers_le_iff,
        List.forall_mem_map] at deep
      rw [Json.document, Json.memberDocuments_eq_map, List.map_map]
      have start : KeysIncrease (({} : SortedMap String α).entries ++ map.entries) := map.sorted
      exact foldlM_insert start fun entry member => each entry member levels (deep entry member)

theorem reads_choice {names : List String} {ofName? : String → Option α} {name : String} {value : α}
    (found : ofName? name = some value) : Reads (choice names ofName?) (.text name) value := by
  intro levels _
  show (match ofName? name with | some value => _ | none => _) = _
  rw [found]

theorem jsonItems_documents {rules : Rules} {items : List Json}
    (each : ∀ item ∈ items, json rules item.document = .ok item) :
    jsonItems rules (Json.documents items) = .ok items := by
  induction items with
  | nil => rfl
  | cons item rest ih =>
      have restRead := ih fun other member => each other (List.mem_cons_of_mem _ member)
      rw [Json.documents, jsonItems, each item (List.mem_cons_self ..), restRead]
      rfl

theorem jsonMembers_documents {rules : Rules} {members : List (String × Json)}
    (each : ∀ member ∈ members, json rules member.2.document = .ok member.2) :
    jsonMembers rules (Json.memberDocuments members) = .ok members := by
  induction members with
  | nil => rfl
  | cons member rest ih =>
      have restRead := ih fun other inRest => each other (List.mem_cons_of_mem _ inRest)
      rw [Json.memberDocuments, jsonMembers, each member (List.mem_cons_self ..), restRead]
      rfl

theorem reads_json (value : Json) : Reads json value value := by
  intro levels deep
  induction value using Json.induction generalizing levels with
  | null => rfl
  | bool value => rfl
  | integer value => rfl
  | real value => rfl
  | text value => rfl
  | array items each =>
      cases levels with
      | zero => simp [Json.depth] at deep
      | succ levels =>
          rw [Json.depth, Nat.add_le_add_iff_right, Json.depthOfItems_le_iff] at deep
          rw [Json.document, json, inner_bind,
            jsonItems_documents fun item member => each item member levels (deep item member)]
          rfl
  | object members each =>
      cases levels with
      | zero => simp [Json.depth] at deep
      | succ levels =>
          rw [Json.depth, Nat.add_le_add_iff_right, Json.depthOfMembers_le_iff] at deep
          rw [Json.document, json, inner_bind,
            jsonMembers_documents fun one member => each one member levels (deep one member)]
          rfl

theorem ofMembers_members (value : Settings) : Settings.ofMembers value.members = value := by
  obtain ⟨members, increase, ordered⟩ := value
  simp only [Settings.ofMembers, Json.arrangedMembers_of_ordered increase ordered]

theorem reads_settings (value : Settings) : Reads settings value.toJson value := by
  intro levels deep
  cases levels with
  | zero => simp [Settings.toJson, Json.depth] at deep
  | succ levels =>
      rw [Settings.toJson, Json.depth, Nat.add_le_add_iff_right, Json.depthOfMembers_le_iff] at deep
      rw [Settings.toJson, Json.document]
      show ((jsonRules (levels + 1)).inner >>= _) = _
      rw [inner_bind,
        jsonMembers_documents fun one member => reads_json one.2 levels (deep one member)]
      exact congrArg Except.ok (ofMembers_members value)

/-! ## Records -/

/-- Reading the members takes the first draft of a record to the second. -/
def Fills (fields : List (RecordField δ)) (members : List (String × Json)) (before after : δ) :
    Prop :=
  ∀ levels, Json.depthOfMembers members ≤ levels →
    (Json.memberDocuments members).foldlM (member fields (jsonRules levels)) before = .ok after

section Fills

variable {δ : Type} {fields : List (RecordField δ)} {before between after : δ}

theorem Fills.append {members more : List (String × Json)}
    (first : Fills fields members before between)
    (second : Fills fields more between after) : Fills fields (members ++ more) before after := by
  intro levels deep
  rw [Json.depthOfMembers_le_iff, List.forall_mem_append] at deep
  rw [Json.memberDocuments_eq_map, List.map_append, List.foldlM_append,
    ← Json.memberDocuments_eq_map, ← Json.memberDocuments_eq_map,
    first levels (Json.depthOfMembers_le_iff.mpr deep.1)]
  exact second levels (Json.depthOfMembers_le_iff.mpr deep.2)

/-- A member for a field that is still empty fills its place. -/
theorem fills_field {name : String} {required : Bool} {place : δ → Option α} {fill : δ → α → δ}
    {read : Reader α} {json : Json} {value : α}
    (found : fields.find? (·.name = name) = some (field name required place fill read))
    (empty : place before = none) (filled : fill before value = after)
    (reads : Reads read json value) : Fills fields [(name, json)] before after := by
  subst filled
  intro levels deep
  have same := reads levels (by simpa [Json.depthOfMembers] using deep)
  have step : member fields (jsonRules levels) before (.text name, json.document) =
      .ok (fill before value) := by
    have unread : (field name required place fill read).isRead before = false := by
      simp [field, empty]
    have taken : (field name required place fill read).read (jsonRules levels) before
        json.document = .ok (fill before value) :=
      bind_eq_ok.mpr ⟨value, same, rfl⟩
    refine bind_eq_ok.mpr ⟨name, rfl, ?_⟩
    simp [found, unread, taken]
  rw [Json.memberDocuments, Json.memberDocuments, List.foldlM_cons, step]
  rfl

/-- A member that is left out where there is no value leaves its place empty. -/
theorem fills_option {name : String} {required : Bool} {place : δ → Option (Option α)}
    {fill : δ → Option α → δ} {read : Reader α} {form : α → Json} {value : Option α}
    (put : Option (Option α) → δ)
    (found : fields.find? (·.name = name) = some (field name required place fill (optional read)))
    (empty : place (put none) = none) (filled : ∀ value, fill (put none) value = put (some value))
    (reads : ∀ value, Reads read (form value) value) (present : ∀ value, form value ≠ .null) :
    Fills fields (Json.ofOption name form value) (put none) (put (value.map some)) := by
  cases value with
  | none => exact fun _ _ => rfl
  | some value =>
      exact fills_field found empty (filled value) (reads_optional (present value) (reads value))

/-- What a draft holds after `fills_option` finishes as the value. -/
theorem getD_map_some (value : Option α) : (value.map some).getD none = value := by
  cases value <;> rfl

/-- A record is read as what its draft finishes to, once its members fill all required fields. -/
theorem reads_record {name : String} {members : List (String × Json)} {start : δ} {finish : δ → α}
    {value : α} (fills : Fills fields members start after)
    (complete : (fields.all fun field => !field.required || field.isRead after) = true)
    (finished : finish after = value) :
    Reads (fun rules document => do
      let draft ← record name fields start rules document
      return finish draft) (.object members) value := by
  intro levels deep
  cases levels with
  | zero => simp [Json.depth] at deep
  | succ levels =>
      rw [Json.depth, Nat.add_le_add_iff_right] at deep
      have missing : fields.find? (fun field => field.required && !field.isRead after) = none := by
        simpa [Bool.or_eq_true, or_iff_not_imp_left] using complete
      refine bind_eq_ok.mpr ⟨after, ?_, congrArg Except.ok finished⟩
      show ((jsonRules (levels + 1)).inner >>= _) = _
      rw [inner_bind]
      refine bind_eq_ok.mpr ⟨after, fills levels deep, ?_⟩
      simp only [missing]

end Fills

end Reader

end Homeplan.Document
