import Homeplan.Document.Reading
import Homeplan.Proofs.FirstDefect
import Homeplan.Proofs.SortedMap
import Mathlib.Data.List.Induction
import Mathlib.Data.List.Nodup

namespace Homeplan.Document

/-! What a value that was read says about its document.

`Document.field?` finds the place of a field in a document as it is written, whether the record is
written as a mapping or as a list.  A record that is read holds for every field what stands there,
a list what its items hold, and a dictionary what stands behind the last member of each name.
-/

/-- The text of a document that is nothing but a text. -/
def asText : Document → String
  | .text value => value
  | _ => ""

def items : Document → List Document
  | .sequence items => items
  | _ => []

def members : Document → List (Document × Document)
  | .mapping members => members
  | _ => []

/-- The value that stands behind the last member of a name. -/
def lastNamed (name : String) (members : List (Document × Document)) : Option Document :=
  (members.reverse.find? (·.1.asText = name)).map (·.2)

/-- What a document holds for a field of a record: what is behind its name in a mapping, or at its
place in a list. -/
def field? (names : List String) (name : String) : Document → Option Document
  | .mapping members => lastNamed name members
  | .sequence items => items[names.idxOf name]?
  | _ => none

theorem lastNamed_concat (name : String) (members : List (Document × Document))
    (member : Document × Document) :
    lastNamed name (members ++ [member]) =
      if member.1.asText = name then some member.2 else lastNamed name members := by
  unfold lastNamed
  rw [List.reverse_append, List.reverse_singleton, List.singleton_append, List.find?_cons]
  by_cases same : member.1.asText = name <;> simp [same]

theorem lastNamed_cons (name : String) (member : Document × Document)
    (later : List (Document × Document)) :
    lastNamed name (member :: later) =
      (lastNamed name later).or (if member.1.asText = name then some member.2 else none) := by
  unfold lastNamed
  rw [List.reverse_cons, List.find?_append]
  by_cases same : member.1.asText = name <;>
    cases found : later.reverse.find? (·.1.asText = name) <;> simp [same]

theorem exists_lastNamed {members : List (Document × Document)} {member : Document × Document}
    (written : member ∈ members) : ∃ last, lastNamed member.1.asText members = some last := by
  have named : (members.reverse.find? (·.1.asText = member.1.asText)).isSome = true :=
    List.find?_isSome.mpr ⟨member, List.mem_reverse.mpr written, by simp⟩
  obtain ⟨last, found⟩ := Option.isSome_iff_exists.mp named
  exact ⟨last.2, by rw [lastNamed, found, Option.map_some]⟩

namespace Reader

theorem memberName_eq_ok_iff {document : Document} {name : String} :
    memberName document = .ok name ↔ document = .text name := by
  cases document <;> simp [memberName]

@[simp] theorem field_name (name : String) (required : Bool) (place : δ → Option α)
    (fill : δ → α → δ) (read : Reader α) : (field name required place fill read).name = name := rfl

theorem field_read_eq_ok_iff {name : String} {required : Bool} {place : δ → Option α}
    {fill : δ → α → δ} {read : Reader α} {rules : Rules} {before after : δ} {document : Document} :
    (field name required place fill read).read rules before document = .ok after ↔
      ∃ value, read rules document = .ok value ∧ fill before value = after := by
  simp [field, bind_eq_ok, pure, Except.pure]

section Record

variable {δ : Type} {fields : List (RecordField δ)} {rules : Rules} {own : RecordField δ}
  {holds : Option Document → δ → Prop}

/-- A field keeps what holds of another one. -/
def Frames (fields : List (RecordField δ)) (rules : Rules) (own : RecordField δ)
    (holds : Option Document → δ → Prop) : Prop :=
  ∀ other ∈ fields, other.name ≠ own.name → ∀ found before after document,
    other.read rules before document = .ok after → holds found before → holds found after

theorem member_field (distinct : (fields.map (·.name)).Nodup) (listed : own ∈ fields)
    (reads : ∀ before after document, own.read rules before document = .ok after →
      holds (some document) after)
    (frames : Frames fields rules own holds) {before after : δ}
    {one : Document × Document} {found : Option Document}
    (read : member fields rules before one = .ok after) (holdsBefore : holds found before) :
    holds (if one.1.asText = own.name then some one.2 else found) after := by
  obtain ⟨name, named, later⟩ := bind_eq_ok.mp read
  have written : one.1.asText = name := by rw [memberName_eq_ok_iff.mp named, asText]
  rw [written]
  split at later
  · rename_i other located
    have inFields := List.mem_of_find?_eq_some located
    have otherName : other.name = name := by simpa using List.find?_some located
    split at later
    · cases later
    · by_cases same : name = own.name
      · obtain rfl : other = own :=
          List.inj_on_of_nodup_map distinct inFields listed (otherName.trans same)
        rw [if_pos same]
        exact reads _ _ _ later
      · rw [if_neg same]
        exact frames other inFields (otherName ▸ same) _ _ _ _ later holdsBefore
  · rename_i unknown
    have foreign : name ≠ own.name := by
      intro same
      have passedOver := List.find?_eq_none.mp unknown own listed
      simp [same] at passedOver
    split at later
    · cases later
      rwa [if_neg foreign]
    · cases later

theorem members_field (distinct : (fields.map (·.name)).Nodup) (listed : own ∈ fields)
    (reads : ∀ before after document, own.read rules before document = .ok after →
      holds (some document) after)
    (frames : Frames fields rules own holds) {before after : δ}
    {members : List (Document × Document)}
    (read : members.foldlM (member fields rules) before = .ok after)
    (initially : holds none before) : holds (lastNamed own.name members) after := by
  -- From the end, since the last member of a name is the one that counts.
  induction members using List.reverseRecOn generalizing after with
  | nil =>
      cases read
      exact initially
  | append_singleton earlier last ih =>
      rw [List.foldlM_append] at read
      obtain ⟨between, readEarlier, readLast⟩ := bind_eq_ok.mp read
      have lastRead : member fields rules between last = .ok after := by
        simpa [bind_eq_ok, pure, Except.pure] using readLast
      rw [lastNamed_concat]
      exact member_field distinct listed reads frames lastRead (ih readEarlier)

/-- A record written as a list: the field is still to come, or it has been read already. -/
theorem positional_field {record : String} {count : Nat}
    (reads : ∀ before after document, own.read rules before document = .ok after →
      holds (some document) after) {rest : List (RecordField δ)}
    (distinct : (rest.map (·.name)).Nodup) (frames : Frames rest rules own holds)
    {before after : δ} {items : List Document}
    (read : positional record count rules rest items before = .ok after) :
    (own ∈ rest → holds none before →
      holds items[(rest.map (·.name)).idxOf own.name]? after) ∧
    (own.name ∉ rest.map (·.name) → ∀ found, holds found before → holds found after) := by
  induction rest generalizing items before with
  | nil =>
      have same : after = before := by
        cases items with
        | nil =>
            cases read
            rfl
        | cons item items =>
            unfold positional at read
            split at read
            · exact (Except.ok.inj read).symm
            · cases read
      subst same
      exact ⟨fun member => by simp at member, fun _ _ kept => kept⟩
  | cons field others ih =>
      cases items with
      | nil =>
          have same : after = before := by
            unfold positional at read
            split at read
            · cases read
            · exact (Except.ok.inj read).symm
          subst same
          exact ⟨fun _ initially => by simpa using initially, fun _ _ kept => kept⟩
      | cons item items =>
          obtain ⟨between, fieldRead, othersRead⟩ := bind_eq_ok.mp read
          have apartFromOthers := (List.nodup_cons.mp distinct).1
          have othersFrame : Frames others rules own holds := fun other member =>
            frames other (List.mem_cons_of_mem _ member)
          obtain ⟨toCome, passed⟩ := ih (List.nodup_cons.mp distinct).2 othersFrame othersRead
          constructor
          · intro member initially
            rw [List.map_cons, List.idxOf_cons]
            by_cases same : field.name = own.name
            · have isOwn : own = field := by
                rcases List.mem_cons.mp member with isField | inOthers
                · exact isField
                · exact absurd (List.mem_map.mpr ⟨own, inOthers, same.symm⟩) apartFromOthers
              subst isOwn
              simpa using passed apartFromOthers _ (reads _ _ _ fieldRead)
            · have inOthers : own ∈ others := by
                rcases List.mem_cons.mp member with isField | inOthers
                · exact absurd (isField ▸ rfl) same
                · exact inOthers
              have unread :=
                frames field (List.mem_cons_self ..) same _ _ _ _ fieldRead initially
              have skipped : (field.name == own.name) = false := beq_eq_false_iff_ne.mpr same
              simpa [skipped] using toCome inOthers unread
          · intro absent found kept
            rw [List.map_cons, List.mem_cons, not_or] at absent
            exact passed absent.2 found
              (frames field (List.mem_cons_self ..) (Ne.symm absent.1) _ _ _ _ fieldRead kept)

variable (holds) in
/-- What holds after a field was read, and is kept by the other fields, holds of a record with what
its document has for the field. -/
theorem record_field {record : String} {start draft : δ} {outer : Rules} {document : Document}
    (distinct : (fields.map (·.name)).Nodup) (listed : own ∈ fields)
    (opened : outer.inner = .ok rules)
    (reads : ∀ before after document, own.read rules before document = .ok after →
      holds (some document) after)
    (frames : Frames fields rules own holds) (initially : holds none start)
    (read : Reader.record record fields start outer document = .ok draft) :
    holds (document.field? (fields.map (·.name)) own.name) draft := by
  unfold Reader.record at read
  split at read
  · obtain ⟨inner, innerOpened, later⟩ := bind_eq_ok.mp read
    obtain rfl := Except.ok.inj (opened.symm.trans innerOpened)
    obtain ⟨filled, membersRead, complete⟩ := bind_eq_ok.mp later
    split at complete
    · cases complete
    · obtain rfl := Except.ok.inj complete
      exact members_field distinct listed reads frames membersRead initially
  · obtain ⟨inner, innerOpened, later⟩ := bind_eq_ok.mp read
    obtain rfl := Except.ok.inj (opened.symm.trans innerOpened)
    exact (positional_field reads distinct frames later).1 listed initially
  · cases read

theorem record_opened {record : String} {start draft : δ} {outer : Rules} {document : Document}
    (read : Reader.record record fields start outer document = .ok draft) :
    ∃ inner, outer.inner = .ok inner := by
  unfold Reader.record at read
  split at read
  · obtain ⟨inner, opened, _⟩ := bind_eq_ok.mp read
    exact ⟨inner, opened⟩
  · obtain ⟨inner, opened, _⟩ := bind_eq_ok.mp read
    exact ⟨inner, opened⟩
  · cases read

/-- A field leaves some part of the draft as it is. -/
def Leaves (other : RecordField δ) (part : δ → α) : Prop :=
  ∀ rules before after document, other.read rules before document = .ok after →
    part after = part before

theorem leaves_field {name : String} {required : Bool} {place : δ → Option β} {fill : δ → β → δ}
    {read : Reader β} {part : δ → α} (apart : ∀ draft value, part (fill draft value) = part draft) :
    Leaves (field name required place fill read) part := by
  intro rules before after document otherRead
  obtain ⟨value, _, rfl⟩ := field_read_eq_ok_iff.mp otherRead
  exact apart before value

/-- A field with a place of its own has there what is read from the document, if anything. -/
theorem record_kept (place : δ → Option α) {record name : String} {required : Bool}
    {fill : δ → α → δ} {read : Reader α} {start draft : δ} {outer : Rules} {document : Document}
    (distinct : (fields.map (·.name)).Nodup) (listed : field name required place fill read ∈ fields)
    (filled : ∀ draft value, place (fill draft value) = some value)
    (apart : ∀ other ∈ fields, other.name ≠ name → Leaves other place) (empty : place start = none)
    (accepted : Reader.record record fields start outer document = .ok draft) :
    ∃ inner, outer.inner = .ok inner ∧
      Option.Rel (fun written value => read inner written = .ok value)
        (document.field? (fields.map (·.name)) name) (place draft) := by
  obtain ⟨inner, opened⟩ := record_opened accepted
  refine ⟨inner, opened, record_field (fun found draft => Option.Rel _ found (place draft))
    distinct listed opened ?_ ?_ (empty ▸ .none) accepted⟩
  · intro before after written fieldRead
    obtain ⟨value, valueRead, rfl⟩ := field_read_eq_ok_iff.mp fieldRead
    rw [filled]
    exact .some valueRead
  · intro other member different found before after written otherRead kept
    rwa [apart other member different inner before after written otherRead]

/-- The value that is read from what a document has, or a default where it has nothing. -/
def Settled (read : Document → Except Fault α) (default : α) : Option Document → α → Prop
  | none, value => value = default
  | some written, value => read written = .ok value

/-- A field that replaces a part of the draft settles this part. -/
theorem record_settled (part : δ → α) {record name : String} {required : Bool}
    {place : δ → Option α} {fill : δ → α → δ} {read : Reader α} {start draft : δ} {outer : Rules}
    {document : Document} (distinct : (fields.map (·.name)).Nodup)
    (listed : field name required place fill read ∈ fields)
    (filled : ∀ draft value, part (fill draft value) = value)
    (apart : ∀ other ∈ fields, other.name ≠ name → Leaves other part)
    (accepted : Reader.record record fields start outer document = .ok draft) :
    ∃ inner, Settled (read inner) (part start)
      (document.field? (fields.map (·.name)) name) (part draft) := by
  obtain ⟨inner, opened⟩ := record_opened accepted
  refine ⟨inner, record_field (fun found draft => Settled _ (part start) found (part draft))
    distinct listed opened ?_ ?_ rfl accepted⟩
  · intro before after written fieldRead
    obtain ⟨value, valueRead, rfl⟩ := field_read_eq_ok_iff.mp fieldRead
    rwa [filled]
  · intro other member different found before after written otherRead settled
    rwa [apart other member different inner before after written otherRead]

end Record

/-! ## Lists and dictionaries -/

section Containers

variable {read : Reader α} {outer : Rules} {document : Document}

theorem list_eq_ok {values : List α} (accepted : list read outer document = .ok values) :
    ∃ inner, outer.inner = .ok inner ∧
      List.Forall₂ (fun item value => read inner item = .ok value) document.items values := by
  cases document with
  | sequence items =>
      obtain ⟨inner, opened, itemsRead⟩ := bind_eq_ok.mp accepted
      exact ⟨inner, opened, mapM_eq_ok_iff.mp itemsRead⟩
  | _ => cases accepted

/-- A dictionary has, under every key, what the last member of this name holds. -/
theorem dictionary_eq_ok {map : SortedMap String α}
    (accepted : dictionary read outer document = .ok map) :
    ∃ inner, outer.inner = .ok inner ∧
      ∀ key, Option.Rel (fun written value => read inner written = .ok value)
        (lastNamed key document.members) (map.get? key) := by
  cases document with
  | mapping members =>
      obtain ⟨inner, opened, membersRead⟩ := bind_eq_ok.mp accepted
      refine ⟨inner, opened, fun key => ?_⟩
      clear accepted
      dsimp only [Document.members]
      induction members using List.reverseRecOn generalizing map with
      | nil =>
          cases membersRead
          exact .none
      | append_singleton earlier last ih =>
          rw [List.foldlM_append] at membersRead
          obtain ⟨between, readEarlier, readLast⟩ := bind_eq_ok.mp membersRead
          simp only [List.foldlM_cons, List.foldlM_nil, bind_pure] at readLast
          obtain ⟨name, named, later⟩ := bind_eq_ok.mp readLast
          obtain ⟨value, valueRead, inserted⟩ := bind_eq_ok.mp later
          cases inserted
          have written : last.1.asText = name := by rw [memberName_eq_ok_iff.mp named, asText]
          rw [lastNamed_concat, SortedMap.get?_insert, written]
          by_cases same : key = name
          · rw [if_pos same, if_pos same.symm]
            exact .some valueRead
          · rw [if_neg same, if_neg (Ne.symm same)]
            exact ih readEarlier
  | _ => cases accepted

end Containers

end Reader

end Homeplan.Document
