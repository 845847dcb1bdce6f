import Homeplan.Document.Reading
import Mathlib.Data.List.Forall2

namespace Homeplan.Document

/-! Documents that differ in some of their parts only.

Two documents of a record are alike if they have the same members, or items, in the same order, with
values that are related by their field; and so on for lists and dictionaries.  A reader agrees on
related documents if it reads the same from both, and a reader of a record does if its fields do.
-/

section Alike

variable (related : Document → Document → Prop) (relatedBy : String → Document → Document → Prop)

inductive ListAlike : Document → Document → Prop where
  | same (document : Document) : ListAlike document document
  | sequence {left right : List Document} :
      List.Forall₂ related left right → ListAlike (.sequence left) (.sequence right)

/-- Members with the same name, and with values that are related by it. -/
inductive MemberAlike : Document × Document → Document × Document → Prop where
  | same (member : Document × Document) : MemberAlike member member
  | named (name : String) {left right : Document} :
      relatedBy name left right → MemberAlike (.text name, left) (.text name, right)

inductive DictionaryAlike : Document → Document → Prop where
  | same (document : Document) : DictionaryAlike document document
  | mapping {left right : List (Document × Document)} :
      List.Forall₂ (MemberAlike fun _ => related) left right →
        DictionaryAlike (.mapping left) (.mapping right)

/-- Items that are related by the fields they stand for, in their order. -/
inductive ItemsAlike : List String → List Document → List Document → Prop where
  | same (names : List String) (items : List Document) : ItemsAlike names items items
  | cons {name : String} {names : List String} {left right : Document}
      {lefts rights : List Document} :
      relatedBy name left right → ItemsAlike names lefts rights →
        ItemsAlike (name :: names) (left :: lefts) (right :: rights)

inductive RecordAlike (names : List String) : Document → Document → Prop where
  | same (document : Document) : RecordAlike names document document
  | mapping {left right : List (Document × Document)} :
      List.Forall₂ (MemberAlike relatedBy) left right →
        RecordAlike names (.mapping left) (.mapping right)
  | sequence {left right : List Document} :
      ItemsAlike relatedBy names left right → RecordAlike names (.sequence left) (.sequence right)

end Alike

namespace Reader

/-- The reader reads the same from related documents. -/
def Agrees (read : Reader α) (related : Document → Document → Prop) : Prop :=
  ∀ ⦃left right⦄, related left right → ∀ rules, read rules left = read rules right

section Agrees

variable {read : Reader α} {related : Document → Document → Prop}

theorem Agrees.result (agrees : read.Agrees related) (finish : α → β) :
    Agrees (fun rules document => do return finish (← read rules document)) related := by
  intro left right alike rules
  simp only [agrees alike]

theorem Agrees.optional (agrees : read.Agrees related)
    (absent : ∀ {left right}, related left right → (left = .null ↔ right = .null)) :
    (optional read).Agrees related := by
  intro left right alike rules
  have present {document : Document} (isPresent : document ≠ .null) :
      Reader.optional read rules document = (read rules document).map some := by
    cases document <;> first | rfl | exact absurd rfl isPresent
  by_cases leftNull : left = .null
  · rw [leftNull, (absent alike).mp leftNull]
  · rw [present leftNull, present (mt (absent alike).mpr leftNull), agrees alike]

theorem mapM_eq_of_forall₂ {step : Document → Except Fault α} {left right : List Document}
    (agree : ∀ first second, related first second → step first = step second)
    (alike : List.Forall₂ related left right) : left.mapM step = right.mapM step := by
  induction alike with
  | nil => rfl
  | cons first _ ih => rw [List.mapM_cons, List.mapM_cons, agree _ _ first, ih]

theorem foldlM_eq_of_forall₂ {related : κ → κ → Prop} {step : δ → κ → Except Fault δ}
    {left right : List κ} {start : δ}
    (agree : ∀ first second, related first second → ∀ draft, step draft first = step draft second)
    (alike : List.Forall₂ related left right) :
    left.foldlM step start = right.foldlM step start := by
  induction alike generalizing start with
  | nil => rfl
  | cons first _ ih => simp only [List.foldlM_cons, agree _ _ first, ih]

theorem Agrees.list (agrees : read.Agrees related) : (list read).Agrees (ListAlike related) := by
  intro left right alike rules
  cases alike with
  | same document => rfl
  | sequence items =>
      refine bind_congr fun inner => ?_
      exact mapM_eq_of_forall₂ (fun _ _ related => agrees related inner) items

theorem Agrees.dictionary (agrees : read.Agrees related) :
    (dictionary read).Agrees (DictionaryAlike related) := by
  intro left right alike rules
  cases alike with
  | same document => rfl
  | mapping members =>
      refine bind_congr fun inner => foldlM_eq_of_forall₂ (fun first second alike map => ?_) members
      cases alike with
      | same member => rfl
      | named name related => simp only [agrees related inner]

end Agrees

/-! ## Records -/

section Records

variable {δ : Type} {fields : List (RecordField δ)}
  {relatedBy : String → Document → Document → Prop}

/-- The field reads the same from related values. -/
def FieldAgrees (field : RecordField δ) (related : Document → Document → Prop) : Prop :=
  ∀ ⦃left right⦄, related left right → ∀ rules draft,
    field.read rules draft left = field.read rules draft right

theorem fieldAgrees_eq (field : RecordField δ) : FieldAgrees field Eq := by
  rintro left _ rfl rules draft
  rfl

theorem Agrees.field {read : Reader α} {related : Document → Document → Prop}
    (agrees : read.Agrees related) (name : String) (required : Bool) (place : δ → Option α)
    (fill : δ → α → δ) : FieldAgrees (field name required place fill read) related := by
  intro left right alike rules draft
  simp only [Reader.field, agrees alike]

/-- Every field agrees on values that are related by its name.  Values of other names are not read;
they are related only if they are equal. -/
structure FieldsAgree (fields : List (RecordField δ))
    (relatedBy : String → Document → Document → Prop) : Prop where
  known : ∀ field ∈ fields, FieldAgrees field (relatedBy field.name)
  foreign : ∀ name ∉ fields.map (·.name), ∀ left right, relatedBy name left right → left = right

theorem member_text (rules : Rules) (draft : δ) (name : String) (value : Document) :
    member fields rules draft (.text name, value) =
      match fields.find? (·.name = name) with
      | some field =>
          if field.isRead draft then .error (.mismatch (.repeatedField field.name))
          else field.read rules draft value
      | none => if value.isIntact then .ok draft else .error .malformed := rfl

theorem member_alike (agree : FieldsAgree fields relatedBy) {left right : Document × Document}
    (alike : MemberAlike relatedBy left right) (rules : Rules) (draft : δ) :
    member fields rules draft left = member fields rules draft right := by
  cases alike with
  | same one => rfl
  | @named name left right related =>
      rw [member_text, member_text]
      cases found : fields.find? (·.name = name) with
      | some field =>
          have listed : field ∈ fields := List.mem_of_find?_eq_some found
          have named : field.name = name := by simpa using List.find?_some found
          simp only [agree.known field listed (named ▸ related)]
      | none =>
          have unknown : name ∉ fields.map (·.name) := by
            simpa using List.find?_eq_none.mp found
          rw [agree.foreign name unknown left right related]

theorem positional_alike (agree : FieldsAgree fields relatedBy) (record : String) (count : Nat)
    (rules : Rules) {rest : List (RecordField δ)} (among : ∀ field ∈ rest, field ∈ fields)
    {left right : List Document} (alike : ItemsAlike relatedBy (rest.map (·.name)) left right)
    (draft : δ) :
    positional record count rules rest left draft =
      positional record count rules rest right draft := by
  induction rest generalizing left right draft with
  | nil =>
      cases alike
      rfl
  | cons field rest ih =>
      obtain ⟨listed, later⟩ := List.forall_mem_cons.mp among
      rw [List.map_cons] at alike
      cases alike with
      | same _ items => rfl
      | cons related others =>
          simp only [positional, agree.known field listed related, ih later others]

theorem agrees_record (agree : FieldsAgree fields relatedBy) (name : String) (start : δ) :
    (record name fields start).Agrees (RecordAlike relatedBy (fields.map (·.name))) := by
  intro left right alike rules
  cases alike with
  | same document => rfl
  | @mapping left right members =>
      refine bind_congr fun inner => ?_
      have folded : left.foldlM (member fields inner) start =
          right.foldlM (member fields inner) start :=
        foldlM_eq_of_forall₂ (fun _ _ alike => member_alike agree alike inner) members
      rw [folded]
  | sequence items =>
      refine bind_congr fun inner => ?_
      exact positional_alike agree name _ inner (fun _ listed => listed) items start

end Records

end Reader

end Homeplan.Document
