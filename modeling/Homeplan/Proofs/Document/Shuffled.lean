import Homeplan.Proofs.Document.Fields
import Homeplan.Proofs.Json
import Mathlib.Data.List.Perm.Basic

namespace Homeplan

/-! Documents that differ in the order of members are read as the same settings.

Reading settings arranges the members by their names at every depth, and whatever is wrong with
settings is one and the same fault.  So neither the values nor the fault show in which order the
members of an object stand, as long as their names are distinct.
-/

namespace Json

/-! ## Arranging in any order -/

def arrangedMember (member : String × Json) : String × Json := (member.1, member.2.arranged)

theorem arrangedMembers_perm {members : List (String × Json)}
    (distinct : (members.map (·.1)).Nodup) :
    (arrangedMembers members).Perm (members.map arrangedMember) := by
  induction members with
  | nil => exact .refl _
  | cons member rest ih =>
      obtain ⟨name, value⟩ := member
      obtain ⟨absent, distinctRest⟩ := List.nodup_cons.mp distinct
      have later := ih distinctRest
      have absentLater : name ∉ (arrangedMembers rest).map (·.1) := by
        rw [(later.map _).mem_iff, List.map_map]
        exact absent
      have single : (arrangedMembers rest).any (·.1 = name) = false := by
        simp only [List.any_eq_false, decide_eq_true_eq]
        exact fun other member same => absentLater (List.mem_map.mpr ⟨other, member, same⟩)
      have placed : arrangedMembers ((name, value) :: rest) =
          SortedMap.insertEntry name value.arranged (arrangedMembers rest) := by
        simp [arrangedMembers, single]
      rw [placed]
      exact (SortedMap.insertEntry_perm absentLater).trans (later.cons _)

/-- Members of distinct names are arranged alike in any order. -/
theorem arrangedMembers_eq_of_perm {left right : List (String × Json)}
    (distinct : (left.map (·.1)).Nodup) (same : left.Perm right) :
    arrangedMembers left = arrangedMembers right := by
  have distinctRight : (right.map (·.1)).Nodup := (same.map _).nodup_iff.mp distinct
  have permuted : (arrangedMembers left).Perm (arrangedMembers right) :=
    (arrangedMembers_perm distinct).trans
      ((same.map arrangedMember).trans (arrangedMembers_perm distinctRight).symm)
  apply permuted.eq_of_pairwise _ (keysIncrease_arrangedMembers left)
    (keysIncrease_arrangedMembers right)
  intro first second _ _ ordered reversed
  exact absurd (KeyOrder.trans ordered reversed) (KeyOrder.irrefl _)

end Json

namespace Document

/-- Documents that differ only in the order of members of distinct names, at any depth. -/
inductive Shuffled : Document → Document → Prop where
  | refl (document : Document) : Shuffled document document
  | trans {first second third : Document} :
      Shuffled first second → Shuffled second third → Shuffled first third
  | item (before : List Document) {left right : Document} (after : List Document) :
      Shuffled left right →
        Shuffled (.sequence (before ++ left :: after)) (.sequence (before ++ right :: after))
  | value (before : List (Document × Document)) (name : Document) {left right : Document}
      (after : List (Document × Document)) :
      Shuffled left right →
        Shuffled (.mapping (before ++ (name, left) :: after))
          (.mapping (before ++ (name, right) :: after))
  | members {left right : List (Document × Document)} :
      (left.map (·.1)).Nodup → left.Perm right → Shuffled (.mapping left) (.mapping right)

theorem Shuffled.eq_null_iff {left right : Document} (shuffled : Shuffled left right) :
    left = .null ↔ right = .null := by
  induction shuffled with
  | refl document => rfl
  | trans _ _ first second => exact first.trans second
  | item before after _ _ => simp
  | value before name after _ _ => simp
  | members _ _ => simp

namespace Reader

/-! ## One fault -/

/-- Whatever is wrong is that the text is malformed. -/
def FailsMalformed (step : Except Fault α) : Prop :=
  ∀ fault, step = .error fault → fault = .malformed

theorem FailsMalformed.bind {step : Except Fault α} {next : α → Except Fault β}
    (first : FailsMalformed step) (later : ∀ value, FailsMalformed (next value)) :
    FailsMalformed (step >>= next) := by
  intro fault failed
  rcases bind_eq_error.mp failed with atFirst | behind
  · exact first fault atFirst
  · obtain ⟨value, _, atNext⟩ := behind
    exact later value fault atNext

/-- The order of two steps that fail alike does not matter. -/
theorem bind_swap {first : Except Fault α} {second : Except Fault β} {next : α → β → Except Fault γ}
    (firstFails : FailsMalformed first) (secondFails : FailsMalformed second) :
    (do let left ← first; let right ← second; next left right) =
      (do let right ← second; let left ← first; next left right) := by
  cases first with
  | ok left => cases second <;> rfl
  | error fault =>
      cases second with
      | ok right => rfl
      | error other =>
          rw [firstFails fault rfl, secondFails other rfl]
          rfl

theorem failsMalformed_ok (value : α) : FailsMalformed (.ok value) := nofun

theorem failsMalformed_malformed : FailsMalformed (.error .malformed : Except Fault α) := by
  rintro _ ⟨⟩
  rfl

theorem failsMalformed_inner (rules : Rules) : FailsMalformed rules.inner := by
  unfold Rules.inner
  split
  · exact failsMalformed_ok _
  · exact failsMalformed_malformed
  · exact failsMalformed_ok _

theorem failsMalformed_memberName (name : Document) : FailsMalformed (memberName name) := by
  unfold memberName
  split
  · exact failsMalformed_ok _
  · exact failsMalformed_malformed

mutual

theorem failsMalformed_json (rules : Rules) :
    ∀ document : Document, FailsMalformed (json rules document)
  | .null | .bool _ | .integer _ | .real _ | .unbounded | .text _ => by
      rw [json]
      exact failsMalformed_ok _
  | .sequence items => by
      rw [json]
      refine (failsMalformed_inner rules).bind fun inner => ?_
      exact (failsMalformed_jsonItems inner items).bind fun _ => failsMalformed_ok _
  | .mapping members => by
      rw [json]
      refine (failsMalformed_inner rules).bind fun inner => ?_
      exact (failsMalformed_jsonMembers inner members).bind fun _ => failsMalformed_ok _
  | .unreadable | .broken => by
      rw [json]
      exact failsMalformed_malformed

theorem failsMalformed_jsonItems (rules : Rules) :
    ∀ items : List Document, FailsMalformed (jsonItems rules items)
  | [] => by
      rw [jsonItems]
      exact failsMalformed_ok _
  | item :: rest => by
      rw [jsonItems]
      refine (failsMalformed_json rules item).bind fun _ => ?_
      exact (failsMalformed_jsonItems rules rest).bind fun _ => failsMalformed_ok _

theorem failsMalformed_jsonMembers (rules : Rules) :
    ∀ members : List (Document × Document), FailsMalformed (jsonMembers rules members)
  | [] => by
      rw [jsonMembers]
      exact failsMalformed_ok _
  | (name, item) :: rest => by
      rw [jsonMembers]
      refine (failsMalformed_memberName name).bind fun _ => ?_
      refine (failsMalformed_json rules item).bind fun _ => ?_
      exact (failsMalformed_jsonMembers rules rest).bind fun _ => failsMalformed_ok _

end

/-! ## Any order -/

def jsonMember (rules : Rules) (member : Document × Document) : Except Fault (String × Json) := do
  let name ← memberName member.1
  let value ← json rules member.2
  return (name, value)

theorem jsonMembers_cons (rules : Rules) (member : Document × Document)
    (rest : List (Document × Document)) :
    jsonMembers rules (member :: rest) = (do
      let value ← jsonMember rules member
      let values ← jsonMembers rules rest
      return value :: values) := by
  obtain ⟨name, item⟩ := member
  rw [jsonMembers, jsonMember]
  simp only [bind_assoc, pure_bind]

theorem failsMalformed_jsonMember (rules : Rules) (member : Document × Document) :
    FailsMalformed (jsonMember rules member) := by
  refine (failsMalformed_memberName member.1).bind fun _ => ?_
  exact (failsMalformed_json rules member.2).bind fun _ => failsMalformed_ok _

theorem jsonMembers_names {rules : Rules} {members : List (Document × Document)}
    {values : List (String × Json)} (read : jsonMembers rules members = .ok values) :
    members.map (·.1) = (values.map (·.1)).map Document.text := by
  induction members generalizing values with
  | nil =>
      rw [jsonMembers] at read
      cases read
      rfl
  | cons member rest ih =>
      rw [jsonMembers_cons] at read
      obtain ⟨value, readFirst, later⟩ := bind_eq_ok.mp read
      obtain ⟨others, readRest, whole⟩ := bind_eq_ok.mp later
      obtain ⟨name, named, content⟩ := bind_eq_ok.mp readFirst
      obtain ⟨item, _, both⟩ := bind_eq_ok.mp content
      cases whole
      cases both
      rw [List.map_cons, ih readRest, memberName_eq_ok_iff.mp named]
      rfl

/-- Members that are read in another order are the same members, or fail with the same fault. -/
theorem jsonMembers_perm {rules : Rules} {left right : List (Document × Document)}
    (same : left.Perm right) :
    EndsAlike List.Perm (jsonMembers rules left) (jsonMembers rules right) := by
  induction same with
  | nil => exact .refl .refl _
  | cons member _ ih =>
      rw [jsonMembers_cons, jsonMembers_cons]
      refine .after _ fun value => ?_
      exact ih.bind fun _ _ permuted => .result (permuted.cons value)
  | swap first second rest =>
      simp only [jsonMembers_cons, bind_assoc, pure_bind]
      rw [bind_swap (failsMalformed_jsonMember rules second) (failsMalformed_jsonMember rules first)]
      refine .after _ fun left => ?_
      refine .after _ fun right => ?_
      refine .after _ fun values => ?_
      exact .result (.swap ..)
  | trans _ _ left right => exact left.trans right fun _ _ _ => List.Perm.trans

/-! ## At any depth -/

/-- Two readings end in the same fault, or in values that are arranged alike. -/
def ArrangedAlike : Except Fault Json → Except Fault Json → Prop :=
  EndsAlike fun left right => left.arranged = right.arranged

theorem ArrangedAlike.refl (reading : Except Fault Json) : ArrangedAlike reading reading :=
  (EndsAlike.refl Eq.refl reading).imp fun _ _ _ _ same => congrArg Json.arranged same

theorem jsonItems_alike {left right : Document}
    (alike : ∀ rules, ArrangedAlike (json rules left) (json rules right)) (rules : Rules)
    (before after : List Document) :
    EndsAlike (fun left right => Json.arrangedItems left = Json.arrangedItems right)
      (jsonItems rules (before ++ left :: after)) (jsonItems rules (before ++ right :: after)) := by
  induction before with
  | nil =>
      rw [List.nil_append, List.nil_append, jsonItems, jsonItems]
      refine (alike rules).bind fun first second same => ?_
      refine .after _ fun values => ?_
      exact .result (by rw [Json.arrangedItems, Json.arrangedItems, same])
  | cons item before ih =>
      rw [List.cons_append, List.cons_append, jsonItems, jsonItems]
      refine .after _ fun value => ?_
      refine ih.bind fun first second same => ?_
      exact .result (by rw [Json.arrangedItems, Json.arrangedItems, same])

theorem jsonMembers_alike {left right : Document}
    (alike : ∀ rules, ArrangedAlike (json rules left) (json rules right)) (rules : Rules)
    (name : Document) (before after : List (Document × Document)) :
    EndsAlike (fun left right => Json.arrangedMembers left = Json.arrangedMembers right)
      (jsonMembers rules (before ++ (name, left) :: after))
      (jsonMembers rules (before ++ (name, right) :: after)) := by
  induction before with
  | nil =>
      rw [List.nil_append, List.nil_append, jsonMembers, jsonMembers]
      refine .after _ fun written => ?_
      refine (alike rules).bind fun first second same => ?_
      refine .after _ fun values => ?_
      exact .result (by rw [Json.arrangedMembers, Json.arrangedMembers, same])
  | cons member before ih =>
      rw [List.cons_append, List.cons_append, jsonMembers_cons, jsonMembers_cons]
      refine .after _ fun value => ?_
      refine ih.bind fun first second same => ?_
      exact .result (by rw [Json.arrangedMembers, Json.arrangedMembers, same])

/-- Members of distinct names come out alike in any order. -/
theorem jsonMembers_shuffled {left right : List (Document × Document)}
    (distinct : (left.map (·.1)).Nodup) (same : left.Perm right) (rules : Rules) :
    EndsAlike (fun left right => Json.arrangedMembers left = Json.arrangedMembers right)
      (jsonMembers rules left) (jsonMembers rules right) := by
  refine (jsonMembers_perm same).imp fun values others read _ permuted => ?_
  have names : ((values.map (·.1)).map Document.text).Nodup := jsonMembers_names read ▸ distinct
  exact Json.arrangedMembers_eq_of_perm (List.Nodup.of_map _ names) permuted

theorem json_shuffled {left right : Document} (shuffled : Shuffled left right) (rules : Rules) :
    ArrangedAlike (json rules left) (json rules right) := by
  induction shuffled generalizing rules with
  | refl document => exact .refl _
  | trans _ _ first second => exact (first rules).trans (second rules) fun _ _ _ => Eq.trans
  | item before after _ ih =>
      rw [json, json]
      refine .after _ fun inner => ?_
      refine (jsonItems_alike ih inner before after).bind fun first second same => ?_
      exact .result (by rw [Json.arranged, Json.arranged, same])
  | value before name after _ ih =>
      rw [json, json]
      refine .after _ fun inner => ?_
      refine (jsonMembers_alike ih inner name before after).bind fun first second same => ?_
      exact .result (by rw [Json.arranged, Json.arranged, same])
  | members distinct same =>
      rw [json, json]
      refine .after _ fun inner => ?_
      refine (jsonMembers_shuffled distinct same inner).bind fun first second same => ?_
      exact .result (by rw [Json.arranged, Json.arranged, same])

theorem settings_of_alike {left right : List (Document × Document)}
    (alike : ∀ rules, EndsAlike
      (fun left right => Json.arrangedMembers left = Json.arrangedMembers right)
      (jsonMembers rules left) (jsonMembers rules right)) (rules : Rules) :
    settings rules (.mapping left) = settings rules (.mapping right) := by
  refine EndsAlike.eq ?_
  refine .after _ fun inner => ?_
  refine (alike inner).bind fun first second same => ?_
  exact .result (by simp only [Settings.ofMembers, same])

/-- Settings are the same however their members are shuffled. -/
theorem settings_shuffled {left right : Document} (shuffled : Shuffled left right)
    (rules : Rules) : settings rules left = settings rules right := by
  induction shuffled with
  | refl document => rfl
  | trans _ _ first second => exact first.trans second
  | item before after _ _ => rfl
  | value before name after inside _ =>
      exact settings_of_alike (fun inner => jsonMembers_alike (json_shuffled inside) inner name
        before after) rules
  | members distinct same => exact settings_of_alike (jsonMembers_shuffled distinct same) rules

end Reader

end Document

end Homeplan
