import Homeplan.Proofs.TypeScript.Occurrences

namespace Homeplan.TypeScript

/-! What a class has under a name.

All static members of a class share one space of names, and the language refuses a class that uses
a name twice.  So a name leads to a member only if no other member has it, and a device that is
looked up by the identifier in a slot is found only if the name of the slot leads to the slot.
-/

/-! ## Members by their names -/

/-- A static member of a class. -/
inductive Member where
  | field (field : Field)
  | getter (getter : Getter)
  | method (method : Method)

def Member.name : Member → String
  | .field declared => declared.name
  | .getter declared => declared.name
  | .method declared => declared.name

def ClassDecl.members (decl : ClassDecl) : List Member :=
  decl.fields.map .field ++ decl.getters.map .getter ++ decl.methods.map .method

/-- The only member of that name. -/
def ClassDecl.member? (decl : ClassDecl) (name : String) : Option Member :=
  match decl.members.filter (·.name = name) with
  | [member] => some member
  | _ => none

section Members

variable {decl : ClassDecl} {member : Member}

theorem ClassDecl.map_name_members (decl : ClassDecl) :
    decl.members.map Member.name = decl.memberNames := by
  simp only [members, memberNames, List.map_append, List.map_map]
  rfl

theorem ClassDecl.member?_name (declared : member ∈ decl.members) :
    decl.member? member.name =
      if decl.memberNames.count member.name = 1 then some member else none := by
  have among : member ∈ decl.members.filter (·.name = member.name) :=
    List.mem_filter.mpr ⟨declared, decide_eq_true rfl⟩
  have count : decl.memberNames.count member.name =
      (decl.members.filter (·.name = member.name)).length := by
    rw [← decl.map_name_members, List.count, List.countP_map, List.countP_eq_length_filter]
    rfl
  rw [count, member?]
  cases found : decl.members.filter (·.name = member.name) with
  | nil => simp [found] at among
  | cons first rest =>
      cases rest with
      | nil =>
          rw [found, List.mem_singleton] at among
          simp [among]
      | cons second others => simp

end Members

/-! ## Fields that stand for objects -/

def Expr.isConstruct : Expr → Bool
  | .construct _ _ => true
  | _ => false

def Expr.isString : Expr → Bool
  | .string _ => true
  | _ => false

/-- The field that a name leads to, if it starts with a value of the right sort. -/
def ClassDecl.field? (decl : ClassDecl) (fits : Expr → Bool) (name : String) : Option Field :=
  match decl.member? name with
  | some (.field field) => if field.init.any fits then some field else none
  | _ => none

/-- The slot of the class with the identifier that a getter looks a device up by. -/
def Getter.slot? (owner : String) (getter : Getter) : Option String :=
  match getter.body with
  | .cast (.call (.member (.ident "Devices") "get") [.member (.ident object) slot]) _ =>
      if object = owner then some slot else none
  | _ => none

/-- The field that stands for the object behind a name: the object is its value, or it is looked up
by the identifier that is its value.  No object is behind a name that leads to anything else. -/
def ClassDecl.objectField? (decl : ClassDecl) (name : String) : Option Field :=
  match decl.member? name with
  | some (.getter getter) => (getter.slot? decl.name).bind (decl.field? Expr.isString)
  | _ => decl.field? Expr.isConstruct name

section Fields

variable {decl : ClassDecl} {field : Field} {getter : Getter}

theorem ClassDecl.member?_field (declared : field ∈ decl.fields) : decl.member? field.name =
    if decl.memberNames.count field.name = 1 then some (.field field) else none :=
  member?_name (List.mem_append_left _ (List.mem_append_left _ (List.mem_map_of_mem declared)))

theorem ClassDecl.member?_getter (declared : getter ∈ decl.getters) : decl.member? getter.name =
    if decl.memberNames.count getter.name = 1 then some (.getter getter) else none :=
  member?_name (List.mem_append_left _ (List.mem_append_right _ (List.mem_map_of_mem declared)))

theorem ClassDecl.field?_name {fits : Expr → Bool} (declared : field ∈ decl.fields)
    (starts : field.init.any fits = true) : decl.field? fits field.name =
      if decl.memberNames.count field.name = 1 then some field else none := by
  rw [field?, member?_field declared]
  by_cases once : decl.memberNames.count field.name = 1 <;> simp [once, starts]

theorem ClassDecl.objectField?_field (declared : field ∈ decl.fields)
    (starts : field.init.any Expr.isConstruct = true) : decl.objectField? field.name =
      if decl.memberNames.count field.name = 1 then some field else none := by
  rw [← field?_name declared starts, objectField?, member?_field declared]
  by_cases once : decl.memberNames.count field.name = 1 <;> simp [once]

theorem ClassDecl.objectField?_getter {slot : String} (declared : getter ∈ decl.getters)
    (reads : getter.slot? decl.name = some slot) : decl.objectField? getter.name =
      if decl.memberNames.count getter.name = 1 then decl.field? Expr.isString slot else none := by
  rw [objectField?, member?_getter declared]
  by_cases once : decl.memberNames.count getter.name = 1
  · simp [once, reads]
  · simp [once, field?, member?_getter declared]

end Fields

end Homeplan.TypeScript
