import Homeplan.TypeScript.Syntax

namespace Homeplan.TypeScript

/-! What occurs in a module, and what its classes declare.

`Expr.subterms` lists an expression with everything inside it.  A property of all members of one
owner is then checked constructor by constructor (`Expr.MembersWithin`).
-/

mutual

/-- An expression and every expression inside it. -/
@[simp] def Expr.subterms : Expr → List Expr
  | .ident name => [.ident name]
  | .string value => [.string value]
  | .bool value => [.bool value]
  | .integer value => [.integer value]
  | .json value => [.json value]
  | .self => [.self]
  | .member object property => .member object property :: object.subterms
  | .call callee arguments => .call callee arguments :: (callee.subterms ++ subtermsOf arguments)
  | .construct type arguments => .construct type arguments :: subtermsOf arguments
  | .array items => .array items :: subtermsOf items
  | .cast inner type => .cast inner type :: inner.subterms

@[simp] def subtermsOf : List Expr → List Expr
  | [] => []
  | item :: rest => item.subterms ++ subtermsOf rest

end

def Stmt.expressions : Stmt → List Expr
  | .expr value => [value]
  | .assign target value => [target, value]
  | .const _ _ value => [value]
  | .super arguments => arguments
  | .returned value => [value]
  | .comment _ => []

def Method.expressions (method : Method) : List Expr := method.body.flatMap Stmt.expressions

def ClassDecl.expressions (decl : ClassDecl) : List Expr :=
  decl.fields.flatMap (·.init.toList) ++ decl.getters.map (·.body) ++
    decl.methods.flatMap Method.expressions ++
    decl.construction.toList.flatMap fun body => body.flatMap Stmt.expressions

def Item.expressions : Item → List Expr
  | .classDecl decl => decl.expressions
  | .stmt statement => statement.expressions

/-- Whether an expression occurs in a module, at the top or inside of another one. -/
def Module.Mentions (module : Module) (expr : Expr) : Prop :=
  ∃ item ∈ module.items, ∃ root ∈ item.expressions, expr ∈ root.subterms

/-- The names of the static fields, getters and methods of a class. -/
def ClassDecl.memberNames (decl : ClassDecl) : List String :=
  decl.fields.map (·.name) ++ decl.getters.map (·.name) ++ decl.methods.map (·.name)

/-- Every static member of the owner that occurs in the expression is among the allowed ones. -/
def Expr.MembersWithin (owner : String) (allowed : String → Prop) (expr : Expr) : Prop :=
  ∀ property, .path owner property ∈ expr.subterms → allowed property

section MembersWithin

variable {owner : String} {allowed : String → Prop}

theorem mem_subtermsOf_iff {expr : Expr} {items : List Expr} :
    expr ∈ subtermsOf items ↔ ∃ item ∈ items, expr ∈ item.subterms := by
  induction items with
  | nil => simp
  | cons item rest ih => simp [ih]

theorem forall_subtermsOf_iff {items : List Expr} :
    (∀ property, .path owner property ∈ subtermsOf items → allowed property) ↔
      ∀ item ∈ items, item.MembersWithin owner allowed := by
  simp only [mem_subtermsOf_iff, Expr.MembersWithin]
  constructor
  · intro within item member property occurs
    exact within property ⟨item, member, occurs⟩
  · intro within property occurs
    obtain ⟨item, member, inside⟩ := occurs
    exact within item member property inside

@[simp] theorem membersWithin_ident (name : String) :
    (Expr.ident name).MembersWithin owner allowed := by
  simp [Expr.MembersWithin, Expr.path]

@[simp] theorem membersWithin_string (value : String) :
    (Expr.string value).MembersWithin owner allowed := by
  simp [Expr.MembersWithin, Expr.path]

@[simp] theorem membersWithin_bool (value : Bool) :
    (Expr.bool value).MembersWithin owner allowed := by
  simp [Expr.MembersWithin, Expr.path]

@[simp] theorem membersWithin_integer (value : Int) :
    (Expr.integer value).MembersWithin owner allowed := by
  simp [Expr.MembersWithin, Expr.path]

@[simp] theorem membersWithin_json (value : Json) :
    (Expr.json value).MembersWithin owner allowed := by
  simp [Expr.MembersWithin, Expr.path]

@[simp] theorem membersWithin_self : Expr.self.MembersWithin owner allowed := by
  simp [Expr.MembersWithin, Expr.path]

@[simp] theorem path_ne_ident (other property name : String) :
    Expr.path other property ≠ .ident name := by
  simp [Expr.path]

@[simp] theorem membersWithin_member (object : Expr) (property : String) :
    (Expr.member object property).MembersWithin owner allowed ↔
      (object = .ident owner → allowed property) ∧ object.MembersWithin owner allowed := by
  simp only [Expr.MembersWithin, Expr.subterms, Expr.path, List.mem_cons, Expr.member.injEq, or_imp,
    forall_and, and_imp]
  refine and_congr_left fun _ => ?_
  constructor
  · intro within same
    exact within property same.symm rfl
  · intro within other same sameProperty
    exact sameProperty ▸ within same.symm

@[simp] theorem membersWithin_path (other property : String) :
    (Expr.path other property).MembersWithin owner allowed ↔
      (other = owner → allowed property) := by
  simp [Expr.path]

@[simp] theorem membersWithin_call (callee : Expr) (arguments : List Expr) :
    (Expr.call callee arguments).MembersWithin owner allowed ↔
      callee.MembersWithin owner allowed ∧
        ∀ argument ∈ arguments, argument.MembersWithin owner allowed := by
  rw [← forall_subtermsOf_iff]
  simp [Expr.MembersWithin, Expr.path, or_imp, forall_and]

@[simp] theorem membersWithin_construct (type : String) (arguments : List Expr) :
    (Expr.construct type arguments).MembersWithin owner allowed ↔
      ∀ argument ∈ arguments, argument.MembersWithin owner allowed := by
  rw [← forall_subtermsOf_iff]
  simp [Expr.MembersWithin, Expr.path]

@[simp] theorem membersWithin_array (items : List Expr) :
    (Expr.array items).MembersWithin owner allowed ↔
      ∀ item ∈ items, item.MembersWithin owner allowed := by
  rw [← forall_subtermsOf_iff]
  simp [Expr.MembersWithin, Expr.path]

@[simp] theorem membersWithin_cast (inner : Expr) (type : String) :
    (Expr.cast inner type).MembersWithin owner allowed ↔ inner.MembersWithin owner allowed := by
  simp [Expr.MembersWithin, Expr.path]

end MembersWithin

/-- Every static member of the owner that occurs in the statement is among the allowed ones. -/
def Stmt.MembersWithin (owner : String) (allowed : String → Prop) (statement : Stmt) : Prop :=
  ∀ root ∈ statement.expressions, root.MembersWithin owner allowed

namespace Stmt

variable {owner : String} {allowed : String → Prop}

@[simp] theorem membersWithin_expr (value : Expr) :
    (Stmt.expr value).MembersWithin owner allowed ↔ value.MembersWithin owner allowed := by
  simp [MembersWithin, expressions]

@[simp] theorem membersWithin_assign (target value : Expr) :
    (Stmt.assign target value).MembersWithin owner allowed ↔
      target.MembersWithin owner allowed ∧ value.MembersWithin owner allowed := by
  simp [MembersWithin, expressions]

@[simp] theorem membersWithin_const (name type : String) (value : Expr) :
    (Stmt.const name type value).MembersWithin owner allowed ↔
      value.MembersWithin owner allowed := by
  simp [MembersWithin, expressions]

@[simp] theorem membersWithin_super (arguments : List Expr) :
    (Stmt.super arguments).MembersWithin owner allowed ↔
      ∀ argument ∈ arguments, argument.MembersWithin owner allowed :=
  Iff.rfl

@[simp] theorem membersWithin_returned (value : Expr) :
    (Stmt.returned value).MembersWithin owner allowed ↔ value.MembersWithin owner allowed := by
  simp [MembersWithin, expressions]

end Stmt

/-- A module keeps to the allowed members if the fields, getters, methods and construction of its
classes and its other statements do. -/
theorem Module.members_within {module : Module} {owner : String} {allowed : String → Prop}
    (within : ∀ item ∈ module.items, ∀ root ∈ item.expressions, root.MembersWithin owner allowed)
    {property : String} (mentioned : module.Mentions (.path owner property)) :
    allowed property := by
  obtain ⟨item, inModule, root, inItem, occurs⟩ := mentioned
  exact within item inModule root inItem property occurs

theorem ClassDecl.members_within {decl : ClassDecl} {owner : String} {allowed : String → Prop}
    (fields : ∀ field ∈ decl.fields, ∀ init ∈ field.init, init.MembersWithin owner allowed)
    (getters : ∀ getter ∈ decl.getters, getter.body.MembersWithin owner allowed)
    (methods : ∀ method ∈ decl.methods, ∀ statement ∈ method.body,
      statement.MembersWithin owner allowed)
    (construction : ∀ body ∈ decl.construction, ∀ statement ∈ body,
      statement.MembersWithin owner allowed) :
    ∀ root ∈ decl.expressions, root.MembersWithin owner allowed := by
  intro root occurs
  simp only [ClassDecl.expressions, Method.expressions, List.mem_append, List.mem_flatMap,
    List.mem_map, Option.mem_toList] at occurs
  rcases occurs with ((inField | inGetter) | inMethod) | inConstruction
  · obtain ⟨field, member, init⟩ := inField
    exact fields field member root init
  · obtain ⟨getter, member, rfl⟩ := inGetter
    exact getters getter member
  · obtain ⟨method, member, statement, inBody, inStatement⟩ := inMethod
    exact methods method member statement inBody root inStatement
  · obtain ⟨body, member, statement, inBody, inStatement⟩ := inConstruction
    exact construction body member statement inBody root inStatement

end Homeplan.TypeScript
