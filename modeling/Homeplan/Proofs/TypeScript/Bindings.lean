import Homeplan.Proofs.TypeScript.Occurrences

namespace Homeplan.TypeScript

/-! Which names a module binds, and which names it uses without binding them.

Imports, classes and the constants behind them bind names for the whole module; parameters and
constants bind names for the block that they belong to.  What no such binding and no global name
covers is unbound.
-/

/-! ## Names that are bound -/

def Import.names : Import → List String
  | .whole name _ => [name]
  | .named names _ => names

def Stmt.declared : Stmt → List String
  | .const name _ _ => [name]
  | _ => []

def Item.declared : Item → List String
  | .classDecl decl => [decl.name]
  | .stmt statement => statement.declared

/-- The names that are bound at the top of a module. -/
def Module.topNames (module : Module) : List String :=
  module.imports.flatMap Import.names ++ module.items.flatMap Item.declared

/-- The names outside of all modules that generated code uses. -/
def globals : List String := ["Map", "undefined", "string", "void"]

/-! ## Names that are used -/

/-- What stands before the first dot or the first type argument of a type. -/
def leadingName (type : String) : String :=
  String.ofList (type.toList.takeWhile fun character => character ≠ '.' && character ≠ '<')

mutual

/-- The identifiers of an expression and the leading names of the types in it. -/
@[simp] def Expr.names : Expr → List String
  | .ident name => [name]
  | .string _ => []
  | .bool _ => []
  | .integer _ => []
  | .json _ => []
  | .self => []
  | .member object _ => object.names
  | .call callee arguments => callee.names ++ namesOf arguments
  | .construct type arguments => leadingName type :: namesOf arguments
  | .array items => namesOf items
  | .cast inner type => leadingName type :: inner.names

@[simp] def namesOf : List Expr → List String
  | [] => []
  | item :: rest => item.names ++ namesOf rest

end

def Stmt.names : Stmt → List String
  | .const _ type value => leadingName type :: value.names
  | statement => statement.expressions.flatMap Expr.names

def Field.names (field : Field) : List String :=
  leadingName field.type :: field.init.toList.flatMap Expr.names

def Getter.names (getter : Getter) : List String := leadingName getter.type :: getter.body.names

/-- The names that a block uses and binds neither as a parameter nor as a constant. -/
def freeNames (parameters : List String) (block : List Stmt) : List String :=
  (block.flatMap Stmt.names).filter fun name =>
    name ∉ parameters ∧ name ∉ block.flatMap Stmt.declared

def Method.freeNames (method : Method) : List String :=
  leadingName method.returns :: method.parameters.map (fun parameter => leadingName parameter.2) ++
    TypeScript.freeNames (method.parameters.map (·.1)) method.body

def ClassDecl.freeNames (decl : ClassDecl) : List String :=
  decl.base.toList ++ decl.fields.flatMap Field.names ++ decl.getters.flatMap Getter.names ++
    decl.methods.flatMap Method.freeNames ++
    decl.construction.toList.flatMap (TypeScript.freeNames [])

def Item.freeNames : Item → List String
  | .classDecl decl => decl.freeNames
  | .stmt statement => statement.names

/-- The names that a module uses and that nothing binds where they are used. -/
def Module.unboundNames (module : Module) : List String :=
  (module.items.flatMap Item.freeNames).filter fun name =>
    name ∉ module.topNames ∧ name ∉ globals

/-! ## Where names may come from -/

theorem leadingName_qualified {owner : String} (plain : ∀ character ∈ owner.toList,
    character ≠ '.' ∧ character ≠ '<') (type : String) :
    leadingName (owner ++ "." ++ type) = owner := by
  have all : ∀ character ∈ owner.toList,
      (decide (character ≠ '.') && decide (character ≠ '<')) = true := by
    simpa using plain
  rw [leadingName, String.append_assoc, String.toList_append, List.takeWhile_append_of_pos all]
  simp

theorem leadingName_plain {type : String} (plain : ∀ character ∈ type.toList,
    character ≠ '.' ∧ character ≠ '<') : leadingName type = type := by
  have all : ∀ character ∈ type.toList,
      (decide (character ≠ '.') && decide (character ≠ '<')) = true := by
    simpa using plain
  rw [leadingName, ← List.append_nil type.toList, List.takeWhile_append_of_pos all]
  simp

/-- Every name that the expression uses is among the allowed ones. -/
def Expr.NamesWithin (allowed : String → Prop) (expr : Expr) : Prop :=
  ∀ name ∈ expr.names, allowed name

section NamesWithin

variable {allowed : String → Prop}

theorem forall_namesOf_iff {items : List Expr} :
    (∀ name ∈ namesOf items, allowed name) ↔ ∀ item ∈ items, item.NamesWithin allowed := by
  induction items with
  | nil => simp
  | cons item rest ih =>
      rw [namesOf, List.forall_mem_append, ih, List.forall_mem_cons]
      rfl

@[simp] theorem namesWithin_ident (name : String) :
    (Expr.ident name).NamesWithin allowed ↔ allowed name := by
  simp [Expr.NamesWithin]

@[simp] theorem namesWithin_string (value : String) : (Expr.string value).NamesWithin allowed := by
  simp [Expr.NamesWithin]

@[simp] theorem namesWithin_bool (value : Bool) : (Expr.bool value).NamesWithin allowed := by
  simp [Expr.NamesWithin]

@[simp] theorem namesWithin_integer (value : Int) : (Expr.integer value).NamesWithin allowed := by
  simp [Expr.NamesWithin]

@[simp] theorem namesWithin_json (value : Json) : (Expr.json value).NamesWithin allowed := by
  simp [Expr.NamesWithin]

@[simp] theorem namesWithin_self : Expr.self.NamesWithin allowed := by
  simp [Expr.NamesWithin]

@[simp] theorem namesWithin_member (object : Expr) (property : String) :
    (Expr.member object property).NamesWithin allowed ↔ object.NamesWithin allowed :=
  Iff.rfl

@[simp] theorem namesWithin_path (owner property : String) :
    (Expr.path owner property).NamesWithin allowed ↔ allowed owner := by
  simp [Expr.path]

@[simp] theorem namesWithin_call (callee : Expr) (arguments : List Expr) :
    (Expr.call callee arguments).NamesWithin allowed ↔
      callee.NamesWithin allowed ∧ ∀ argument ∈ arguments, argument.NamesWithin allowed := by
  rw [← forall_namesOf_iff]
  simp [Expr.NamesWithin, or_imp, forall_and]

@[simp] theorem namesWithin_construct (type : String) (arguments : List Expr) :
    (Expr.construct type arguments).NamesWithin allowed ↔
      allowed (leadingName type) ∧ ∀ argument ∈ arguments, argument.NamesWithin allowed := by
  rw [← forall_namesOf_iff]
  simp [Expr.NamesWithin]

@[simp] theorem namesWithin_array (items : List Expr) :
    (Expr.array items).NamesWithin allowed ↔ ∀ item ∈ items, item.NamesWithin allowed :=
  forall_namesOf_iff

@[simp] theorem namesWithin_cast (inner : Expr) (type : String) :
    (Expr.cast inner type).NamesWithin allowed ↔
      allowed (leadingName type) ∧ inner.NamesWithin allowed := by
  simp [Expr.NamesWithin]

end NamesWithin

/-- Every name that the statement uses is among the allowed ones. -/
def Stmt.NamesWithin (allowed : String → Prop) (statement : Stmt) : Prop :=
  ∀ name ∈ statement.names, allowed name

namespace Stmt

variable {allowed : String → Prop}

@[simp] theorem namesWithin_expr (value : Expr) :
    (Stmt.expr value).NamesWithin allowed ↔ value.NamesWithin allowed := by
  simp [NamesWithin, Expr.NamesWithin, names, expressions]

@[simp] theorem namesWithin_assign (target value : Expr) :
    (Stmt.assign target value).NamesWithin allowed ↔
      target.NamesWithin allowed ∧ value.NamesWithin allowed := by
  simp [NamesWithin, Expr.NamesWithin, names, expressions, or_imp, forall_and]

@[simp] theorem namesWithin_const (name type : String) (value : Expr) :
    (Stmt.const name type value).NamesWithin allowed ↔
      allowed (leadingName type) ∧ value.NamesWithin allowed := by
  simp [NamesWithin, Expr.NamesWithin, names]

@[simp] theorem namesWithin_super (arguments : List Expr) :
    (Stmt.super arguments).NamesWithin allowed ↔
      ∀ argument ∈ arguments, argument.NamesWithin allowed := by
  simp only [NamesWithin, names, expressions, List.forall_mem_flatMap]
  rfl

@[simp] theorem namesWithin_returned (value : Expr) :
    (Stmt.returned value).NamesWithin allowed ↔ value.NamesWithin allowed := by
  simp [NamesWithin, Expr.NamesWithin, names, expressions]

theorem NamesWithin.imp {statement : Stmt} {wider : String → Prop}
    (within : statement.NamesWithin allowed) (widens : ∀ name, allowed name → wider name) :
    statement.NamesWithin wider :=
  fun name used => widens name (within name used)

end Stmt

/-- The free names of a block are allowed if each of its statements keeps to the allowed names, the
parameters and the constants of the block. -/
theorem freeNames_within {allowed : String → Prop} {parameters : List String} {block : List Stmt}
    (within : ∀ statement ∈ block, statement.NamesWithin fun name =>
      name ∈ parameters ∨ name ∈ block.flatMap Stmt.declared ∨ allowed name) :
    ∀ name ∈ freeNames parameters block, allowed name := by
  intro name free
  obtain ⟨used, unbound⟩ := List.mem_filter.mp free
  obtain ⟨notParameter, notDeclared⟩ := of_decide_eq_true unbound
  obtain ⟨statement, inBlock, inStatement⟩ := List.mem_flatMap.mp used
  rcases within statement inBlock name inStatement with isParameter | isDeclared | isAllowed
  · exact absurd isParameter notParameter
  · exact absurd isDeclared notDeclared
  · exact isAllowed

theorem Module.mem_unboundNames_iff {module : Module} {name : String} :
    name ∈ module.unboundNames ↔
      (∃ item ∈ module.items, name ∈ item.freeNames) ∧ name ∉ module.topNames ∧ name ∉ globals := by
  simp [unboundNames]

end Homeplan.TypeScript
