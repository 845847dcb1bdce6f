import Homeplan.Json

namespace Homeplan.TypeScript

/-! The part of TypeScript that generated modules use. -/

inductive Expr where
  | ident (name : String)
  | string (value : String)
  | bool (value : Bool)
  | integer (value : Int)
  /-- A JSON value, written as a literal. -/
  | json (value : Json)
  | self
  | member (object : Expr) (property : String)
  | call (callee : Expr) (arguments : List Expr)
  | construct (type : String) (arguments : List Expr)
  | array (items : List Expr)
  | cast (inner : Expr) (type : String)
deriving Repr, Inhabited

namespace Expr

def path (owner property : String) : Expr := .member (.ident owner) property

end Expr

inductive Stmt where
  | expr (value : Expr)
  | assign (target value : Expr)
  | const (name type : String) (value : Expr)
  | super (arguments : List Expr)
  | returned (value : Expr)
  | comment (text : String)
deriving Repr, Inhabited

inductive Visibility where
  | publicMember
  | privateMember
deriving DecidableEq, Repr

structure Field where
  visibility : Visibility
  name : String
  type : String
  init : Option Expr
deriving Repr

/-- A static getter that returns one expression. -/
structure Getter where
  name : String
  type : String
  body : Expr
deriving Repr

/-- A static method; parameters are names with their types. -/
structure Method where
  visibility : Visibility
  name : String
  parameters : List (String × String)
  returns : String
  body : List Stmt
deriving Repr

structure ClassDecl where
  name : String
  base : Option String
  fields : List Field
  getters : List Getter
  methods : List Method
  construction : Option (List Stmt)
deriving Repr

inductive Import where
  /-- Binds a whole module to a name. -/
  | whole (name source : String)
  /-- Binds some names that a module exports. -/
  | named (names : List String) (source : String)
deriving DecidableEq, Repr

inductive Item where
  | classDecl (decl : ClassDecl)
  | stmt (statement : Stmt)
deriving Repr

/-- A source file: comment lines, imports, and exported classes and statements. -/
structure Module where
  header : List String := []
  imports : List Import := []
  items : List Item := []
deriving Repr

end Homeplan.TypeScript
