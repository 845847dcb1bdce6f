import Homeplan.Text.Numeric
import Homeplan.TypeScript.Syntax

namespace Homeplan.TypeScript

/-! The source text of the syntax.

Every statement takes one line, nested two blanks per level.  Between imports, classes and runs of
statements stands one blank line, and likewise between the parts of a class.
-/

/-! ## Expressions -/

/-- A character inside single quotes. -/
def escaped (character : Char) : List Char :=
  if character = '\\' then ['\\', '\\']
  else if character = '\'' then ['\\', '\'']
  else if character = '\n' then ['\\', 'n']
  else if character = '\r' then ['\\', 'r']
  else [character]

def quote (text : String) : String :=
  String.ofList ('\'' :: (text.toList.flatMap escaped ++ ['\'']))

def isIdentifierStart (character : Char) : Bool :=
  Text.isAlphabetic character || character = '_' || character = '$'

def isIdentifierPart (character : Char) : Bool :=
  Text.isAlphanumeric character || character = '_' || character = '$'

/-- Whether a property can be named behind a dot. -/
def isIdentifier (name : String) : Bool :=
  match name.toList with
  | [] => false
  | first :: rest => isIdentifierStart first && rest.all isIdentifierPart

mutual

def Expr.text : Expr → String
  | .ident name => name
  | .string value => quote value
  | .bool true => "true"
  | .bool false => "false"
  | .integer value => toString value
  | .json value => value.compact
  | .self => "this"
  | .member object property =>
      if isIdentifier property then object.text ++ "." ++ property
      else object.text ++ "[" ++ quote property ++ "]"
  | .call callee arguments => callee.text ++ "(" ++ listText arguments ++ ")"
  | .construct type arguments => "new " ++ type ++ "(" ++ listText arguments ++ ")"
  | .array items => "[" ++ listText items ++ "]"
  | .cast inner type => inner.text ++ " as " ++ type

def listText : List Expr → String
  | [] => ""
  | [item] => item.text
  | item :: next :: rest => item.text ++ ", " ++ listText (next :: rest)

end

/-! ## Statements and classes -/

/-- A statement without its indentation and the end of its line. -/
def Stmt.text : Stmt → String
  | .expr value => value.text ++ ";"
  | .assign target value => target.text ++ " = " ++ value.text ++ ";"
  | .const name type value => "const " ++ name ++ ": " ++ type ++ " = " ++ value.text ++ ";"
  | .super arguments => "super(" ++ listText arguments ++ ");"
  | .returned value => "return " ++ value.text ++ ";"
  | .comment text => "// " ++ text

def indent (depth : Nat) : String := String.ofList (List.replicate (2 * depth) ' ')

def line (depth : Nat) (text : String) : String := indent depth ++ text ++ "\n"

def Stmt.line (depth : Nat) (statement : Stmt) : String :=
  TypeScript.line depth statement.text

def blockText (depth : Nat) (body : List Stmt) : String :=
  String.join (body.map (Stmt.line depth))

def Visibility.text : Visibility → String
  | .publicMember => "public"
  | .privateMember => "private"

def Field.line (field : Field) : String :=
  let start := match field.init with
    | some value => " = " ++ value.text
    | none => ""
  TypeScript.line 1
    (field.visibility.text ++ " static " ++ field.name ++ ": " ++ field.type ++ start ++ ";")

def Getter.text (getter : Getter) : String :=
  line 1 ("public static get " ++ getter.name ++ "(): " ++ getter.type ++ " \x7b") ++
    line 2 ("return " ++ getter.body.text ++ ";") ++
    line 1 "\x7d"

def Method.text (method : Method) : String :=
  let parameters := String.intercalate ", "
    (method.parameters.map fun (name, type) => name ++ ": " ++ type)
  line 1 (method.visibility.text ++ " static " ++ method.name ++ "(" ++ parameters ++ "): " ++
      method.returns ++ " \x7b") ++
    blockText 2 method.body ++
    line 1 "\x7d"

def constructionText (body : List Stmt) : String :=
  line 1 "public constructor() \x7b" ++ blockText 2 body ++ line 1 "\x7d"

/-- Parts of a class, each behind a blank line unless nothing stands before it. -/
def spacedText (nothingAbove : Bool) : List String → String
  | [] => ""
  | part :: rest =>
      if nothingAbove then part ++ spacedText false rest
      else "\n" ++ part ++ spacedText false rest

def ClassDecl.parts (decl : ClassDecl) : List String :=
  decl.getters.map Getter.text ++ decl.methods.map Method.text ++
    decl.construction.toList.map constructionText

def ClassDecl.opening (decl : ClassDecl) : String :=
  match decl.base with
  | some base => "export class " ++ decl.name ++ " extends " ++ base ++ " \x7b"
  | none => "export class " ++ decl.name ++ " \x7b"

def ClassDecl.text (decl : ClassDecl) : String :=
  line 0 decl.opening ++
    String.join (decl.fields.map Field.line) ++
    spacedText decl.fields.isEmpty decl.parts ++
    line 0 "\x7d"

/-! ## Modules -/

def Import.line : Import → String
  | .whole name source =>
      TypeScript.line 0 ("import * as " ++ name ++ " from " ++ quote source ++ ";")
  | .named names source =>
      TypeScript.line 0
        ("import \x7b " ++ String.intercalate ", " names ++ " \x7d from " ++ quote source ++ ";")

/-- What stands above the next item of a module. -/
inductive Above where
  | nothing
  | blankLine
  | statement
  | block
deriving DecidableEq, Repr

/-- Items, each behind a blank line where the line above is neither blank nor missing; a statement
stays with the statement above it. -/
def itemsText (above : Above) : List Item → String
  | [] => ""
  | .classDecl decl :: rest =>
      let gap := match above with
        | .nothing | .blankLine => ""
        | .statement | .block => "\n"
      gap ++ decl.text ++ itemsText .block rest
  | .stmt statement :: rest =>
      let gap := match above with
        | .nothing | .blankLine | .statement => ""
        | .block => "\n"
      gap ++ statement.line 0 ++ itemsText .statement rest

/-- The source text of a module, which ends with the end of a line unless the module is empty. -/
def Module.text (module : Module) : String :=
  let header := String.join (module.header.map fun text => line 0 ("// " ++ text))
  let imports := String.join (module.imports.map Import.line)
  let above :=
    if module.imports.isEmpty then
      if module.header.isEmpty then Above.nothing else .blankLine
    else .block
  header ++ (if module.header.isEmpty then "" else "\n") ++ imports ++ itemsText above module.items

end Homeplan.TypeScript
