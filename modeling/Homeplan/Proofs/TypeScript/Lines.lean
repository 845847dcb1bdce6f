import Homeplan.Proofs.Artifact.Planning
import Homeplan.Proofs.Text.Lines
import Homeplan.Proofs.TypeScript.Blocks
import Homeplan.Proofs.TypeScript.Identifiers
import Homeplan.Proofs.TypeScript.Literals

namespace Homeplan

/-! The lines of source texts.

Where no name, type or comment brings a line break along, every line that is written shows
something, so the only blank lines are those between blocks.
-/

namespace TypeScript

open Text

/-! ## Strings that are taken over as they are -/

mutual

/-- The names and types in an expression.  Strings, JSON values and properties are written so that
no line break of theirs is left. -/
@[simp] def Expr.spliced : Expr → List String
  | .ident name => [name]
  | .string _ => []
  | .bool _ => []
  | .integer _ => []
  | .json _ => []
  | .self => []
  | .member object _ => object.spliced
  | .call callee arguments => callee.spliced ++ splicedOf arguments
  | .construct type arguments => type :: splicedOf arguments
  | .array items => splicedOf items
  | .cast inner type => type :: inner.spliced

@[simp] def splicedOf : List Expr → List String
  | [] => []
  | item :: rest => item.spliced ++ splicedOf rest

end

def Stmt.spliced : Stmt → List String
  | .expr value => value.spliced
  | .assign target value => target.spliced ++ value.spliced
  | .const name type value => name :: type :: value.spliced
  | .super arguments => splicedOf arguments
  | .returned value => value.spliced
  | .comment text => [text]

def Field.spliced (field : Field) : List String :=
  field.name :: field.type :: field.init.toList.flatMap Expr.spliced

def Getter.spliced (getter : Getter) : List String :=
  getter.name :: getter.type :: getter.body.spliced

def Method.spliced (method : Method) : List String :=
  method.name :: method.returns :: (method.parameters.flatMap (fun (name, type) => [name, type]) ++
    method.body.flatMap Stmt.spliced)

def ClassDecl.spliced (decl : ClassDecl) : List String :=
  decl.name :: (decl.base.toList ++ decl.fields.flatMap Field.spliced ++
    decl.getters.flatMap Getter.spliced ++ decl.methods.flatMap Method.spliced ++
    decl.construction.toList.flatMap fun body => body.flatMap Stmt.spliced)

def Import.spliced : Import → List String
  | .whole name _ => [name]
  | .named names _ => names

def Item.spliced : Item → List String
  | .classDecl decl => decl.spliced
  | .stmt statement => statement.spliced

/-- Every string that the text of a module takes over as it is. -/
def Module.spliced (module : Module) : List String :=
  module.header ++ module.imports.flatMap Import.spliced ++ module.items.flatMap Item.spliced

/-! ## Where line breaks come from -/

instance (character : Char) : Decidable (IsLineBreak character) :=
  inferInstanceAs (Decidable (_ ∨ _))

section

variable {character : Char} (isBreak : IsLineBreak character)

include isBreak

theorem IsLineBreak.control : character.toNat < 32 := by
  rcases isBreak with rfl | rfl <;> decide

theorem IsLineBreak.ne {letter : Char} (printed : 32 ≤ letter.toNat) : character ≠ letter :=
  ne_of_control isBreak.control printed

theorem IsLineBreak.not_mem_identifier {name : String} (identifier : isIdentifier name = true) :
    character ∉ name.toList := by
  apply not_mem_of_isIdentifier identifier
  rcases isBreak with rfl | rfl <;> decide +kernel

mutual

/-- A line break in the text of an expression is one in a name or a type. -/
theorem Expr.mem_text_iff : ∀ expr : Expr,
    character ∈ expr.text.toList ↔ ∃ raw ∈ expr.spliced, character ∈ raw.toList
  | .ident name => by simp [Expr.text]
  | .string value => by simp [Expr.text, not_mem_quote isBreak]
  | .bool true => by simp (disch := decide) [Expr.text, isBreak.ne]
  | .bool false => by simp (disch := decide) [Expr.text, isBreak.ne]
  | .integer value =>
      iff_of_false (not_mem_toString_of_control isBreak.control value) (by simp)
  | .json value => iff_of_false (value.not_mem_compact isBreak.control) (by simp)
  | .self => by simp (disch := decide) [Expr.text, isBreak.ne]
  | .member object property => by
      rw [Expr.text, Expr.spliced, ← Expr.mem_text_iff object]
      split
      · rename_i identifier
        simp (disch := decide) [isBreak.ne, isBreak.not_mem_identifier identifier]
      · simp (disch := decide) [isBreak.ne, not_mem_quote isBreak]
  | .call callee arguments => by
      have ofCallee := Expr.mem_text_iff callee
      have ofArguments := mem_listText_iff arguments
      simp (disch := decide) [Expr.text, isBreak.ne, ofCallee, ofArguments, or_and_right, exists_or]
  | .construct type arguments => by
      have ofArguments := mem_listText_iff arguments
      simp (disch := decide) [Expr.text, isBreak.ne, ofArguments]
  | .array items => by
      have ofItems := mem_listText_iff items
      simp (disch := decide) [Expr.text, isBreak.ne, ofItems]
  | .cast inner type => by
      have ofInner := Expr.mem_text_iff inner
      simp (disch := decide) [Expr.text, isBreak.ne, ofInner, or_comm]

theorem mem_listText_iff : ∀ items : List Expr,
    character ∈ (listText items).toList ↔ ∃ raw ∈ splicedOf items, character ∈ raw.toList
  | [] => by simp [listText]
  | [item] => by
      have ofItem := Expr.mem_text_iff item
      simp [listText, ofItem]
  | item :: next :: rest => by
      have ofItem := Expr.mem_text_iff item
      have ofRest := mem_listText_iff (next :: rest)
      rw [listText, splicedOf]
      simp (disch := decide) [-splicedOf, isBreak.ne, ofItem, ofRest, or_and_right, exists_or]

end

theorem Stmt.mem_text_iff (statement : Stmt) :
    character ∈ statement.text.toList ↔ ∃ raw ∈ statement.spliced, character ∈ raw.toList := by
  have ofExpr := Expr.mem_text_iff isBreak
  cases statement with
  | expr value => simp (disch := decide) [text, spliced, isBreak.ne, ofExpr]
  | assign target value =>
      simp (disch := decide) [text, spliced, isBreak.ne, ofExpr, or_and_right, exists_or]
  | const name type value => simp (disch := decide) [text, spliced, isBreak.ne, ofExpr]
  | super arguments =>
      have ofArguments := mem_listText_iff isBreak arguments
      simp (disch := decide) [text, spliced, isBreak.ne, ofArguments]
  | returned value => simp (disch := decide) [text, spliced, isBreak.ne, ofExpr]
  | comment raw => simp (disch := decide) [text, spliced, isBreak.ne]

end

/-! ## Lines that stay whole -/

theorem unbroken_quote (text : String) : Unbroken (quote text) :=
  not_mem_quote (Or.inl rfl) text

theorem unbroken_indent (depth : Nat) : Unbroken (indent depth) := by
  simp [Unbroken, indent]

theorem Expr.unbroken_text {expr : Expr} (spliced : ∀ text ∈ expr.spliced, Unbroken text) :
    Unbroken expr.text := by
  intro broken
  obtain ⟨raw, isRaw, inRaw⟩ := (expr.mem_text_iff (Or.inl rfl)).mp broken
  exact spliced raw isRaw inRaw

theorem Stmt.unbroken_text {statement : Stmt}
    (spliced : ∀ text ∈ statement.spliced, Unbroken text) : Unbroken statement.text := by
  intro broken
  obtain ⟨raw, isRaw, inRaw⟩ := (statement.mem_text_iff (Or.inl rfl)).mp broken
  exact spliced raw isRaw inRaw

theorem Stmt.text_shows (statement : Stmt) : isBlank statement.text = false := by
  cases statement with
  | comment text => exact isBlank_of_mem '/' (by simp [Stmt.text]) (by decide)
  | _ => exact isBlank_of_mem ';' (by simp [Stmt.text]) (by decide)

/-- A line that shows something. -/
theorem spaced_line {text : String} (depth : Nat) (shown : isBlank text = false)
    (unbroken : Unbroken text) : Spaced (line depth text) := by
  refine ⟨[indent depth ++ text], by simp [line, unlines], ?_,
    .single (isBlank_append_eq_false shown)⟩
  simp [unbroken_indent, unbroken]

theorem Stmt.spaced_line (depth : Nat) {statement : Stmt}
    (spliced : ∀ text ∈ statement.spliced, Unbroken text) : Spaced (statement.line depth) :=
  TypeScript.spaced_line depth statement.text_shows (unbroken_text spliced)

theorem unbroken_intercalate {texts : List String} (unbroken : ∀ text ∈ texts, Unbroken text) :
    Unbroken (String.intercalate ", " texts) := by
  induction texts with
  | nil => decide
  | cons text rest ih =>
      obtain ⟨ofText, ofRest⟩ := List.forall_mem_cons.mp unbroken
      cases rest with
      | nil => simpa using ofText
      | cons next others =>
          rw [String.intercalate_cons_cons]
          simp only [unbroken_append]
          exact ⟨⟨ofText, by decide⟩, ih ofRest⟩

/-! ## Blocks of lines -/

/-- What holds of all texts, and of two texts in a row if it holds of both, holds of the first text
with all others behind it. -/
theorem above_induction {motive : String → Prop}
    (append : ∀ {upper lower}, motive upper → motive lower → motive (upper ++ lower))
    {first : String} (ofFirst : motive first) {rest : List String}
    (later : ∀ text ∈ rest, motive text) : motive (first ++ String.join rest) := by
  induction rest generalizing first with
  | nil => simpa using ofFirst
  | cons next others ih =>
      obtain ⟨ofNext, ofOthers⟩ := List.forall_mem_cons.mp later
      rw [String.join_cons, ← String.append_assoc]
      exact ih (append ofFirst ofNext) ofOthers

theorem join_induction {motive : String → Prop}
    (append : ∀ {upper lower}, motive upper → motive lower → motive (upper ++ lower))
    {texts : List String} (each : ∀ text ∈ texts, motive text) (nonempty : String.join texts ≠ "") :
    motive (String.join texts) := by
  cases texts with
  | nil => contradiction
  | cons first rest =>
      obtain ⟨ofFirst, ofRest⟩ := List.forall_mem_cons.mp each
      rw [String.join_cons]
      exact above_induction append ofFirst ofRest

/-- What holds of all texts, and of two texts with a blank line between them if it holds of both,
holds of the texts with blank lines between them. -/
theorem intercalate_induction {motive : String → Prop}
    (between : ∀ {upper lower}, motive upper → motive lower → motive (upper ++ "\n" ++ lower))
    {texts : List String} (nonempty : texts ≠ []) (each : ∀ text ∈ texts, motive text) :
    motive (String.intercalate "\n" texts) := by
  induction texts with
  | nil => contradiction
  | cons first rest ih =>
      obtain ⟨ofFirst, ofRest⟩ := List.forall_mem_cons.mp each
      cases rest with
      | nil => simpa using ofFirst
      | cons next others =>
          rw [String.intercalate_cons_cons]
          exact between ofFirst (ih (List.cons_ne_nil next others) ofRest)

theorem blocksText_induction {motive : String → Prop}
    (between : ∀ {upper lower}, motive upper → motive lower → motive (upper ++ "\n" ++ lower))
    {sections : List String} (each : ∀ text ∈ sections, text ≠ "" → motive text)
    (nonempty : blocksText sections ≠ "") : motive (blocksText sections) := by
  apply intercalate_induction between
  · intro noBlock
    exact nonempty (by rw [blocksText, noBlock, String.intercalate_nil])
  · intro text member
    obtain ⟨isSection, shown⟩ := List.mem_filter.mp member
    exact each text isSection (by simpa using shown)

theorem Field.spaced_line {field : Field} (spliced : ∀ text ∈ field.spliced, Unbroken text) :
    Spaced field.line := by
  obtain ⟨name, rest⟩ := List.forall_mem_cons.mp spliced
  obtain ⟨type, ofInit⟩ := List.forall_mem_cons.mp rest
  have visibility : Unbroken field.visibility.text := by cases field.visibility <;> decide
  apply TypeScript.spaced_line
  · exact isBlank_of_mem ';' (by simp) (by decide)
  · simp only [unbroken_append]
    refine ⟨⟨⟨⟨⟨⟨visibility, by decide⟩, name⟩, by decide⟩, type⟩, ?_⟩, by decide⟩
    cases init : field.init with
    | none => decide
    | some value =>
        rw [init, Option.toList_some, List.flatMap_singleton] at ofInit
        exact unbroken_append.mpr ⟨by decide, Expr.unbroken_text ofInit⟩

theorem spaced_brace (depth : Nat) : Spaced (line depth "\x7d") :=
  spaced_line depth (by decide) (by decide)

theorem Getter.spaced_text {getter : Getter} (spliced : ∀ text ∈ getter.spliced, Unbroken text) :
    Spaced getter.text := by
  obtain ⟨name, rest⟩ := List.forall_mem_cons.mp spliced
  obtain ⟨type, ofBody⟩ := List.forall_mem_cons.mp rest
  have body := Expr.unbroken_text ofBody
  refine Spaced.append (Spaced.append ?_ ?_) (spaced_brace 1)
  · apply spaced_line
    · exact isBlank_of_mem '\x7b' (by simp) (by decide)
    · simp only [unbroken_append]
      exact ⟨⟨⟨⟨by decide, name⟩, by decide⟩, type⟩, by decide⟩
  · apply spaced_line
    · exact isBlank_of_mem ';' (by simp) (by decide)
    · simp only [unbroken_append]
      exact ⟨⟨by decide, body⟩, by decide⟩

theorem spaced_body {opening : String} (ofOpening : Spaced opening) {body : List Stmt}
    (spliced : ∀ text ∈ body.flatMap Stmt.spliced, Unbroken text) :
    Spaced (opening ++ blockText 2 body ++ line 1 "\x7d") := by
  refine Spaced.append (above_induction Spaced.append ofOpening ?_) (spaced_brace 1)
  refine List.forall_mem_map.mpr fun statement member => Stmt.spaced_line 2 ?_
  exact List.forall_mem_flatMap.mp spliced statement member

theorem Method.spaced_text {method : Method} (spliced : ∀ text ∈ method.spliced, Unbroken text) :
    Spaced method.text := by
  obtain ⟨name, rest⟩ := List.forall_mem_cons.mp spliced
  obtain ⟨returns, others⟩ := List.forall_mem_cons.mp rest
  obtain ⟨ofParameters, ofBody⟩ := List.forall_mem_append.mp others
  have visibility : Unbroken method.visibility.text := by cases method.visibility <;> decide
  have parameters : ∀ text ∈ method.parameters.map (fun (name, type) => name ++ ": " ++ type),
      Unbroken text := by
    refine List.forall_mem_map.mpr fun parameter member => ?_
    have pair := List.forall_mem_flatMap.mp ofParameters parameter member
    simp only [List.forall_mem_cons] at pair
    simp only [unbroken_append]
    exact ⟨⟨pair.1, by decide⟩, pair.2.1⟩
  have list := unbroken_intercalate parameters
  apply spaced_body _ ofBody
  apply spaced_line
  · exact isBlank_of_mem '\x7b' (by simp) (by decide)
  · simp only [unbroken_append]
    exact ⟨⟨⟨⟨⟨⟨⟨visibility, by decide⟩, name⟩, by decide⟩, list⟩, by decide⟩, returns⟩, by decide⟩

theorem ClassDecl.spaced_text {decl : ClassDecl} (spliced : ∀ text ∈ decl.spliced, Unbroken text) :
    Spaced decl.text := by
  obtain ⟨name, rest⟩ := List.forall_mem_cons.mp spliced
  simp only [List.forall_mem_append, List.forall_mem_flatMap] at rest
  obtain ⟨⟨⟨⟨base, fields⟩, getters⟩, methods⟩, construction⟩ := rest
  have opening : Spaced (line 0 decl.opening) := by
    apply spaced_line
    · apply isBlank_of_mem '\x7b' _ (by decide)
      unfold ClassDecl.opening
      split <;> simp
    · unfold ClassDecl.opening
      split
      · rename_i owner isBase
        have ofBase := base owner (by simp [isBase])
        simp only [unbroken_append]
        exact ⟨⟨⟨⟨by decide, name⟩, by decide⟩, ofBase⟩, by decide⟩
      · simp only [unbroken_append]
        exact ⟨⟨by decide, name⟩, by decide⟩
  have sections : ∀ text ∈ decl.sections, text ≠ "" → Spaced text := by
    have constructor : ∀ body ∈ decl.construction.toList, Spaced (constructionText body) :=
      fun body isBody => spaced_body (spaced_line 1 (by decide) (by decide))
        (List.forall_mem_flatMap.mpr (construction body isBody))
    simp only [ClassDecl.sections, List.forall_mem_cons, List.forall_mem_append,
      List.forall_mem_map]
    refine ⟨join_induction Spaced.append (List.forall_mem_map.mpr fun field member => ?_),
      ⟨fun getter member _ => ?_, fun method member _ => ?_⟩,
      fun body isBody _ => constructor body isBody⟩
    · exact Field.spaced_line (fields field member)
    · exact Getter.spaced_text (getters getter member)
    · exact Method.spaced_text (methods method member)
  rw [text_eq_blocks]
  -- Without members the brace is the next line.
  by_cases empty : blocksText decl.sections = ""
  · rw [empty, String.append_empty]
    exact opening.append (spaced_brace 0)
  · have blocks := blocksText_induction Spaced.aboveBlank sections empty
    exact (opening.append blocks).append (spaced_brace 0)

theorem Import.spaced_line {imported : Import}
    (spliced : ∀ text ∈ imported.spliced, Unbroken text) :
    Spaced imported.line := by
  cases imported with
  | whole name source =>
      apply TypeScript.spaced_line
      · exact isBlank_of_mem ';' (by simp) (by decide)
      · have ofName := spliced name (List.mem_singleton_self name)
        simp only [unbroken_append]
        exact ⟨⟨⟨⟨by decide, ofName⟩, by decide⟩, unbroken_quote source⟩, by decide⟩
  | named names source =>
      apply TypeScript.spaced_line
      · exact isBlank_of_mem ';' (by simp) (by decide)
      · simp only [unbroken_append]
        exact ⟨⟨⟨⟨by decide, unbroken_intercalate spliced⟩, by decide⟩, unbroken_quote source⟩,
          by decide⟩

theorem Item.spaced_text {item : Item} (spliced : ∀ text ∈ item.spliced, Unbroken text) :
    Spaced item.text := by
  cases item with
  | classDecl decl => exact ClassDecl.spaced_text spliced
  | stmt statement => exact Stmt.spaced_line 0 spliced

theorem Module.spaced_sections {module : Module}
    (spliced : ∀ text ∈ module.spliced, Unbroken text) :
    ∀ text ∈ module.sections, text ≠ "" → Spaced text := by
  simp only [Module.spliced, List.forall_mem_append, List.forall_mem_flatMap] at spliced
  obtain ⟨⟨header, imports⟩, items⟩ := spliced
  simp only [sections, runTexts, List.forall_mem_cons, List.forall_mem_map]
  refine ⟨join_induction Spaced.append ?_, join_induction Spaced.append ?_,
    fun run isRun => join_induction Spaced.append ?_⟩
  · refine List.forall_mem_map.mpr fun text member => spaced_line 0 ?_ ?_
    · exact isBlank_of_mem '/' (by simp) (by decide)
    · exact unbroken_append.mpr ⟨by decide, header text member⟩
  · exact List.forall_mem_map.mpr fun imported member =>
      Import.spaced_line (imports imported member)
  · refine List.forall_mem_map.mpr fun item member => Item.spaced_text (items item ?_)
    rw [← List.flatten_splitBy Item.together module.items]
    exact List.mem_flatten.mpr ⟨run, isRun, member⟩

/-! ## Whole texts -/

theorem Module.blocks_ne_empty {module : Module} (headed : module.header ≠ []) :
    blocksText module.sections ≠ "" := by
  cases header : module.header with
  | nil => contradiction
  | cons first others =>
      apply blocksText_ne_empty
      rw [header]
      exact join_ne_empty line_ne_empty

theorem Module.singleSpaced_text {module : Module}
    (spliced : ∀ text ∈ module.spliced, Unbroken text) : SingleSpaced module.text := by
  rw [text_eq_blocks]
  by_cases empty : blocksText module.sections = ""
  · have header : module.header = [] := by
      by_contra headed
      exact blocks_ne_empty headed empty
    simp [empty, header, singleSpaced_empty]
  · have blocks := blocksText_induction Spaced.aboveBlank (spaced_sections spliced) empty
    split
    · exact blocks.singleSpaced_above_blank
    · simpa using blocks.singleSpaced

theorem endsLine_line (depth : Nat) (text : String) : EndsLine (line depth text) :=
  ⟨indent depth ++ text, rfl⟩

theorem Item.endsLine_text (item : Item) : EndsLine item.text := by
  cases item with
  | classDecl decl =>
      rw [Item.text, decl.text_eq_blocks]
      exact (endsLine_line 0 "\x7d").append
  | stmt statement => exact endsLine_line 0 statement.text

theorem Module.endsLine_sections (module : Module) :
    ∀ text ∈ module.sections, text ≠ "" → EndsLine text := by
  have append {upper lower : String} (_ : EndsLine upper) (below : EndsLine lower) :
      EndsLine (upper ++ lower) := below.append
  simp only [sections, runTexts, List.forall_mem_cons, List.forall_mem_map]
  refine ⟨join_induction append ?_, join_induction append ?_,
    fun run isRun => join_induction append ?_⟩
  · exact List.forall_mem_map.mpr fun text _ => endsLine_line 0 _
  · refine List.forall_mem_map.mpr fun imported _ => ?_
    cases imported <;> exact endsLine_line 0 _
  · exact List.forall_mem_map.mpr fun item _ => item.endsLine_text

theorem Module.endsLine_text {module : Module} (headed : module.header ≠ []) :
    EndsLine module.text := by
  have blocks := blocksText_induction (fun _ below => below.append) module.endsLine_sections
    (blocks_ne_empty headed)
  rw [text_eq_blocks]
  split
  · exact ⟨_, rfl⟩
  · rwa [String.append_empty]

end TypeScript

open Text TypeScript

theorem House.endsLine_artifact {options : RenderOptions} {house : House}
    {artifacts : List Artifact} (planned : house.artifacts options = .ok artifacts)
    {artifact : Artifact} (member : artifact ∈ artifacts) : EndsLine artifact.contents := by
  rcases House.mem_artifacts planned member with ⟨room, _, groups, rfl | rfl⟩ | rfl
  · exact Module.endsLine_text (List.cons_ne_nil _ _)
  · exact Module.endsLine_text (List.cons_ne_nil _ _)
  · exact Module.endsLine_text (List.cons_ne_nil _ _)

/-- Every module and every class is laid out in blocks.  So nothing but broken names, types and
comments brings a blank line to the start of a module or next to another one, and every file ends
with its last line. -/
theorem sources_laid_out_in_blocks :
    (∀ module : Module, module.text = blocksText module.sections ++
      (if module.header ≠ [] ∧ module.imports = [] ∧ module.items = [] then "\n" else "")) ∧
    (∀ decl : ClassDecl, decl.text =
      line 0 decl.opening ++ blocksText decl.sections ++ line 0 "\x7d") ∧
    (∀ module : Module, (∀ text ∈ module.spliced, Unbroken text) → SingleSpaced module.text) ∧
    (∀ (plan : HousePlan) (options : RenderOptions) (rooms : List String)
      (artifacts : List Artifact), plan.artifacts options = .ok (rooms, artifacts) →
      ∀ artifact ∈ artifacts, EndsLine artifact.contents) := by
  refine ⟨Module.text_eq_blocks, ClassDecl.text_eq_blocks, fun _ => Module.singleSpaced_text, ?_⟩
  intro plan options rooms artifacts planned artifact member
  obtain ⟨house, _, housePlanned⟩ := HousePlan.artifacts_eq_ok planned
  exact House.endsLine_artifact housePlanned member

/-- A class between an import and two statements, and the files of a house with one room. -/
theorem statements_laid_out_below_class :
    let decl : ClassDecl :=
      { name := "Door", base := none, getters := [], construction := none,
        fields := [⟨.privateMember, "hinge", "Hinge", some (.construct "Hinge" [])⟩],
        methods := [⟨.publicMember, "open", [("angle", "number")], "void", [.comment "Later."]⟩] }
    let module : Module :=
      { header := ["Doors."], imports := [.named ["Hinge"] "./hinge"],
        items := [.classDecl decl, .stmt (.const "door" "Door" (.construct "Door" [])),
          .stmt (.expr (.call (.path "door" "open") [.integer 90]))] }
    let plan : HousePlan := { rooms := [{ shortName := "Buero", longName := "Büro", floor := 1 }] }
    SingleSpaced module.text ∧ ∃ artifacts, plan.artifacts {} = .ok (["Buero"], artifacts) ∧
      ∀ artifact ∈ artifacts, EndsLine artifact.contents := by
  intro decl module plan
  obtain ⟨_, _, singleSpaced, endsLine⟩ := sources_laid_out_in_blocks
  have runs : (plan.artifacts {} >>= fun planned => .ok planned.1) = .ok ["Buero"] := by
    decide +kernel
  obtain ⟨⟨rooms, artifacts⟩, planned, named⟩ := bind_eq_ok.mp runs
  cases named
  exact ⟨singleSpaced module (by decide +kernel), artifacts, planned, endsLine _ _ _ _ planned⟩

end Homeplan
