import Homeplan.TypeScript.Text
import Mathlib.Data.List.SplitBy

namespace Homeplan.TypeScript

/-! The blocks of source texts.

A text is written from top to bottom, with a note of what stands above the next part.  What comes
out are its blocks with one blank line between each two: the header, the imports, every class and every
run of statements of a module, and the fields and every other member of a class.
-/

/-! ## Blank lines between blocks -/

/-- The sections that are not empty, with one blank line between each two. -/
def blocksText (sections : List String) : String :=
  String.intercalate "\n" (sections.filter (· ≠ ""))

/-- Texts that stand below something, each behind a blank line. -/
def belowText (texts : List String) : String := String.join (texts.map ("\n" ++ ·))

theorem intercalate_cons (first : String) (rest : List String) :
    String.intercalate "\n" (first :: rest) = first ++ belowText rest := by
  induction rest generalizing first with
  | nil => simp [belowText]
  | cons next rest ih => simp [ih, belowText, String.append_assoc]

theorem blocksText_empty_cons (rest : List String) : blocksText ("" :: rest) = blocksText rest := by
  simp [blocksText]

theorem blocksText_pair_empty (text : String) : blocksText [text, ""] = text := by
  by_cases empty : text = "" <;> simp [blocksText, empty]

theorem blocksText_cons {first : String} {rest : List String} (nonempty : first ≠ "")
    (later : ∀ text ∈ rest, text ≠ "") : blocksText (first :: rest) = first ++ belowText rest := by
  have kept : rest.filter (· ≠ "") = rest := List.filter_eq_self.mpr (by simpa using later)
  rw [blocksText, List.filter_cons_of_pos (by simpa using nonempty), kept, intercalate_cons]

theorem blocksText_above {first : String} {rest : List String} (nonempty : first ≠ "")
    (shown : ∃ text ∈ rest, text ≠ "") :
    blocksText (first :: rest) = first ++ "\n" ++ blocksText rest := by
  have kept : rest.filter (· ≠ "") ≠ [] := by simpa [List.filter_eq_nil_iff] using shown
  rw [blocksText, List.filter_cons_of_pos (by simpa using nonempty),
    String.intercalate_cons_of_ne_nil kept, blocksText]

theorem blocksText_ne_empty {first : String} {rest : List String} (nonempty : first ≠ "") :
    blocksText (first :: rest) ≠ "" := by
  rw [blocksText, List.filter_cons_of_pos (by simpa using nonempty), intercalate_cons]
  simp [nonempty]

theorem line_append_ne_empty {depth : Nat} {text rest : String} : line depth text ++ rest ≠ "" := by
  simp [line]

theorem line_ne_empty {depth : Nat} {text : String} : line depth text ≠ "" := by
  simp [line]

theorem join_ne_empty {item : α} {rest : List α} {text : α → String} (nonempty : text item ≠ "") :
    String.join ((item :: rest).map text) ≠ "" := by
  simp [nonempty]

/-! ## Classes -/

/-- The fields of a class, all together, and every getter, every method and the constructor. -/
def ClassDecl.sections (decl : ClassDecl) : List String :=
  String.join (decl.fields.map Field.line) ::
    (decl.getters.map Getter.text ++ decl.methods.map Method.text ++
      decl.construction.toList.map constructionText)

theorem ClassDecl.sections_eq (decl : ClassDecl) :
    decl.sections = String.join (decl.fields.map Field.line) :: decl.parts :=
  rfl

theorem ClassDecl.parts_ne_empty (decl : ClassDecl) : ∀ part ∈ decl.parts, part ≠ "" := by
  simp only [parts, Getter.text, Method.text, constructionText, String.append_assoc,
    List.forall_mem_append, List.forall_mem_map]
  exact ⟨⟨fun _ _ => line_append_ne_empty, fun _ _ => line_append_ne_empty⟩,
    fun _ _ => line_append_ne_empty⟩

theorem spacedText_below (parts : List String) : spacedText false parts = belowText parts := by
  induction parts with
  | nil => rfl
  | cons part rest ih => simp [spacedText, ih, belowText]

theorem spacedText_first {parts : List String} (nonempty : ∀ part ∈ parts, part ≠ "") :
    spacedText true parts = blocksText parts := by
  cases parts with
  | nil => rfl
  | cons part rest =>
      obtain ⟨first, later⟩ := List.forall_mem_cons.mp nonempty
      rw [blocksText_cons first later, spacedText, if_pos rfl, spacedText_below]

theorem ClassDecl.inner_eq_blocks (decl : ClassDecl) :
    String.join (decl.fields.map Field.line) ++ spacedText decl.fields.isEmpty decl.parts =
      blocksText decl.sections := by
  cases fields : decl.fields with
  | nil =>
      rw [sections_eq, fields, List.map_nil, String.join_nil, blocksText_empty_cons,
        String.empty_append]
      exact spacedText_first decl.parts_ne_empty
  | cons field rest =>
      have nonempty : String.join ((field :: rest).map Field.line) ≠ "" :=
        join_ne_empty line_ne_empty
      rw [sections_eq, fields, blocksText_cons nonempty decl.parts_ne_empty, ← spacedText_below]
      rfl

/-- The blocks of a class stand between its opening line and its closing brace. -/
theorem ClassDecl.text_eq_blocks (decl : ClassDecl) :
    decl.text = line 0 decl.opening ++ blocksText decl.sections ++ line 0 "\x7d" := by
  rw [ClassDecl.text, ← inner_eq_blocks]
  simp only [String.append_assoc]

/-! ## Modules -/

/-- Whether two items that follow each other stand in one block. -/
def Item.together : Item → Item → Bool
  | .stmt _, .stmt _ => true
  | _, _ => false

def Item.text : Item → String
  | .classDecl decl => decl.text
  | .stmt statement => statement.line 0

/-- The items of one block. -/
def runText (run : List Item) : String := String.join (run.map Item.text)

/-- Every class, and every longest run of statements. -/
def runTexts (items : List Item) : List String := (items.splitBy Item.together).map runText

/-- The header and the imports of a module, every class and every longest run of statements. -/
def Module.sections (module : Module) : List String :=
  String.join (module.header.map fun text => line 0 ("// " ++ text)) ::
    String.join (module.imports.map Import.line) ::
    runTexts module.items

theorem Item.text_ne_empty (item : Item) : item.text ≠ "" := by
  cases item with
  | classDecl decl =>
      rw [Item.text, decl.text_eq_blocks, String.append_assoc]
      exact line_append_ne_empty
  | stmt statement => exact line_ne_empty

theorem runText_ne_empty {run : List Item} (nonempty : run ≠ []) : runText run ≠ "" := by
  cases run with
  | nil => contradiction
  | cons item rest => exact join_ne_empty item.text_ne_empty

/-- What separates the next block from what stands above it. -/
def Above.gap : Above → String
  | .nothing | .blankLine => ""
  | .statement | .block => "\n"

theorem itemsText_statements (first : Stmt) (later : List Item)
    (chain : (Item.stmt first :: later).IsChain fun upper lower => Item.together upper lower = true)
    {rest : List Item} (apart : ∀ last ∈ (Item.stmt first :: later).getLast?, ∀ next ∈ rest.head?,
      Item.together last next = false) :
    itemsText .statement (later ++ rest) = runText later ++ itemsText .block rest := by
  induction later generalizing first with
  | nil =>
      cases rest with
      | nil => rfl
      | cons next others =>
          cases next with
          | classDecl decl => simp [itemsText, runText]
          | stmt statement => simp [Item.together] at apart
  | cons item later ih =>
      obtain ⟨together, chainLater⟩ := List.isChain_cons_cons.mp chain
      cases item with
      | classDecl decl => simp [Item.together] at together
      | stmt statement =>
          have tail := ih statement chainLater (by simpa using apart)
          simp [itemsText, tail, runText, Item.text, String.append_assoc]

/-- The text of the items up to the end of a block. -/
theorem itemsText_run {above : Above} (fresh : above ≠ .statement) {run rest : List Item}
    (nonempty : run ≠ []) (chain : run.IsChain fun upper lower => Item.together upper lower = true)
    (apart : ∀ last ∈ run.getLast?, ∀ next ∈ rest.head?, Item.together last next = false) :
    itemsText above (run ++ rest) = above.gap ++ runText run ++ itemsText .block rest := by
  -- A class is a block of its own, and a block that a statement starts holds statements only.
  cases run with
  | nil => contradiction
  | cons first later =>
      cases first with
      | classDecl decl =>
          cases later with
          | nil => cases above <;> simp [itemsText, Above.gap, runText, Item.text]
          | cons next others => simp [Item.together] at chain
      | stmt statement =>
          have tail := itemsText_statements statement later chain apart
          cases above with
          | statement => contradiction
          | _ => simp [itemsText, tail, Above.gap, runText, Item.text, String.append_assoc]

theorem itemsText_runs {runs : List (List Item)} (nonempty : ∀ run ∈ runs, run ≠ [])
    (chains : ∀ run ∈ runs, run.IsChain fun upper lower => Item.together upper lower = true)
    (apart : runs.IsChain fun upper lower => ∃ upperNonempty lowerNonempty,
      Item.together (upper.getLast upperNonempty) (lower.head lowerNonempty) = false) :
    itemsText .block runs.flatten = belowText (runs.map runText) := by
  induction runs with
  | nil => rfl
  | cons run rest ih =>
      obtain ⟨runNonempty, restNonempty⟩ := List.forall_mem_cons.mp nonempty
      obtain ⟨runChain, restChains⟩ := List.forall_mem_cons.mp chains
      obtain ⟨runApart, restApart⟩ := List.isChain_cons.mp apart
      have next : ∀ last ∈ run.getLast?, ∀ item ∈ rest.flatten.head?,
          Item.together last item = false := by
        intro last isLast item isItem
        cases rest with
        | nil => simp at isItem
        | cons other others =>
            obtain ⟨_, otherNonempty, separate⟩ := runApart other rfl
            rw [List.flatten_cons, List.head?_append_of_ne_nil _ otherNonempty] at isItem
            rw [← List.getLast_of_mem_getLast? isLast, ← List.head_of_mem_head? isItem]
            exact separate
      rw [List.flatten_cons, itemsText_run (by decide) runNonempty runChain next,
        ih restNonempty restChains restApart]
      simp [belowText, Above.gap]

theorem runTexts_ne_empty (items : List Item) : ∀ text ∈ runTexts items, text ≠ "" :=
  List.forall_mem_map.mpr fun _ member => runText_ne_empty (List.ne_nil_of_mem_splitBy member)

theorem runTexts_ne_nil {items : List Item} (nonempty : items ≠ []) : runTexts items ≠ [] := by
  rwa [runTexts, ne_eq, List.map_eq_nil_iff, List.splitBy_eq_nil]

theorem itemsText_below (items : List Item) :
    itemsText .block items = belowText (runTexts items) := by
  rw [runTexts, ← itemsText_runs (fun _ => List.ne_nil_of_mem_splitBy)
    (fun _ => List.isChain_of_mem_splitBy) (List.isChain_getLast_head_splitBy _ _),
    List.flatten_splitBy]

theorem itemsText_first {above : Above} (fresh : above = .nothing ∨ above = .blankLine)
    (items : List Item) : itemsText above items = blocksText (runTexts items) := by
  cases items with
  | nil => rfl
  | cons item later =>
      have gap : itemsText .block (item :: later) = "\n" ++ itemsText above (item :: later) := by
        rcases fresh with rfl | rfl <;> cases item <;> simp [itemsText, String.append_assoc]
      have below := itemsText_below (item :: later)
      have nonempty := runTexts_ne_empty (item :: later)
      cases runs : runTexts (item :: later) with
      | nil => exact absurd runs (runTexts_ne_nil (List.cons_ne_nil item later))
      | cons run others =>
          rw [runs] at nonempty below
          obtain ⟨runNonempty, othersNonempty⟩ := List.forall_mem_cons.mp nonempty
          rw [gap, belowText, List.map_cons, String.join_cons, String.append_assoc,
            String.append_right_inj] at below
          rw [blocksText_cons runNonempty othersNonempty, below, belowText]

/-- What stands below the header of a module. -/
theorem Module.below_eq_blocks (module : Module) {above : Above}
    (fresh : above = .nothing ∨ above = .blankLine) :
    String.join (module.imports.map Import.line) ++
        itemsText (if module.imports.isEmpty then above else .block) module.items =
      blocksText (String.join (module.imports.map Import.line) :: runTexts module.items) := by
  cases module.imports with
  | nil => simpa [blocksText_empty_cons] using itemsText_first fresh module.items
  | cons first others =>
      have nonempty : String.join ((first :: others).map Import.line) ≠ "" := by
        cases first <;> exact join_ne_empty line_ne_empty
      rw [blocksText_cons nonempty (runTexts_ne_empty _), ← itemsText_below]
      rfl

theorem Module.exists_block (module : Module)
    (filled : ¬ (module.imports = [] ∧ module.items = [])) :
    ∃ text ∈ String.join (module.imports.map Import.line) :: runTexts module.items, text ≠ "" := by
  cases imports : module.imports with
  | nil =>
      have items : module.items ≠ [] := fun empty => filled ⟨imports, empty⟩
      obtain ⟨text, member⟩ := List.exists_mem_of_ne_nil _ (runTexts_ne_nil items)
      exact ⟨text, List.mem_cons_of_mem _ member, runTexts_ne_empty _ text member⟩
  | cons first others =>
      refine ⟨_, List.mem_cons_self, join_ne_empty ?_⟩
      cases first <;> exact line_ne_empty

/-- The blocks of a module are all of its text, but that a header stands above a blank line even
where nothing follows. -/
theorem Module.text_eq_blocks (module : Module) :
    module.text = blocksText module.sections ++
      (if module.header ≠ [] ∧ module.imports = [] ∧ module.items = [] then "\n" else "") := by
  cases header : module.header with
  | nil =>
      have below := module.below_eq_blocks (Or.inl rfl)
      simp [Module.text, sections, header, blocksText_empty_cons, ← below]
  | cons first others =>
      have nonempty : String.join ((first :: others).map fun text => line 0 ("// " ++ text)) ≠ "" :=
        join_ne_empty line_ne_empty
      have below := module.below_eq_blocks (Or.inr rfl)
      by_cases bare : module.imports = [] ∧ module.items = []
      · obtain ⟨imports, items⟩ := bare
        have alone : blocksText (sections module) =
            String.join ((first :: others).map fun text => line 0 ("// " ++ text)) := by
          rw [sections, header, imports, items]
          exact blocksText_pair_empty _
        rw [alone, Module.text, header, imports, items]
        simp [itemsText]
      · have shown := module.exists_block bare
        rw [sections, header, blocksText_above nonempty shown, ← below]
        simp [Module.text, header, bare, String.append_assoc]

end Homeplan.TypeScript
