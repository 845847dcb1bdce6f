import Homeplan.Proofs.TypeScript.Lines

namespace Homeplan.TypeScript

/-! Statements, each on a line of its own.

A line is looked at without the writer: blanks for the depth, letters without a line feed or a
carriage return, and one line feed at the end.
-/

open Text

def BreakFree (text : String) : Prop := ∀ letter ∈ text.toList, ¬ IsLineBreak letter

instance (text : String) : Decidable (BreakFree text) := List.decidableBAll _ _

/-- A whole line at some depth, and nothing behind it. -/
def IsLine (depth : Nat) (written : String) : Prop :=
  ∃ text, BreakFree text ∧ written.toList = List.replicate (2 * depth) ' ' ++ text.toList ++ ['\n']

theorem isLine_line_iff {depth : Nat} {text : String} :
    IsLine depth (line depth text) ↔ BreakFree text := by
  have letters : (line depth text).toList =
      List.replicate (2 * depth) ' ' ++ text.toList ++ ['\n'] := by simp [line, indent]
  constructor
  · rintro ⟨other, whole, same⟩
    rw [letters, List.append_cancel_right_eq, List.append_cancel_left_eq] at same
    rwa [String.toList_injective same]
  · intro whole
    exact ⟨text, whole, letters⟩

theorem Stmt.breakFree_text_iff {statement : Stmt} :
    BreakFree statement.text ↔ ∀ raw ∈ statement.spliced, BreakFree raw := by
  constructor
  · intro whole raw isRaw letter inRaw isBreak
    exact whole letter ((statement.mem_text_iff isBreak).mpr ⟨raw, isRaw, inRaw⟩) isBreak
  · intro whole letter inText isBreak
    obtain ⟨raw, isRaw, inRaw⟩ := (statement.mem_text_iff isBreak).mp inText
    exact whole raw isRaw letter inRaw isBreak

theorem BreakFree.unbroken {text : String} (whole : BreakFree text) : Unbroken text :=
  fun broken => whole '\n' broken (Or.inl rfl)

theorem blockText_eq_unlines (depth : Nat) (body : List Stmt) :
    blockText depth body = unlines (body.map fun statement => indent depth ++ statement.text) := by
  rw [blockText, unlines, List.map_map]
  rfl

/-- A block is read back line by line, one for each statement. -/
theorem lines_blockText (depth : Nat) {body : List Stmt}
    (whole : ∀ statement ∈ body, ∀ raw ∈ statement.spliced, BreakFree raw) :
    lines (blockText depth body) = body.map fun statement => indent depth ++ statement.text := by
  rw [blockText_eq_unlines]
  apply lines_unlines
  refine List.forall_mem_map.mpr fun statement member => unbroken_append.mpr ?_
  have text := Stmt.breakFree_text_iff.mpr (whole statement member)
  exact ⟨unbroken_indent depth, text.unbroken⟩

/-- A statement is written on exactly one line if and only if no name, type or comment in it brings
a line break along, whatever strings, properties and JSON values it holds.  So a block of such
statements has one line for each of them. -/
theorem statements_take_one_line_iff :
    (∀ (statement : Stmt) (depth : Nat), IsLine depth (statement.line depth) ↔
      ∀ raw ∈ statement.spliced, BreakFree raw) ∧
    ∀ (body : List Stmt) (depth : Nat),
      (∀ statement ∈ body, ∀ raw ∈ statement.spliced, BreakFree raw) →
      lines (blockText depth body) = body.map fun statement => indent depth ++ statement.text := by
  refine ⟨fun statement depth => ?_, fun body depth => lines_blockText depth⟩
  rw [Stmt.line, isLine_line_iff, Stmt.breakFree_text_iff]

/-- Line breaks in a string, in properties and in settings, and one in a comment. -/
theorem settings_assigned_on_one_line :
    let settings : Json := .object [("first\nkey", .array [.text "\r\n", .object [("", .null)]])]
    let assignment : Stmt := .assign (.member (.member .self "night\nmode") "stufe")
      (.call (.cast (.construct "Map" [.string "a\r\nb"]) "Store") [.json settings, .integer (-7)])
    (∀ raw ∈ assignment.spliced, BreakFree raw) ∧ IsLine 2 (assignment.line 2) ∧
      lines (blockText 1 [assignment, .comment "Later."]) =
        ["  this['night\\nmode'].stufe = new Map('a\\r\\nb') as Store(" ++
            "\x7b\"first\\nkey\":[\"\\r\\n\",\x7b\"\":null\x7d]\x7d, -7);", "  // Later."] ∧
      ¬ IsLine 0 (Stmt.line 0 (.comment "Now\rand later.")) := by
  intro settings assignment
  obtain ⟨isLine_iff, lines_block⟩ := statements_take_one_line_iff
  have whole : ∀ raw ∈ assignment.spliced, BreakFree raw := by decide
  have ofBody : ∀ statement ∈ [assignment, .comment "Later."],
      ∀ raw ∈ statement.spliced, BreakFree raw := by
    simpa using ⟨whole, by decide⟩
  refine ⟨whole, (isLine_iff assignment 2).mpr whole, ?_, ?_⟩
  · rw [lines_block _ 1 ofBody]
    decide +kernel
  · rw [isLine_iff]
    decide

end Homeplan.TypeScript
