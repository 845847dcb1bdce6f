import Homeplan.Artifact.Stub
import Homeplan.Proofs.Room.Names
import Homeplan.Proofs.Text.Lines
import Homeplan.TypeScript.Text

namespace Homeplan

/-! What stands above the class of a customization stub.

The long name of a room is free text in a comment, and a comment ends with its line.  Below the
comments, a stub is the same for every room but for the name of its class.
-/

namespace TypeScript

/-- The characters that end a line of source, and a comment on it. -/
def isLineBreak (character : Char) : Bool :=
  ['\n', '\r', '\u2028', '\u2029'].contains character

def sourceLines (text : String) : List String :=
  (text.toList.splitOnP isLineBreak).map String.ofList

/-- The line holds no code: it is blank or a comment. -/
def Codeless (line : String) : Prop :=
  Text.isBlank line = true ∨ "//".toList <+: line.toList

instance (line : String) : Decidable (Codeless line) := inferInstanceAs (Decidable (_ ∨ _))

theorem codeless_append {start : String} (comment : "//".toList <+: start.toList)
    (rest : String) : Codeless (start ++ rest) := by
  refine Or.inr (comment.trans ?_)
  simp

theorem sourceLines_append_break (upper lower : String) :
    sourceLines (upper ++ "\n" ++ lower) = sourceLines upper ++ sourceLines lower := by
  have broken : (upper ++ "\n" ++ lower).toList = upper.toList ++ '\n' :: lower.toList := by simp
  rw [sourceLines, broken, List.splitOnP_append_cons _ _ (by decide), List.map_append]
  rfl

theorem splitOnP_append {start : List Char} (whole : start.all (!isLineBreak ·) = true)
    (rest : List Char) :
    ∃ first, (start ++ rest).splitOnP isLineBreak =
      (start ++ first) :: (rest.splitOnP isLineBreak).tail := by
  induction start with
  | nil =>
      obtain ⟨first, later, pieces⟩ :=
        List.exists_cons_of_ne_nil (List.splitOnP_ne_nil isLineBreak rest)
      exact ⟨first, by simp [pieces]⟩
  | cons character start ih =>
      obtain ⟨notBreak, startWhole⟩ := by
        simpa only [List.all_cons, Bool.and_eq_true, Bool.not_eq_true'] using whole
      obtain ⟨first, pieces⟩ := ih startWhole
      refine ⟨first, ?_⟩
      simp [List.splitOnP_cons_eq_if_modifyHead, notBreak, pieces]

/-- What stands before a text on the same line changes its first line only. -/
theorem sourceLines_append (start : String)
    (whole : start.toList.all (!isLineBreak ·) = true) (rest : String) :
    ∃ first, sourceLines (start ++ rest) = (start ++ first) :: (sourceLines rest).tail := by
  obtain ⟨first, pieces⟩ := splitOnP_append whole rest.toList
  exact ⟨String.ofList first, by simp [sourceLines, pieces]⟩

end TypeScript

open TypeScript

namespace Room

/-- The lines above the class of a stub, if the long name stays on its line. -/
def stubComments (longName : String) : List String :=
  ["// " ++ ("Customization hooks for room " ++ (longName ++ ".")),
    "// Created once by roomgen and never overwritten afterwards.", ""]

theorem exists_stub_text : ∃ below, ∀ room : Room,
    room.toStub.text = Text.unlines (stubComments room.longName) ++
      ("export class " ++ room.customizationClass ++ below) := by
  let methods := hooks.map fun hook => hookMethod hook.1 hook.2
  refine ⟨" \x7b\n" ++ spacedText true (methods.map Method.text) ++ "\x7d\n", fun room => ?_⟩
  simp [toStub, Module.text, itemsText, ClassDecl.text, ClassDecl.opening, ClassDecl.parts,
    TypeScript.line, TypeScript.indent, stubComments, Text.unlines, String.append_assoc, methods]

/-- The first line of the long name follows the slashes, and every other line of it stands alone. -/
theorem codeless_stubComments_iff (longName : String) :
    (∀ line ∈ sourceLines (Text.unlines (stubComments longName)), Codeless line) ↔
      ∀ line ∈ (sourceLines (longName ++ ".")).tail, Codeless line := by
  have created : ∀ line ∈ sourceLines (Text.unlines
      ["// Created once by roomgen and never overwritten afterwards.", ""]), Codeless line := by
    decide +kernel
  -- Two texts without a line break stand before the long name, one behind the other.
  obtain ⟨named, namedLines⟩ :=
    sourceLines_append "Customization hooks for room " (by decide +kernel) (longName ++ ".")
  obtain ⟨commented, commentedLines⟩ := sourceLines_append "// " (by decide +kernel)
    ("Customization hooks for room " ++ (longName ++ "."))
  have comment : Codeless ("// " ++ commented) := codeless_append (by decide +kernel) commented
  rw [stubComments, Text.unlines_cons, sourceLines_append_break, List.forall_mem_append,
    commentedLines, namedLines, List.tail_cons, List.forall_mem_cons]
  constructor
  · rintro ⟨⟨_, codeless⟩, _⟩
    exact codeless
  · intro codeless
    exact ⟨⟨comment, codeless⟩, created⟩

/-- The stub of a room is that of any other one from the class on, up to its name.  Above the class
there are comments and blank lines only, if and only if this is so for every line of the long name
but the first. -/
theorem stub_codeless_above_class_iff {plan : RoomPlan} {room : Room}
    (accepted : Room.ofPlan plan = .ok room) : ∃ above below,
      room.toStub.text = above ++ ("export class " ++ room.customizationClass ++ below) ∧
      Text.EndsLine above ∧
      ((∀ line ∈ sourceLines above, Codeless line) ↔
        ∀ line ∈ (sourceLines (plan.longName ++ ".")).tail, Codeless line) ∧
      ∀ otherPlan other, Room.ofPlan otherPlan = .ok other → ∃ otherAbove,
        other.toStub.text =
          otherAbove ++ ("export class " ++ other.customizationClass ++ below) ∧
        Text.EndsLine otherAbove := by
  obtain ⟨below, stubs⟩ := exists_stub_text
  have ends (longName : String) : Text.EndsLine (Text.unlines (stubComments longName)) :=
    Text.endsLine_unlines (List.cons_ne_nil _ _)
  refine ⟨_, below, stubs room, ends room.longName, ?_, fun _ other _ => ?_⟩
  · obtain ⟨_, rfl⟩ := ofPlan_eq_ok_iff.mp accepted
    exact codeless_stubComments_iff plan.longName
  · exact ⟨_, stubs other, ends other.longName⟩

/-- A long name can go on in a comment of its own. -/
theorem stub_codeless_above_class_of_commented_line :
    let buero : RoomPlan := { shortName := "Buero", longName := "Büro\n// im Anbau", floor := 1 }
    Room.ofPlan buero = .ok (vacant buero) ∧ ∃ above below,
      (vacant buero).toStub.text =
        above ++ ("export class " ++ (vacant buero).customizationClass ++ below) ∧
      ∀ line ∈ sourceLines above, Codeless line := by
  intro buero
  have accepted : Room.ofPlan buero = .ok (vacant buero) := by decide +kernel
  obtain ⟨above, below, text, _, codeless, _⟩ := stub_codeless_above_class_iff accepted
  exact ⟨accepted, above, below, text, codeless.mpr (by decide +kernel)⟩

/-- What follows a line break in the long name stands in the stub as code. -/
theorem stub_code_from_long_name :
    let buero : RoomPlan := { shortName := "Buero", longName := "Büro\nalert(1);", floor := 1 }
    Room.ofPlan buero = .ok (vacant buero) ∧ ∃ above below,
      (vacant buero).toStub.text =
        above ++ ("export class " ++ (vacant buero).customizationClass ++ below) ∧
      sourceLines above =
        ["// Customization hooks for room Büro", "alert(1);.",
          "// Created once by roomgen and never overwritten afterwards.", "", ""] ∧
      ¬ Codeless "alert(1);." := by
  intro buero
  obtain ⟨below, stubs⟩ := exists_stub_text
  exact ⟨by decide +kernel, _, below, stubs (vacant buero), by decide +kernel, by decide +kernel⟩

end Room

end Homeplan
