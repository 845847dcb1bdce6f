import Homeplan.Proofs.Text
import Homeplan.Proofs.Text.Unbroken
import Mathlib.Data.List.Chain

namespace Homeplan

/-! The lines of a text, and the blank ones among them. -/

namespace Text

/-- The lines of a text.  A line break at the end of the text ends the last line. -/
def lines (text : String) : List String :=
  let pieces := text.toList.splitOn '\n'
  (if pieces.getLast? = some [] then pieces.dropLast else pieces).map String.ofList

def unlines (lines : List String) : String := String.join (lines.map (· ++ "\n"))

theorem unlines_append (upper lower : List String) :
    unlines (upper ++ lower) = unlines upper ++ unlines lower := by
  simp [unlines]

theorem unlines_cons (line : String) (rest : List String) :
    unlines (line :: rest) = line ++ "\n" ++ unlines rest := by
  simp [unlines]

theorem lines_unlines {all : List String} (unbroken : ∀ line ∈ all, Unbroken line) :
    lines (unlines all) = all := by
  have pieces : (unlines all).toList.splitOn '\n' = all.map String.toList ++ [[]] := by
    induction all with
    | nil => rfl
    | cons line rest ih =>
        obtain ⟨lineUnbroken, restUnbroken⟩ := List.forall_mem_cons.mp unbroken
        have text : (unlines (line :: rest)).toList =
            line.toList ++ '\n' :: (unlines rest).toList := by simp [unlines]
        rw [text, List.splitOn_append_cons_self_of_not_mem lineUnbroken, ih restUnbroken]
        rfl
  simp [lines, pieces, Function.comp_def]

/-- Lines of which the first and the last one show something, without two blank ones in a row. -/
structure WellSpaced (lines : List String) : Prop where
  nonempty : lines ≠ []
  first : ∀ line ∈ lines.head?, isBlank line = false
  last : ∀ line ∈ lines.getLast?, isBlank line = false
  between : lines.IsChain fun upper lower => isBlank upper = false ∨ isBlank lower = false

theorem WellSpaced.single {line : String} (shown : isBlank line = false) : WellSpaced [line] where
  nonempty := List.cons_ne_nil line []
  first := by simpa using shown
  last := by simpa using shown
  between := List.isChain_singleton line

theorem WellSpaced.append {upper lower : List String} (above : WellSpaced upper)
    (below : WellSpaced lower) : WellSpaced (upper ++ lower) where
  nonempty := List.append_ne_nil_of_left_ne_nil above.nonempty lower
  first := by
    rw [List.head?_append_of_ne_nil _ above.nonempty]
    exact above.first
  last := by
    rw [List.getLast?_append_of_ne_nil _ below.nonempty]
    exact below.last
  between := List.isChain_append.mpr ⟨above.between, below.between, fun line isLast _ _ =>
    Or.inl (above.last line isLast)⟩

theorem WellSpaced.aboveBlank {upper lower : List String} (above : WellSpaced upper)
    (below : WellSpaced lower) : WellSpaced (upper ++ "" :: lower) where
  nonempty := List.append_ne_nil_of_left_ne_nil above.nonempty _
  first := by
    rw [List.head?_append_of_ne_nil _ above.nonempty]
    exact above.first
  last := by
    rw [List.getLast?_append_of_ne_nil _ (List.cons_ne_nil _ _),
      List.getLast?_cons_of_ne_nil below.nonempty]
    exact below.last
  between := List.isChain_append.mpr ⟨above.between, List.isChain_cons.mpr
    ⟨fun line isFirst => Or.inr (below.first line isFirst), below.between⟩, fun line isLast _ _ =>
    Or.inl (above.last line isLast)⟩

/-- The text is made of well-spaced lines. -/
def Spaced (text : String) : Prop :=
  ∃ lines, text = unlines lines ∧ (∀ line ∈ lines, Unbroken line) ∧ WellSpaced lines

theorem Spaced.append {upper lower : String} (above : Spaced upper) (below : Spaced lower) :
    Spaced (upper ++ lower) := by
  obtain ⟨upperLines, rfl, upperUnbroken, upperSpaced⟩ := above
  obtain ⟨lowerLines, rfl, lowerUnbroken, lowerSpaced⟩ := below
  exact ⟨upperLines ++ lowerLines, (unlines_append ..).symm,
    List.forall_mem_append.mpr ⟨upperUnbroken, lowerUnbroken⟩, upperSpaced.append lowerSpaced⟩

theorem Spaced.aboveBlank {upper lower : String} (above : Spaced upper) (below : Spaced lower) :
    Spaced (upper ++ "\n" ++ lower) := by
  obtain ⟨upperLines, rfl, upperUnbroken, upperSpaced⟩ := above
  obtain ⟨lowerLines, rfl, lowerUnbroken, lowerSpaced⟩ := below
  refine ⟨upperLines ++ "" :: lowerLines, ?_, ?_, upperSpaced.aboveBlank lowerSpaced⟩
  · simp [unlines, String.append_assoc]
  · exact List.forall_mem_append.mpr ⟨upperUnbroken, List.forall_mem_cons.mpr
      ⟨by decide, lowerUnbroken⟩⟩

theorem isBlank_append_eq_false {left right : String} (shown : isBlank right = false) :
    isBlank (left ++ right) = false := by
  obtain ⟨character, member, visible⟩ := isBlank_eq_false_iff.mp shown
  exact isBlank_eq_false_iff.mpr ⟨character, by simp [member], visible⟩

theorem isBlank_of_mem {text : String} (shown : Char) (member : shown ∈ text.toList)
    (visible : isWhiteSpace shown = false) : isBlank text = false :=
  isBlank_eq_false_iff.mpr ⟨shown, member, visible⟩

/-- The first line shows something, and no two blank lines follow each other. -/
structure SingleSpaced (text : String) : Prop where
  first : ∀ line ∈ (lines text).head?, isBlank line = false
  between : (lines text).IsChain fun upper lower => isBlank upper = false ∨ isBlank lower = false

theorem singleSpaced_empty : SingleSpaced "" := by
  have none : lines "" = [] := by simp [lines]
  constructor <;> simp [none]

theorem Spaced.singleSpaced {text : String} (spaced : Spaced text) : SingleSpaced text := by
  obtain ⟨all, rfl, unbroken, wellSpaced⟩ := spaced
  constructor
  · rw [lines_unlines unbroken]
    exact wellSpaced.first
  · rw [lines_unlines unbroken]
    exact wellSpaced.between

theorem Spaced.singleSpaced_above_blank {text : String} (spaced : Spaced text) :
    SingleSpaced (text ++ "\n") := by
  obtain ⟨all, rfl, unbroken, wellSpaced⟩ := spaced
  have asLines : unlines all ++ "\n" = unlines (all ++ [""]) := by simp [unlines]
  have ofLines : lines (unlines (all ++ [""])) = all ++ [""] :=
    lines_unlines (List.forall_mem_append.mpr ⟨unbroken, by decide⟩)
  rw [asLines]
  constructor
  · rw [ofLines, List.head?_append_of_ne_nil _ wellSpaced.nonempty]
    exact wellSpaced.first
  · rw [ofLines]
    exact List.isChain_append.mpr ⟨wellSpaced.between, List.isChain_singleton _,
      fun line isLast _ _ => Or.inl (wellSpaced.last line isLast)⟩

/-- The text ends with a line break. -/
def EndsLine (text : String) : Prop := ∃ start, text = start ++ "\n"

theorem EndsLine.append {upper lower : String} (below : EndsLine lower) :
    EndsLine (upper ++ lower) := by
  obtain ⟨start, rfl⟩ := below
  exact ⟨upper ++ start, (String.append_assoc ..).symm⟩

theorem endsLine_unlines {all : List String} (nonempty : all ≠ []) : EndsLine (unlines all) := by
  rw [← List.dropLast_append_getLast nonempty, unlines_append]
  exact EndsLine.append ⟨all.getLast nonempty, by simp [unlines]⟩

end Text

end Homeplan
