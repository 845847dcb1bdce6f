import Homeplan.FileSystem
import Homeplan.Proofs.Path
import Mathlib.Data.List.DropRight

namespace Homeplan.Path

/-! The steps of paths that are put together, and of the path that leads to the folder of a file.

Steps are read off the parts between slashes, so each fact is one about splitting and joining first.
-/

/-! ## Parts -/

theorem split_ne_nil (characters : List Char) : split characters ≠ [] := by
  induction characters with
  | nil => exact List.cons_ne_nil _ _
  | cons first rest ih =>
      unfold split
      split
      · exact List.cons_ne_nil _ _
      · cases split rest <;> exact List.cons_ne_nil _ _

theorem split_cons {first : Char} (notSlash : first ≠ '/') (rest : List Char) :
    ∃ part parts, split rest = part :: parts ∧ split (first :: rest) = (first :: part) :: parts := by
  obtain ⟨part, parts, parted⟩ := List.exists_cons_of_ne_nil (split_ne_nil rest)
  exact ⟨part, parts, parted, by simp [split, notSlash, parted]⟩

theorem split_append (left right : List Char) :
    split (left ++ '/' :: right) = split left ++ split right := by
  induction left with
  | nil => simp [split]
  | cons first rest ih =>
      by_cases slash : first = '/'
      · simp [split, slash, ih]
      · obtain ⟨part, parts, parted, whole⟩ := split_cons slash rest
        obtain ⟨longPart, longParts, longParted, longWhole⟩ :=
          split_cons slash (rest ++ '/' :: right)
        rw [ih, parted, List.cons_append, List.cons.injEq] at longParted
        rw [List.cons_append, longWhole, whole, ← longParted.1, ← longParted.2]
        rfl

theorem slashFree_of_mem_split {characters part : List Char} (member : part ∈ split characters) :
    '/' ∉ part := by
  induction characters generalizing part with
  | nil =>
      obtain rfl := List.mem_singleton.mp member
      exact List.not_mem_nil
  | cons first rest ih =>
      by_cases slash : first = '/'
      · rw [split, if_pos slash] at member
        rcases List.mem_cons.mp member with rfl | later
        · exact List.not_mem_nil
        · exact ih later
      · obtain ⟨head, parts, parted, whole⟩ := split_cons slash rest
        rw [whole] at member
        rcases List.mem_cons.mp member with rfl | later
        · have headFree : '/' ∉ head := ih (by simp [parted])
          simp [headFree, Ne.symm slash]
        · exact ih (by simp [parted, later])

theorem join_split (characters : List Char) : join (split characters) = characters := by
  induction characters with
  | nil => rfl
  | cons first rest ih =>
      by_cases slash : first = '/'
      · obtain ⟨part, parts, parted⟩ := List.exists_cons_of_ne_nil (split_ne_nil rest)
        rw [split, if_pos slash, parted, join, ← parted, ih, slash, List.nil_append]
      · obtain ⟨part, parts, parted, whole⟩ := split_cons slash rest
        rw [parted] at ih
        rw [whole, ← ih]
        cases parts <;> rfl

theorem split_join {parts : List (List Char)} (nonempty : parts ≠ [])
    (slashFree : ∀ part ∈ parts, '/' ∉ part) : split (join parts) = parts := by
  induction parts with
  | nil => contradiction
  | cons part rest ih =>
      obtain ⟨partFree, restFree⟩ := List.forall_mem_cons.mp slashFree
      cases rest with
      | nil => exact split_of_slashFree partFree
      | cons next later =>
          rw [join, split_append_slash partFree, ih (List.cons_ne_nil _ _) restFree]

theorem join_isPrefix_join {first whole : List (List Char)} (before : first <+: whole) :
    join first <+: join whole := by
  induction first generalizing whole with
  | nil => exact List.nil_prefix
  | cons part rest ih =>
      cases whole with
      | nil => simp at before
      | cons head later =>
          obtain ⟨rfl, further⟩ := List.cons_prefix_cons.mp before
          have tails := ih further
          cases rest with
          | nil => cases later <;> simp [join]
          | cons next others =>
              cases later with
              | nil => simp at further
              | cons second more => simpa [join] using tails

/-- The steps behind some characters, as far as a path goes on with them. -/
def stepsOf (parts : List (List Char)) : List String :=
  (parts.filter (counts false)).map String.ofList

theorem steps_eq (path : Path) : path.steps = stepsOf (split path.text.toList) := rfl

theorem split_here (text : String) : split ("./" ++ text).toList = ['.'] :: split text.toList := by
  have slashFree : '/' ∉ ['.'] := by decide
  rw [String.toList_append]
  exact split_append_slash slashFree text.toList

theorem steps_here (text : String) : (⟨"./" ++ text⟩ : Path).steps = (⟨text⟩ : Path).steps := by
  rw [steps_eq, split_here]
  rfl

theorem stepsOf_append (first later : List (List Char)) :
    stepsOf (first ++ later) = stepsOf first ++ stepsOf later := by
  simp [stepsOf]

theorem ending_eq_plain_iff {path : Path} {before : List (List Char)} {last : List Char}
    (parted : split path.text.toList = before ++ [last]) :
    path.ending = .plain ↔ last ≠ [] ∧ last ≠ ['.'] := by
  have isEmpty : path.text.isEmpty = true → last = [] := by
    intro empty
    rw [String.isEmpty_iff.mp empty] at parted
    have same : before ++ [last] = [] ++ [[]] := parted.symm
    exact List.singleton_inj.mp (List.append_inj' same rfl).2
  simp only [ending, parted, List.getLast?_concat, List.filter_append, Option.some.injEq]
  by_cases noName : last = []
  · simp only [noName, ne_eq, not_true_eq_false, false_and, iff_false, if_true]
    split
    · exact Ending.noConfusion
    · split <;> exact Ending.noConfusion
  · have notEmpty : ¬ path.text.isEmpty = true := mt isEmpty noName
    simp [notEmpty, noName]

/-- A path that ends with a name; `before` are the parts in front of it. -/
structure EndsIn (path : Path) (before : List (List Char)) (last : List Char) : Prop where
  parted : split path.text.toList = before ++ [last]
  nonempty : last ≠ []
  notHere : last ≠ ['.']

theorem exists_endsIn {path : Path} (plain : path.ending = .plain) :
    ∃ before last, path.EndsIn before last := by
  rcases List.eq_nil_or_concat' (split path.text.toList) with empty | ⟨before, last, parted⟩
  · exact absurd empty (split_ne_nil _)
  · obtain ⟨nonempty, notHere⟩ := (ending_eq_plain_iff parted).mp plain
    exact ⟨before, last, parted, nonempty, notHere⟩

section EndsIn

variable {path : Path} {before : List (List Char)} {last : List Char}

theorem EndsIn.plain (ends : path.EndsIn before last) : path.ending = .plain :=
  (ending_eq_plain_iff ends.parted).mpr ⟨ends.nonempty, ends.notHere⟩

theorem EndsIn.counts (ends : path.EndsIn before last) (mayBeDot : Bool) :
    Path.counts mayBeDot last = true := by
  simp [Path.counts, ends.nonempty, ends.notHere]

theorem EndsIn.steps (ends : path.EndsIn before last) :
    path.steps = stepsOf before ++ [String.ofList last] := by
  rw [steps_eq, ends.parted, stepsOf_append]
  simp [stepsOf, ends.counts]

/-- What a path begins with if it is absolute. -/
def start (path : Path) : List Char := if path.isAbsolute then ['/'] else []

theorem text_eq (path : Path) : path.text.toList = path.start ++ join path.parts := by
  rw [start, Path.parts]
  split
  · rename_i absolute
    rw [join_split]
    cases characters : path.text.toList with
    | nil => simp [isAbsolute, characters] at absolute
    | cons first rest =>
        have slash : first = '/' := by simpa [isAbsolute, characters] using absolute
        simp [slash]
  · rw [join_split, List.nil_append]

/-- Behind its start, the path has the same last part, and the same steps in front of it. -/
theorem EndsIn.exists_inner (ends : path.EndsIn before last) :
    ∃ inner, path.parts = inner ++ [last] ∧ stepsOf inner = stepsOf before := by
  by_cases absolute : path.isAbsolute = true
  · have text := path.text_eq
    have parted := ends.parted
    rw [Path.parts, if_pos absolute] at text ⊢
    rw [start, if_pos absolute, join_split, List.singleton_append] at text
    rw [text, split, if_pos rfl] at parted
    obtain ⟨inner, final, whole⟩ := (List.eq_nil_or_concat'
      (split (path.text.toList.drop 1))).resolve_left (split_ne_nil _)
    rw [whole, ← List.cons_append] at parted
    obtain ⟨sameBefore, sameLast⟩ := List.append_inj' parted rfl
    refine ⟨inner, by rw [whole, List.singleton_inj.mp sameLast], ?_⟩
    rw [← sameBefore]
    simp [stepsOf, Path.counts]
  · refine ⟨before, ?_, rfl⟩
    rw [Path.parts, if_neg absolute, ends.parted]

theorem counts_false_of_counts {mayBeDot : Bool} {part : List Char}
    (uncounted : Path.counts mayBeDot part = false) : Path.counts false part = false := by
  cases mayBeDot <;> simp_all [Path.counts]

theorem EndsIn.exists_marked (ends : path.EndsIn before last) {inner : List (List Char)}
    (parts : path.parts = inner ++ [last]) :
    ∃ marked, path.markedParts = marked ++ [(last, true)] ∧ marked.map (·.1) = inner ∧
      ∀ entry ∈ marked, entry.2 = false → Path.counts false entry.1 = false := by
  rw [markedParts, parts]
  cases inner with
  | nil => exact ⟨[], by simp [ends.counts], rfl, List.forall_mem_nil _⟩
  | cons first rest =>
      refine ⟨(first, Path.counts (!path.isAbsolute) first) ::
        rest.map (fun part => (part, Path.counts false part)), ?_, ?_, ?_⟩
      · simp [ends.counts]
      · simp [Function.comp_def]
      · rw [List.forall_mem_cons, List.forall_mem_map]
        exact ⟨counts_false_of_counts, fun part _ => id⟩

/-- The parent of a path keeps the steps in front of the last one. -/
theorem EndsIn.exists_parent (ends : path.EndsIn before last) :
    ∃ parent kept inner, path.parent? = some parent ∧
      parent.text.toList = path.start ++ join kept ∧ path.parts = inner ++ [last] ∧
      kept <+: inner ∧ stepsOf kept = stepsOf before := by
  obtain ⟨inner, parts, sameSteps⟩ := ends.exists_inner
  obtain ⟨marked, markedParts, rfl, uncounted⟩ := ends.exists_marked parts
  have parent : path.parent? = some ⟨String.ofList (path.start ++
      join ((marked.rdropWhile fun part => !part.2).map (·.1)))⟩ := by
    rw [parent?, markedParts, List.reverse_append, start]
    cases path.isAbsolute <;> rfl
  refine ⟨_, (marked.rdropWhile fun part => !part.2).map (·.1), _, parent, String.toList_ofList ..,
    parts, (List.rdropWhile_prefix ..).map _, ?_⟩
  -- What is dropped does not count.
  have dropped : stepsOf ((marked.rtakeWhile fun part => !part.2).map (·.1)) = [] := by
    rw [stepsOf, List.map_eq_nil_iff, List.filter_eq_nil_iff, List.forall_mem_map]
    intro entry member
    have unmarked := List.mem_rtakeWhile_imp member
    have inMarked := (List.rtakeWhile_suffix ..).subset member
    simpa using uncounted entry inMarked (by simpa using unmarked)
  have whole : (marked.rdropWhile fun part => !part.2) ++ (marked.rtakeWhile fun part => !part.2) =
      marked :=
    List.rdropWhile_append_rtakeWhile
  calc
    _ = stepsOf ((marked.rdropWhile fun part => !part.2).map (·.1)) ++
        stepsOf ((marked.rtakeWhile fun part => !part.2).map (·.1)) := by
      rw [dropped, List.append_nil]
    _ = stepsOf (marked.map (·.1)) := by rw [← stepsOf_append, ← List.map_append, whole]
    _ = stepsOf before := sameSteps

structure IsFolderOf (parent path : Path) (before : List (List Char)) : Prop where
  steps : parent.steps = stepsOf before
  absolute : parent.isAbsolute = path.isAbsolute
  accepted : path.refusal? = none → parent.refusal? = none

theorem refusal?_eq_none_iff : path.refusal? = none ↔
    '\x00' ∉ path.text.toList ∧ path.text.utf8ByteSize ≤ sizeLimit := by
  unfold refusal?
  by_cases zero : '\x00' ∈ path.text.toList
  · simp [zero]
  · by_cases long : sizeLimit < path.text.utf8ByteSize
    · simp [zero, long]
    · simp [zero, long, Nat.not_lt.mp long]

theorem stepsOf_split_start (path : Path) (characters : List Char) :
    stepsOf (split (path.start ++ characters)) = stepsOf (split characters) := by
  rw [start]
  split
  · rw [List.singleton_append, split, if_pos rfl]
    simp [stepsOf, Path.counts]
  · rfl

theorem stepsOf_split_join {parts : List (List Char)} (slashFree : ∀ part ∈ parts, '/' ∉ part) :
    stepsOf (split (join parts)) = stepsOf parts := by
  cases parts with
  | nil => rfl
  | cons first rest => rw [split_join (List.cons_ne_nil _ _) slashFree]

theorem slashFree_of_mem_parts (path : Path) : ∀ part ∈ path.parts, '/' ∉ part := by
  rw [Path.parts]
  split
  · exact fun part => slashFree_of_mem_split
  · exact fun part => slashFree_of_mem_split

theorem refusal?_eq_none_of_prefix {parent : Path}
    (shorter : parent.text.toList <+: path.text.toList) (accepted : path.refusal? = none) :
    parent.refusal? = none := by
  obtain ⟨rest, text⟩ := shorter
  have whole : path.text = parent.text ++ String.ofList rest :=
    String.toList_inj.mp (by simp [text])
  have size : path.text.utf8ByteSize =
      parent.text.utf8ByteSize + (String.ofList rest).utf8ByteSize := by
    rw [whole, String.utf8ByteSize_append]
  rw [refusal?_eq_none_iff] at accepted ⊢
  refine ⟨fun member => accepted.1 ?_, by omega⟩
  rw [← text]
  exact List.mem_append_left _ member

theorem EndsIn.parent_isFolderOf (ends : path.EndsIn before last) :
    ∃ parent, path.parent? = some parent ∧ parent.IsFolderOf path before := by
  obtain ⟨parent, kept, inner, found, text, parts, keptInner, sameSteps⟩ := ends.exists_parent
  have shorter : parent.text.toList <+: path.text.toList := by
    rw [text, path.text_eq, parts]
    refine (List.prefix_append_right_inj _).mpr (join_isPrefix_join (keptInner.trans ?_))
    exact List.prefix_append _ _
  have slashFree : ∀ part ∈ kept, '/' ∉ part := by
    intro part member
    refine path.slashFree_of_mem_parts part ?_
    rw [parts]
    exact List.mem_append_left _ (keptInner.subset member)
  have steps : parent.steps = stepsOf before := by
    rw [steps_eq, text, stepsOf_split_start, stepsOf_split_join slashFree, sameSteps]
  have absolute : parent.isAbsolute = path.isAbsolute := by
    by_cases isAbsolute : path.isAbsolute = true
    · rw [isAbsolute, Path.isAbsolute, text, start, if_pos isAbsolute]
      rfl
    -- A relative path has no parent that begins with a slash.
    · refine (Bool.eq_false_iff.mpr fun parentAbsolute => isAbsolute ?_).trans
        (Bool.eq_false_iff.mpr isAbsolute).symm
      obtain ⟨rest, whole⟩ := shorter
      have slash : parent.text.toList.head? = some '/' := of_decide_eq_true parentAbsolute
      have first : path.text.toList.head? = some '/' := by
        rw [← whole, List.head?_append, slash]
        rfl
      exact decide_eq_true first
  exact ⟨parent, found, steps, absolute, refusal?_eq_none_of_prefix shorter⟩

theorem EndsIn.fileName? (ends : path.EndsIn before last) (notAbove : last ≠ ['.', '.']) :
    path.fileName? = some (String.ofList last) := by
  obtain ⟨inner, parts, _⟩ := ends.exists_inner
  obtain ⟨marked, markedParts, _⟩ := ends.exists_marked parts
  have final : path.components.getLast? = some (.name (String.ofList last)) := by
    have isName : Component.ofPart last = .name (String.ofList last) := by
      rw [Component.ofPart, if_neg ends.notHere, if_neg notAbove]
    rw [components, markedParts]
    cases path.isAbsolute <;> simp [isName, List.getLast?_cons]
  rw [Path.fileName?, final]

end EndsIn

/-! ## The last step -/

section LastStep

variable {path : Path} {front : List String} {last : String}

theorem steps_eq_parts (path : Path) : path.steps = stepsOf path.parts := by
  rw [steps_eq, text_eq, stepsOf_split_start, stepsOf_split_join path.slashFree_of_mem_parts]

/-- Only a dot that a relative path begins with is a component and no step. -/
theorem exists_lead (path : Path) : ∃ lead, (path.markedParts.filter (·.2)).map (·.1) =
    lead ++ path.parts.filter (Path.counts false) := by
  rw [markedParts]
  cases path.parts with
  | nil => exact ⟨[], rfl⟩
  | cons first rest =>
      have others : ((rest.map fun part => (part, Path.counts false part)).filter (·.2)).map (·.1) =
          rest.filter (Path.counts false) := by
        simp [List.filter_map, Function.comp_def]
      cases counted : Path.counts (!path.isAbsolute) first with
      | false =>
          have uncounted := counts_false_of_counts counted
          exact ⟨[], by simp [counted, uncounted, others]⟩
      | true =>
          cases isStep : Path.counts false first with
          | false => exact ⟨[first], by simp [counted, isStep, others]⟩
          | true => exact ⟨[], by simp [counted, isStep, others]⟩

theorem fileName?_of_steps (steps : path.steps = front ++ [last]) (isName : last ≠ "..") :
    path.fileName? = some last := by
  rw [steps_eq_parts, stepsOf] at steps
  obtain ⟨before, behind, counted, _, ends⟩ := List.map_eq_append_iff.mp steps
  obtain ⟨final, rfl, rfl⟩ := List.map_eq_singleton_iff.mp ends
  obtain ⟨lead, marked⟩ := path.exists_lead
  have notHere : final ≠ ['.'] := by
    have counts : final ∈ path.parts.filter (Path.counts false) := by simp [counted]
    rintro rfl
    exact Bool.noConfusion (List.mem_filter.mp counts).2
  have notAbove : final ≠ ['.', '.'] := by
    rintro rfl
    exact isName rfl
  have named : Component.ofPart final = .name (String.ofList final) := by
    rw [Component.ofPart, if_neg notHere, if_neg notAbove]
  have body : ((path.markedParts.filter (·.2)).map fun marked => Component.ofPart marked.1) =
      (lead ++ before).map Component.ofPart ++ [.name (String.ofList final)] := by
    rw [← Function.comp_def, ← List.map_map, marked, counted]
    simp [named]
  have ended : path.components.getLast? = some (.name (String.ofList final)) := by
    rw [components, body]
    split
    · rw [← List.cons_append, List.getLast?_concat]
    · rw [List.getLast?_concat]
  rw [Path.fileName?, ended]

/-- A relative path that has no steps is empty or ends with a dot. -/
theorem steps_ne_nil (relative : path.isAbsolute = false) (notEmpty : path.ending ≠ .nothing)
    (notDot : path.ending ≠ .dot) : path.steps ≠ [] := by
  intro none
  rw [steps_eq, stepsOf, List.map_eq_nil_iff, List.filter_eq_nil_iff] at none
  have onlyDots : ∀ part ∈ (split path.text.toList).filter (· ≠ []), part = ['.'] := by
    intro part member
    obtain ⟨inParts, nonempty⟩ := List.mem_filter.mp member
    simpa [Path.counts, of_decide_eq_true nonempty] using none part inParts
  cases characters : path.text.toList with
  | nil =>
      refine notEmpty ?_
      simp [ending, String.toList_eq_nil_iff.mp characters]
  | cons first rest =>
      have notSlash : first ≠ '/' := by
        rintro rfl
        simp [isAbsolute, characters] at relative
      obtain ⟨part, parts, _, whole⟩ := split_cons notSlash rest
      rw [← characters] at whole
      -- The first part is not empty, so there is a last part that is not.
      obtain ⟨before, final, shown⟩ := (List.eq_nil_or_concat'
        ((split path.text.toList).filter (· ≠ []))).resolve_left (by simp [whole])
      have isDot : final = ['.'] := by
        refine onlyDots final ?_
        rw [shown]
        exact List.mem_concat_self
      have notEmptyText : path.text.isEmpty = false := by
        simp [String.isEmpty_eq_false_iff, ← String.toList_eq_nil_iff, characters]
      refine notDot ?_
      rw [ending]
      simp only [notEmptyText, shown, isDot, List.getLast?_concat, Bool.false_eq_true, if_false,
        if_true]

end LastStep

/-! ## Paths below a path -/

def Component.isName : Component → Bool
  | .name _ => true
  | _ => false

/-- The path is relative and has names only. -/
def IsNormal (path : Path) : Prop := ∀ component ∈ path.components, component.isName = true

instance (path : Path) : Decidable path.IsNormal := inferInstanceAs (Decidable (∀ _ ∈ _, _))

section IsNormal

variable {path : Path}

theorem IsNormal.relative (normal : path.IsNormal) : path.isAbsolute = false := by
  refine Bool.eq_false_iff.mpr fun absolute => ?_
  have isName : Component.isName .root = true := normal .root (by simp [components, absolute])
  contradiction

theorem IsNormal.components_parts (normal : path.IsNormal) :
    path.components =
      ((split path.text.toList).filter (Path.counts false)).map Component.ofPart := by
  have relative := normal.relative
  obtain ⟨first, rest, parted⟩ := List.exists_cons_of_ne_nil (split_ne_nil path.text.toList)
  have marked : path.markedParts =
      (first, Path.counts true first) :: rest.map fun part => (part, Path.counts false part) := by
    simp [markedParts, Path.parts, relative, parted]
  have notHere : first ≠ ['.'] := by
    rintro rfl
    have isName : Component.isName .here = true := normal .here (by
      simp [components, relative, marked, Path.counts, Component.ofPart])
    contradiction
  have sameCount : Path.counts true first = Path.counts false first := by
    simp [Path.counts, notHere]
  have each : path.markedParts =
      (split path.text.toList).map fun part => (part, Path.counts false part) := by
    rw [marked, parted, List.map_cons, sameCount]
  simp [components, relative, each, List.filter_map, Function.comp_def]

theorem ofPart_eq_name {part : List Char} (isName : (Component.ofPart part).isName = true) :
    part ≠ ['.', '.'] ∧ Component.ofPart part = .name (String.ofList part) := by
  unfold Component.ofPart at isName ⊢
  by_cases here : part = ['.']
  · simp [here, Component.isName] at isName
  · by_cases above : part = ['.', '.']
    · simp [above, Component.isName] at isName
    · simp [here, above]

theorem IsNormal.name_of_mem (normal : path.IsNormal) {part : List Char}
    (member : part ∈ (split path.text.toList).filter (Path.counts false)) :
    part ≠ ['.', '.'] ∧ Component.ofPart part = .name (String.ofList part) := by
  have inComponents : Component.ofPart part ∈ path.components := by
    rw [normal.components_parts]
    exact List.mem_map_of_mem member
  exact ofPart_eq_name (normal _ inComponents)

/-- The components of a normal path are its steps. -/
theorem IsNormal.components_eq (normal : path.IsNormal) :
    path.components = path.steps.map .name := by
  rw [normal.components_parts, Path.steps, List.map_map]
  exact List.map_congr_left fun part member => (normal.name_of_mem member).2

theorem IsNormal.isName_of_mem_steps (normal : path.IsNormal) {step : String}
    (member : step ∈ path.steps) : step ≠ ".." := by
  obtain ⟨part, counted, rfl⟩ := List.mem_map.mp member
  intro above
  have characters := congrArg String.toList above
  rw [String.toList_ofList] at characters
  exact (normal.name_of_mem counted).1 characters

end IsNormal

theorem isNormal_of_components {path : Path} {names : List String}
    (named : path.components = names.map .name) : path.IsNormal := by
  intro component member
  rw [named] at member
  obtain ⟨name, _, rfl⟩ := List.mem_map.mp member
  rfl

theorem steps_of_components {path : Path} {names : List String}
    (named : path.components = names.map .name) : path.steps = names := by
  have same := (isNormal_of_components named).components_eq.symm.trans named
  exact List.map_injective_iff.mpr (fun _ _ => Component.name.inj) same

theorem IsName.components {name : String} (named : IsName name) :
    (⟨name⟩ : Path).components = [.name name] := by
  have relative : (⟨name⟩ : Path).isAbsolute = false := by
    simpa using named.not_isAbsolute ""
  simp [Path.components, markedParts, parts, relative, split_of_slashFree named.slashFree,
    named.counts, named.ofPart]

/-- A path below another one has the parts of both. -/
theorem exists_front (root : Path) {path : Path} (relative : path.isAbsolute = false) :
    ∃ front, split (root.append path).text.toList = front ++ split path.text.toList ∧
      stepsOf front = root.steps := by
  rw [steps_eq, append, if_neg (by simp [relative])]
  split
  · rename_i closed
    rcases List.eq_nil_or_concat' root.text.toList with empty | ⟨above, final, text⟩
    · refine ⟨[], by simp [empty], ?_⟩
      rw [empty]
      rfl
    · have slash : final = '/' := by
        have notEmpty : root.text.isEmpty = false := by
          refine Bool.eq_false_iff.mpr fun empty => ?_
          simp [String.isEmpty_iff.mp empty] at text
        simpa [notEmpty, text] using closed
      subst slash
      refine ⟨split above, ?_, ?_⟩
      · rw [String.toList_append, text, List.append_assoc, List.singleton_append, split_append]
      · rw [text, split_append, stepsOf_append]
        simp [stepsOf, split, Path.counts]
  · refine ⟨split root.text.toList, ?_, rfl⟩
    rw [String.toList_append, String.toList_append, List.append_assoc]
    exact split_append _ _

theorem steps_append (root : Path) {path : Path} (relative : path.isAbsolute = false) :
    (root.append path).steps = root.steps ++ path.steps := by
  obtain ⟨front, parted, sameSteps⟩ := exists_front root relative
  rw [steps_eq, parted, stepsOf_append, sameSteps, ← steps_eq]

theorem isAbsolute_append (root : Path) {path : Path} (relative : path.isAbsolute = false) :
    (root.append path).isAbsolute = root.isAbsolute := by
  rw [append, if_neg (by simp [relative])]
  cases characters : root.text.toList with
  | nil =>
      have empty : root.text = "" := String.toList_eq_nil_iff.mp characters
      simpa [empty, isAbsolute] using relative
  | cons first rest => split <;> simp [isAbsolute, characters]

theorem EndsIn.append {path : Path} {before : List (List Char)} {last : List Char}
    (ends : path.EndsIn before last) (root : Path) (relative : path.isAbsolute = false) :
    ∃ front, (root.append path).EndsIn (front ++ before) last ∧ stepsOf front = root.steps := by
  obtain ⟨front, parted, sameSteps⟩ := exists_front root relative
  refine ⟨front, ⟨?_, ends.nonempty, ends.notHere⟩, sameSteps⟩
  rw [parted, ends.parted, List.append_assoc]

end Homeplan.Path
