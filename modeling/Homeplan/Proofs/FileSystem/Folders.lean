import Homeplan.FileSystem.Operations
import Homeplan.Proofs.FileSystem

namespace Homeplan.FileSystem

open FileTree

/-! Making the folders that a path leads through.

If no file is in the way, the folders are there afterwards and nothing else has changed.
-/

variable {before middle after : FileSystem} {steps : List String} {last : String}

/-! ## Operations -/

def Operation.Ends (operation : Operation α) (before : FileSystem) (result : Except FileFault α)
    (after : FileSystem) : Prop :=
  operation.run.run before = (result, after)

theorem Operation.Ends.bind {first : Operation α} {later : α → Operation β} {value : α}
    {result : Except FileFault β} (done : first.Ends before (.ok value) middle)
    (goesOn : (later value).Ends middle result after) :
    (first >>= later).Ends before result after := by
  unfold Ends at done goesOn ⊢
  rw [ExceptT.run_bind, StateT.run_bind, done]
  exact goesOn

theorem ends_pure (value : α) : (pure value : Operation α).Ends before (.ok value) before := rfl

theorem ends_get : (get : Operation FileSystem).Ends before (.ok before) before := rfl

theorem ends_set : (set after : Operation PUnit).Ends before (.ok ⟨⟩) after := rfl

/-! ## Folders -/

/-- Folders stand wherever the steps come to, and nothing else has changed. -/
structure Opened (before : FileSystem) (steps : List String) (after : FileSystem) : Prop where
  working : after.working = before.working
  kinds : ∀ position, after.root.kindAt position =
    if position ∈ reached steps then .folder else before.root.kindAt position

theorem Opened.isOpen (opened : before.Opened steps after) : after.Open steps := by
  intro position member
  rw [opened.kinds, if_pos member]

theorem Opened.of_open (isOpen : before.Open steps) : before.Opened steps before := by
  refine ⟨rfl, fun position => ?_⟩
  split
  · exact isOpen position (by assumption)
  · rfl

theorem Opened.concat (first : before.Opened steps middle)
    (second : middle.Opened (steps ++ [last]) after) : before.Opened (steps ++ [last]) after := by
  refine ⟨second.working.trans first.working, fun position => ?_⟩
  rw [second.kinds, first.kinds]
  by_cases member : position ∈ reached steps
  · have further := reached_subset_concat steps last member
    rw [if_pos further, if_pos further]
  · rw [if_neg member]

theorem target_above (system : FileSystem) (steps : List String) :
    system.target (steps ++ [".."]) = (system.walk (steps ++ [".."])).map .standing := by
  rw [target, List.getLast?_concat]
  cases system.walk (steps ++ [".."]) <;> rfl

theorem target_name (system : FileSystem) (steps : List String) (isName : last ≠ "..") :
    system.target (steps ++ [last]) = (system.walkToFolder steps).map (.entry · last) := by
  simp only [target, List.getLast?_concat, List.dropLast_concat]
  cases system.walkToFolder steps <;> rfl

theorem entry?_short (system : FileSystem) (inside : Position)
    (short : last.utf8ByteSize ≤ Path.nameSizeLimit) :
    system.entry? inside last = .ok (system.root.find? (inside ++ [last])) :=
  if_neg (Nat.not_lt.mpr short)

theorem kindAt_dropLast {tree : FileTree} {position : Position}
    (isFolder : tree.kindAt position = .folder) : tree.kindAt position.dropLast = .folder := by
  rcases List.eq_nil_or_concat position with rfl | ⟨above, name, rfl⟩
  · exact isFolder
  · rw [List.concat_eq_append] at isFolder ⊢
    rw [List.dropLast_concat]
    refine Classical.byContradiction fun notFolder => ?_
    rw [kindAt_below notFolder name []] at isFolder
    contradiction

theorem Open.above (isOpen : before.Open steps) : before.Open (steps ++ [".."]) := by
  intro position member
  rw [reached_concat] at member
  rcases List.mem_append.mp member with passes | ends
  · exact isOpen position passes
  · obtain rfl := List.mem_singleton.mp ends
    exact kindAt_dropLast isOpen.ends

theorem Passable.of_concat (passable : before.Passable (steps ++ [last])) :
    before.Passable steps := by
  intro position member
  exact passable position (reached_subset_concat steps last member)

theorem makeFolder_open (short : ShortSteps (steps ++ [last])) (isOpen : before.Open steps)
    (passable : before.Passable (steps ++ [last])) :
    (∃ after, before.makeFolder (steps ++ [last]) = .ok after ∧
      before.Opened (steps ++ [last]) after) ∨
    (before.makeFolder (steps ++ [last]) = .error .alreadyExists ∧
      before.Open (steps ++ [last])) := by
  by_cases up : last = ".."
  · subst up
    have opened := isOpen.above
    refine Or.inr ⟨?_, opened⟩
    rw [makeFolder, target_above, walk_open short opened]
    rfl
  · have shortParts := short.of_concat
    have located : before.target (steps ++ [last]) = .ok (.entry (resolve [] steps) last) := by
      rw [target_name before steps up, walkToFolder_open shortParts.1 isOpen]
      rfl
    have ends : next (resolve [] steps) last = resolve [] steps ++ [last] := next_name up _
    rw [makeFolder, located]
    show (∃ after, (before.entry? _ _ >>= _) = _ ∧ _) ∨ ((before.entry? _ _ >>= _) = _ ∧ _)
    rw [entry?_short before _ shortParts.2]
    cases found : before.root.find? (resolve [] steps ++ [last]) with
    | none =>
        have nothing : before.root.kindAt (resolve [] steps ++ [last]) = .nothing :=
          find?_eq_none_iff.mpr found
        refine Or.inl ⟨_, rfl, rfl, fun position => ?_⟩
        rw [putEntry, kindAt_put_leaf isLeaf_emptyFolder isOpen.ends (ne_folder_of_nothing nothing),
          reached_concat, ends]
        by_cases isEnd : position = resolve [] steps ++ [last]
        · simp [isEnd, kind]
        · by_cases passes : position ∈ reached steps
          · simp [isEnd, passes, isOpen position passes]
          · simp [isEnd, passes]
    | some entry =>
        refine Or.inr ⟨rfl, fun position member => ?_⟩
        rw [reached_concat, ends] at member
        rcases List.mem_append.mp member with passes | isEnd
        · exact isOpen position passes
        · obtain rfl := List.mem_singleton.mp isEnd
          have noFile := passable (resolve [] steps ++ [last]) (by simp [reached_concat, ends])
          have kind : before.root.kindAt (resolve [] steps ++ [last]) = entry.kind := by
            rw [kindAt, found]
          cases entry with
          | file content => exact absurd kind (noFile content)
          | folder entries => exact kind

theorem leadsToFolder_open (short : ShortSteps steps) (isOpen : before.Open steps) :
    before.leadsToFolder steps = true := by
  rw [leadsToFolder, walkToFolder_open short isOpen]

theorem ensureFolder_ends (short : ShortSteps (steps ++ [last])) (isOpen : before.Open steps)
    (passable : before.Passable (steps ++ [last])) :
    ∃ after, (ensureFolder (steps ++ [last])).Ends before (.ok ()) after ∧
      before.Opened (steps ++ [last]) after := by
  rcases makeFolder_open short isOpen passable with ⟨after, made, opened⟩ | ⟨already, opened⟩
  · refine ⟨after, ends_get.bind ?_, opened⟩
    simp only [made]
    exact ends_set
  · refine ⟨before, ends_get.bind ?_, .of_open opened⟩
    simp only [already, leadsToFolder_open short opened, if_true]
    exact ends_pure ()

theorem makeFolder_missing (short : ShortSteps (steps ++ [last]))
    (passable : before.Passable (steps ++ [last])) (notOpen : ¬ before.Open steps) :
    before.makeFolder (steps ++ [last]) = .error .notFound := by
  have located : before.target (steps ++ [last]) = .error .notFound := by
    by_cases up : last = ".."
    · subst up
      have stillNotOpen : ¬ before.Open (steps ++ [".."]) := by
        refine fun isOpen => notOpen fun position member => isOpen position ?_
        exact reached_subset_concat steps ".." member
      rw [target_above, walk_missing short passable stillNotOpen]
      rfl
    · rw [target_name before steps up,
        walkToFolder_missing short.of_concat.1 passable.of_concat notOpen]
      rfl
  rw [makeFolder, located]
  rfl

theorem Opened.passable (opened : before.Opened steps after)
    (passable : before.Passable (steps ++ [last])) : after.Passable (steps ++ [last]) := by
  intro position member content
  rw [opened.kinds]
  split
  · exact Kind.noConfusion
  · exact passable position member content

theorem ensureFoldersReversed_ends (reversed : List String)
    (short : ShortSteps reversed.reverse) (passable : before.Passable reversed.reverse) :
    ∃ after, (ensureFoldersReversed reversed).Ends before (.ok ()) after ∧
      before.Opened reversed.reverse after := by
  induction reversed generalizing before with
  | nil =>
      refine ⟨before, ends_pure (), .of_open fun position member => ?_⟩
      obtain rfl := List.mem_singleton.mp member
      cases kind : before.root with
      | file content => exact absurd (by simp [kind, FileTree.kind]) (passable [] member content)
      | folder entries => exact kindAt_top (.folder entries)
  | cons last rest ih =>
      rw [List.reverse_cons] at short passable ⊢
      by_cases isOpen : before.Open rest.reverse
      · rcases makeFolder_open short isOpen passable with ⟨after, made, opened⟩ | ⟨already, opened⟩
        · refine ⟨after, ends_get.bind ?_, opened⟩
          simp only [List.reverse_cons, made]
          exact ends_set
        · refine ⟨before, ends_get.bind ?_, .of_open opened⟩
          simp only [List.reverse_cons, already, leadsToFolder_open short opened, if_true]
          exact ends_pure ()
      -- The folders above come first if one of them is missing.
      · obtain ⟨middle, above, opened⟩ := ih short.of_concat.1 passable.of_concat
        obtain ⟨after, made, whole⟩ := ensureFolder_ends short opened.isOpen (opened.passable passable)
        refine ⟨after, ends_get.bind ?_, opened.concat whole⟩
        simp only [List.reverse_cons, makeFolder_missing short passable isOpen]
        exact above.bind made

/-- The folders of a path are made unless the path is refused or a file is in the way. -/
theorem ensureFolders_ends {path : Path} (accepted : path.refusal? = none)
    (short : ShortSteps (before.steps path)) (passable : before.Passable (before.steps path)) :
    ∃ after, (ensureFolders path).Ends before (.ok ()) after ∧
      before.Opened (before.steps path) after := by
  have reversed := @ensureFoldersReversed_ends before (before.steps path).reverse
  rw [List.reverse_reverse] at reversed
  obtain ⟨after, made, opened⟩ := reversed short passable
  refine ⟨after, ?_, opened⟩
  rw [ensureFolders, accepted]
  exact ends_get.bind made

end Homeplan.FileSystem
