import Homeplan.Proofs.FileSystem.Folders
import Homeplan.Proofs.Text

namespace Homeplan.FileSystem

open FileTree

/-! Writing files whose folders are there.

A file that is created goes through a staged file next to it.  Neither a success nor a refusal
leaves the staged file behind, so only the place of the file can change.
-/

variable {before middle after : FileSystem} {steps : List String} {name : String} {path : Path}

theorem Operation.Ends.bind_error {first : Operation α} {later : α → Operation β}
    {fault : FileFault} (failed : first.Ends before (.error fault) after) :
    (first >>= later).Ends before (.error fault) after := by
  unfold Ends at failed ⊢
  rw [ExceptT.run_bind, StateT.run_bind, failed]
  rfl

theorem Operation.Ends.catch_ok {first : Operation α} {handler : FileFault → Operation α}
    {value : α} (done : first.Ends before (.ok value) after) :
    (tryCatch first handler).Ends before (.ok value) after := by
  unfold Ends at done ⊢
  rw [ExceptT.run_tryCatch, StateT.run_bind, done]
  rfl

theorem Operation.Ends.catch_error {first : Operation α} {handler : FileFault → Operation α}
    {fault : FileFault} {result : Except FileFault α}
    (failed : first.Ends before (.error fault) middle)
    (handled : (handler fault).Ends middle result after) :
    (tryCatch first handler).Ends before result after := by
  unfold Ends at failed handled ⊢
  rw [ExceptT.run_tryCatch, StateT.run_bind, failed]
  exact handled

theorem ends_of_ok {result : Except FileFault α} {value : α} (ok : result = .ok value) :
    (liftM result : Operation α).Ends before (.ok value) before := by
  rw [ok]
  rfl

/-! ## Staging names -/

theorem stagingName_injective {left right : Nat} (same : stagingName left = stagingName right) :
    left = right :=
  Text.eq_of_toString_eq ((String.append_right_inj ".tmp").mp same)

/-- Some of the first staging names is not in use, as there are more of them than names in use. -/
theorem exists_unused (used : List String) :
    ∃ number ∈ List.range (used.length + 1), stagingName number ∉ used := by
  refine Classical.byContradiction fun none => ?_
  have allUsed : (List.range (used.length + 1)).map stagingName ⊆ used := by
    intro name member
    obtain ⟨number, inRange, rfl⟩ := List.mem_map.mp member
    exact Classical.byContradiction fun unused => none ⟨number, inRange, unused⟩
  have distinct : ((List.range (used.length + 1)).map stagingName).Nodup :=
    List.Pairwise.map _ (fun _ _ different same => different (stagingName_injective same))
      List.nodup_range
  have tooMany := distinct.length_le_of_subset allUsed
  simp only [List.length_map, List.length_range] at tooMany
  omega

theorem freshName_not_mem (system : FileSystem) (inside : Position) (reserved : List String) :
    system.freshName inside reserved ∉
      reserved ++ (system.root.entriesAt inside).map (·.1) := by
  obtain ⟨number, inRange, unused⟩ :=
    exists_unused (reserved ++ (system.root.entriesAt inside).map (·.1))
  simp only [freshName]
  cases found : (List.range _).find? fun number =>
      stagingName number ∉ reserved ++ (system.root.entriesAt inside).map (·.1) with
  | none => exact absurd unused (by simpa using List.find?_eq_none.mp found number inRange)
  | some first => simpa using List.find?_some found

/-! ## Places -/

theorem steps_of_working (same : after.working = before.working) (path : Path) :
    after.steps path = before.steps path := by
  rw [FileSystem.steps, FileSystem.steps, same]

/-- The path names something in a folder that is there. -/
structure LeadsInto (system : FileSystem) (path : Path) (steps : List String) (name : String) :
    Prop where
  accepted : path.refusal? = none
  plain : path.ending = .plain
  split : system.steps path = steps ++ [name]
  isName : name ≠ ".."
  short : ShortSteps (steps ++ [name])
  isOpen : system.Open steps

/-- A file stands at the place, and nothing else has changed. -/
structure Filled (before : FileSystem) (place : Position) (content : ByteArray)
    (after : FileSystem) : Prop where
  working : after.working = before.working
  kinds : ∀ position, after.root.kindAt position =
    if position = place then .file content else before.root.kindAt position

variable {content : ByteArray}

theorem LeadsInto.locate (into : before.LeadsInto path steps name) :
    before.locate path = .ok (.entry (resolve [] steps) name, false) := by
  have shortParts := into.short.of_concat
  have target : before.target (before.steps path) = .ok (.entry (resolve [] steps) name) := by
    rw [into.split, target_name before steps into.isName,
      walkToFolder_open shortParts.1 into.isOpen]
    rfl
  simp only [FileSystem.locate, into.accepted, into.plain, target]
  rfl

theorem LeadsInto.entry? (into : before.LeadsInto path steps name) :
    before.entry? (resolve [] steps) name =
      .ok (before.root.find? (resolve [] steps ++ [name])) :=
  entry?_short before _ into.short.of_concat.2

theorem LeadsInto.inside (into : before.LeadsInto path steps name) :
    before.root.kindAt (resolve [] steps) = .folder :=
  into.isOpen.ends

theorem putEntry_filled {inside : Position} (there : before.root.kindAt inside = .folder)
    (vacant : before.root.kindAt (inside ++ [name]) ≠ .folder) :
    before.Filled (inside ++ [name]) content (before.putEntry inside name (.file content)) :=
  ⟨rfl, kindAt_put_leaf (isLeaf_file content) there vacant⟩

theorem writeFile_ends (into : before.LeadsInto path steps name)
    (vacant : before.root.kindAt (resolve [] steps ++ [name]) ≠ .folder) :
    ∃ after, (writeFile path content).Ends before (.ok ()) after ∧
      before.Filled (resolve [] steps ++ [name]) content after := by
  refine ⟨_, ?_, putEntry_filled into.inside vacant⟩
  refine ends_get.bind ((ends_of_ok into.locate).bind ((ends_of_ok into.entry?).bind ?_))
  unfold kindAt at vacant
  rcases found : before.root.find? (resolve [] steps ++ [name]) with _ | (old | entries)
  · exact ends_set
  · exact ends_set
  · simp [found, kind] at vacant

/-! ## Creating files -/

theorem Filled.leadsInto {place : Position} (filled : before.Filled place content middle)
    (nothing : before.root.kindAt place = .nothing) (into : before.LeadsInto path steps name) :
    middle.LeadsInto path steps name where
  accepted := into.accepted
  plain := into.plain
  split := (steps_of_working filled.working path).trans into.split
  isName := into.isName
  short := into.short
  isOpen := by
    intro position member
    have isFolder := into.isOpen position member
    have elsewhere : position ≠ place := by
      rintro rfl
      simp [isFolder] at nothing
    rw [filled.kinds, if_neg elsewhere, isFolder]

theorem freshName_not_reserved (system : FileSystem) (inside : Position) (reserved : List String) :
    system.freshName inside reserved ∉ reserved :=
  fun member => system.freshName_not_mem inside reserved (List.mem_append_left _ member)

theorem kindAt_freshName {inside : Position} (there : before.root.kindAt inside = .folder)
    (reserved : List String) :
    before.root.kindAt (inside ++ [before.freshName inside reserved]) = .nothing := by
  have unused := before.freshName_not_mem inside reserved
  obtain ⟨entries, found⟩ := find?_eq_some_folder_iff.mp there
  rw [entriesAt, found] at unused
  have missing : entries.lookup (before.freshName inside reserved) = none := by
    refine List.lookup_eq_none_iff.mpr fun entry member => ?_
    have apart : before.freshName inside reserved ≠ entry.1 := fun same =>
      unused (List.mem_append_right _ (same ▸ List.mem_map_of_mem member))
    simpa using apart
  rw [find?_eq_none_iff, find?_append, found, Option.bind_some, find?, missing]

theorem staged_filled {inside : Position} (there : before.root.kindAt inside = .folder)
    (reserved : List String) :
    before.Filled (inside ++ [before.freshName inside reserved]) content
      (before.putEntry inside (before.freshName inside reserved) (.file content)) :=
  putEntry_filled there (ne_folder_of_nothing (kindAt_freshName there reserved))

theorem stage_ends (into : before.LeadsInto path steps name)
    (beside : before.steps (stagingFolder path) = steps) (named : path.fileName? = some name) :
    ∃ fresh middle, (stage path content).Ends before (.ok (resolve [] steps ++ [fresh])) middle ∧
      before.Filled (resolve [] steps ++ [fresh]) content middle ∧ fresh ≠ name ∧
      before.root.kindAt (resolve [] steps ++ [fresh]) = .nothing := by
  have walked : before.walkToFolder (before.steps (stagingFolder path)) =
      .ok (resolve [] steps) := by
    rw [beside, walkToFolder_open into.short.of_concat.1 into.isOpen]
  have different : before.freshName (resolve [] steps) path.fileName?.toList ≠ name := by
    have notReserved := before.freshName_not_reserved (resolve [] steps) path.fileName?.toList
    rw [named] at notReserved ⊢
    simpa using notReserved
  have nothing := kindAt_freshName into.inside path.fileName?.toList
  refine ⟨_, _, ?_, staged_filled into.inside _, different, nothing⟩
  exact ends_get.bind ((ends_of_ok walked).bind (ends_set.bind (ends_pure _)))

theorem Filled.kindAt_remove {inside : Position} {fresh : String}
    (staged : before.Filled (inside ++ [fresh]) content middle)
    (nothing : before.root.kindAt (inside ++ [fresh]) = .nothing) (position : Position) :
    (middle.root.remove (inside ++ [fresh])).kindAt position = before.root.kindAt position := by
  have notFolder : middle.root.kindAt (inside ++ [fresh]) ≠ .folder := by
    rw [staged.kinds, if_pos rfl]
    exact Kind.noConfusion
  rw [kindAt_remove_leaf notFolder, staged.kinds]
  by_cases same : position = inside ++ [fresh]
  · rw [if_pos same, same, nothing]
  · rw [if_neg same, if_neg same]

/-- Moving a staged file puts it into its place, and nothing is left where it was staged. -/
theorem moveEntry_filled {folder inside : Position} {fresh : String}
    (staged : before.Filled (folder ++ [fresh]) content middle)
    (nothing : before.root.kindAt (folder ++ [fresh]) = .nothing)
    (there : before.root.kindAt inside = .folder)
    (vacant : before.root.kindAt (inside ++ [name]) ≠ .folder) :
    before.Filled (inside ++ [name]) content
      (middle.moveEntry (folder ++ [fresh]) inside name) := by
  have isFile : middle.root.kindAt (folder ++ [fresh]) = .file content := by
    rw [staged.kinds, if_pos rfl]
  rw [moveEntry, find?_eq_some_file_iff.mp isFile]
  refine ⟨staged.working, fun position => ?_⟩
  rw [← staged.kindAt_remove nothing] at there vacant
  rw [kindAt_put_leaf (isLeaf_file content) there vacant, staged.kindAt_remove nothing]
  rfl

section CreateFile

variable (into : before.LeadsInto path steps name)
  (beside : before.steps (stagingFolder path) = steps) (named : path.fileName? = some name)
include into beside named

theorem createFile_written (nothing : before.root.kindAt (resolve [] steps ++ [name]) = .nothing) :
    ∃ after, (createFile path content).Ends before (.ok true) after ∧
      before.Filled (resolve [] steps ++ [name]) content after := by
  obtain ⟨fresh, middle, stages, staged, different, unused⟩ :=
    @stage_ends before steps name path content into beside named
  have intoMiddle := staged.leadsInto unused into
  -- The staged file has another name, so its place is still empty.
  have missing : middle.root.find? (resolve [] steps ++ [name]) = none := by
    have elsewhere : resolve [] steps ++ [name] ≠ resolve [] steps ++ [fresh] := by
      simpa using different.symm
    rw [← find?_eq_none_iff, staged.kinds, if_neg elsewhere, nothing]
  have moves : (moveIntoPlace (resolve [] steps ++ [fresh]) path).Ends middle (.ok ())
      (middle.moveEntry (resolve [] steps ++ [fresh]) (resolve [] steps) name) := by
    have entry := intoMiddle.entry?
    rw [missing] at entry
    exact ends_get.bind
      ((ends_of_ok intoMiddle.locate).bind ((ends_of_ok entry).bind ends_set))
  refine ⟨_, stages.bind (Operation.Ends.catch_ok ?_),
    moveEntry_filled staged unused into.inside (ne_folder_of_nothing nothing)⟩
  exact moves.bind (ends_pure true)

/-- A file that is there is kept, and the staged file is given up. -/
theorem createFile_kept {old : ByteArray}
    (isFile : before.root.kindAt (resolve [] steps ++ [name]) = .file old) :
    ∃ after, (createFile path content).Ends before (.ok false) after ∧
      before.Filled (resolve [] steps ++ [name]) old after := by
  obtain ⟨fresh, middle, stages, staged, different, unused⟩ :=
    @stage_ends before steps name path content into beside named
  have intoMiddle := staged.leadsInto unused into
  have stillThere : middle.root.find? (resolve [] steps ++ [name]) = some (.file old) := by
    have elsewhere : resolve [] steps ++ [name] ≠ resolve [] steps ++ [fresh] := by
      simpa using different.symm
    rw [← find?_eq_some_file_iff, staged.kinds, if_neg elsewhere, isFile]
  have refused : (moveIntoPlace (resolve [] steps ++ [fresh]) path).Ends middle
      (.error .alreadyExists) middle := by
    have entry := intoMiddle.entry?
    rw [stillThere] at entry
    exact ends_get.bind ((ends_of_ok intoMiddle.locate).bind ((ends_of_ok entry).bind rfl))
  have discarded : (discard (resolve [] steps ++ [fresh])).Ends middle (.ok ())
      { middle with root := middle.root.remove (resolve [] steps ++ [fresh]) } :=
    rfl
  refine ⟨_, stages.bind (Operation.Ends.catch_error refused.bind_error
    (discarded.bind (ends_pure false))), staged.working, fun position => ?_⟩
  rw [staged.kindAt_remove unused]
  split
  · rename_i same
    rw [same, isFile]
  · rfl

end CreateFile

end Homeplan.FileSystem
