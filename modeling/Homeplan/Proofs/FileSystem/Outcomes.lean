import Homeplan.Proofs.FileSystem.Files
import Homeplan.Proofs.FileSystem.Targets

namespace Homeplan.FileSystem

open FileTree

/-! What file operations leave behind, however they end.

Nothing is assumed of the tree or of the path, so every operation is taken apart at the point where
it stopped.
-/

variable {before middle after : FileSystem} {steps : List String} {path : Path}
  {content : ByteArray}

/-! ## Taking operations apart -/

section Cases

variable {α β : Type} {first : Operation α} {result : Except FileFault α}

theorem Operation.Ends.bind_cases {later : α → Operation β} {result : Except FileFault β}
    (ends : (first >>= later).Ends before result after) :
    (∃ fault, result = .error fault ∧ first.Ends before (.error fault) after) ∨
      ∃ value middle, first.Ends before (.ok value) middle ∧
        (later value).Ends middle result after := by
  unfold Ends at ends ⊢
  rw [ExceptT.run_bind, StateT.run_bind] at ends
  rcases stopped : first.run.run before with ⟨fault | value, middle⟩ <;> rw [stopped] at ends
  · obtain ⟨rfl, rfl⟩ := Prod.mk.inj ends
    exact Or.inl ⟨fault, rfl, rfl⟩
  · exact Or.inr ⟨value, middle, rfl, ends⟩

theorem Operation.Ends.catch_cases {handler : FileFault → Operation α}
    (ends : (tryCatch first handler).Ends before result after) :
    (∃ value, result = .ok value ∧ first.Ends before (.ok value) after) ∨
      ∃ fault middle, first.Ends before (.error fault) middle ∧
        (handler fault).Ends middle result after := by
  unfold Ends at ends ⊢
  rw [ExceptT.run_tryCatch, StateT.run_bind] at ends
  rcases stopped : first.run.run before with ⟨fault | value, middle⟩ <;> rw [stopped] at ends
  · exact Or.inr ⟨fault, middle, rfl, ends⟩
  · obtain ⟨rfl, rfl⟩ := Prod.mk.inj ends
    exact Or.inl ⟨value, rfl, rfl⟩

theorem ends_get_bind_iff {later : FileSystem → Operation α} :
    (get >>= later).Ends before result after ↔ (later before).Ends before result after :=
  Iff.rfl

theorem ends_pure_iff {value : α} :
    (pure value : Operation α).Ends before result after ↔
      result = .ok value ∧ after = before := by
  unfold Operation.Ends
  rw [eq_comm (a := result), eq_comm (a := after), ← Prod.mk.injEq]
  rfl

theorem ends_throw_iff {fault : FileFault} :
    (throw fault : Operation α).Ends before result after ↔
      result = .error fault ∧ after = before := by
  unfold Operation.Ends
  rw [eq_comm (a := result), eq_comm (a := after), ← Prod.mk.injEq]
  rfl

theorem ends_set_iff {changed : FileSystem} {result : Except FileFault PUnit} :
    (set changed : Operation PUnit).Ends before result after ↔
      result = .ok ⟨⟩ ∧ after = changed := by
  unfold Operation.Ends
  rw [eq_comm (a := result), eq_comm (a := after), ← Prod.mk.injEq]
  rfl

theorem lift_bind_cases {value : Except FileFault α} {later : α → Operation β}
    {result : Except FileFault β}
    (ends : ((liftM value : Operation α) >>= later).Ends before result after) :
    (∃ fault, value = .error fault ∧ result = .error fault ∧ after = before) ∨
      ∃ found, value = .ok found ∧ (later found).Ends before result after := by
  cases value with
  | error fault => exact Or.inl ⟨fault, rfl, ends_throw_iff.mp ends⟩
  | ok found => exact Or.inr ⟨found, rfl, ends⟩

end Cases

/-! ## Making folders -/

/-- Folders came to stand at some of the places, where nothing stood, and nothing else has
changed. -/
structure FoldersMade (before : FileSystem) (places : List Position) (after : FileSystem) :
    Prop where
  working : after.working = before.working
  kinds : ∀ position, after.root.kindAt position = before.root.kindAt position ∨
    position ∈ places ∧ before.root.kindAt position = .nothing ∧
      after.root.kindAt position = .folder

section FoldersMade

variable {places more : List Position}

theorem FoldersMade.refl (system : FileSystem) (places : List Position) :
    system.FoldersMade places system :=
  ⟨rfl, fun _ => Or.inl rfl⟩

theorem FoldersMade.trans (first : before.FoldersMade places middle)
    (second : middle.FoldersMade places after) : before.FoldersMade places after := by
  refine ⟨second.working.trans first.working, fun position => ?_⟩
  rcases first.kinds position with same | ⟨member, nothing, isFolder⟩
  · have later := second.kinds position
    rwa [same] at later
  · refine Or.inr ⟨member, nothing, ?_⟩
    rcases second.kinds position with same | ⟨_, _, still⟩
    · rw [same, isFolder]
    · exact still

theorem FoldersMade.mono (made : before.FoldersMade places after) (within : places ⊆ more) :
    before.FoldersMade more after :=
  ⟨made.working, fun position => (made.kinds position).imp_right (.imp_left (@within _))⟩

/-- Whatever stood somewhere still stands there. -/
theorem FoldersMade.kindAt_eq (made : before.FoldersMade places after) {position : Position}
    (there : before.root.kindAt position ≠ .nothing) :
    after.root.kindAt position = before.root.kindAt position :=
  (made.kinds position).resolve_right fun missing => there missing.2.1

theorem FoldersMade.nothing_before (made : before.FoldersMade places after) {position : Position}
    (nothing : after.root.kindAt position = .nothing) :
    before.root.kindAt position = .nothing := by
  rcases made.kinds position with same | ⟨_, missing, _⟩
  · rw [← same, nothing]
  · exact missing

end FoldersMade

theorem makeFolder_made (made : before.makeFolder steps = .ok after) :
    before.FoldersMade (reached steps) after := by
  obtain ⟨place, aimed, goesOn⟩ := bind_eq_ok.mp made
  have leads := target_leadsTo aimed
  cases place with
  | standing position => contradiction
  | entry inside name =>
      obtain ⟨found, asked, ended⟩ := bind_eq_ok.mp goesOn
      have missing := entry?_ok asked
      cases found with
      | some entry => contradiction
      | none =>
          obtain rfl := Except.ok.inj ended
          have nothing : before.root.kindAt (inside ++ [name]) = .nothing :=
            find?_eq_none_iff.mpr missing
          refine ⟨rfl, fun position => ?_⟩
          rw [putEntry, kindAt_put_leaf isLeaf_emptyFolder leads.kindAt_inside
            (ne_folder_of_nothing nothing)]
          by_cases isPlace : position = inside ++ [name]
          · refine Or.inr ⟨?_, isPlace ▸ nothing, if_pos isPlace⟩
            rw [isPlace, leads.inside_append]
            exact resolve_mem_reached steps
          · exact Or.inl (if_neg isPlace)

variable {result : Except FileFault Unit}

/-- Asking whether the folder is there after all changes nothing. -/
theorem eq_of_asked {there : Bool} {fault : FileFault}
    (ends : (if there then pure () else throw fault : Operation Unit).Ends before result after) :
    after = before := by
  cases there with
  | true => exact (ends_pure_iff.mp ends).2
  | false => exact (ends_throw_iff.mp ends).2

theorem ensureFolder_made (ends : (ensureFolder steps).Ends before result after) :
    before.FoldersMade (reached steps) after := by
  have ends := ends_get_bind_iff.mp ends
  cases made : before.makeFolder steps with
  | ok changed =>
      rw [made] at ends
      obtain ⟨_, rfl⟩ := ends_set_iff.mp ends
      exact makeFolder_made made
  | error fault =>
      rw [made] at ends
      rw [eq_of_asked ends]
      exact .refl before _

theorem ensureFoldersReversed_made (reversed : List String)
    (ends : (ensureFoldersReversed reversed).Ends before result after) :
    before.FoldersMade (reached reversed.reverse) after := by
  induction reversed generalizing before after result with
  | nil =>
      obtain ⟨_, rfl⟩ := ends_pure_iff.mp ends
      exact .refl _ _
  | cons last above ih =>
      have further := reached_subset_concat above.reverse last
      rw [← List.reverse_cons] at further
      have ends := ends_get_bind_iff.mp ends
      cases made : before.makeFolder (last :: above).reverse with
      | ok changed =>
          simp only [made] at ends
          obtain ⟨_, rfl⟩ := ends_set_iff.mp ends
          exact makeFolder_made made
      | error fault =>
          simp only [made] at ends
          split at ends
          · contradiction
          -- The folders above are made first, then the folder itself.
          · rcases ends.bind_cases with ⟨_, _, failed⟩ | ⟨_, middle, done, goesOn⟩
            · exact (ih failed).mono further
            · exact ((ih done).mono further).trans (ensureFolder_made goesOn)
          · rw [eq_of_asked ends]
            exact .refl before _

theorem ensureFolders_made (ends : (ensureFolders path).Ends before result after) :
    before.FoldersMade (reached (before.steps path)) after := by
  rw [ensureFolders] at ends
  cases refused : path.refusal? with
  | some fault =>
      rw [refused] at ends
      rw [(ends_throw_iff.mp ends).2]
      exact .refl before _
  | none =>
      rw [refused] at ends
      have made := ensureFoldersReversed_made _ (ends_get_bind_iff.mp ends)
      rwa [List.reverse_reverse] at made

/-! ## Writing files -/

theorem Filled.kindAt_before {place position : Position} {kind : Kind}
    (filled : before.Filled place content after) (shown : after.root.kindAt position = kind)
    (other : kind ≠ .file content) : before.root.kindAt position = kind := by
  rw [filled.kinds] at shown
  split at shown
  · exact absurd shown.symm other
  · exact shown

/-- A file is written where no folder stands, or nothing has changed. -/
theorem writeFile_cases (ends : (writeFile path content).Ends before result after) :
    (∃ fault, result = .error fault ∧ after = before) ∨
      result = .ok () ∧ before.root.kindAt (resolve [] (before.steps path)) ≠ .folder ∧
        before.Filled (resolve [] (before.steps path)) content after := by
  rcases lift_bind_cases (ends_get_bind_iff.mp ends) with
    ⟨fault, _, rfl, rfl⟩ | ⟨⟨place, slash⟩, located, goesOn⟩
  · exact Or.inl ⟨fault, rfl, rfl⟩
  · have leads := (locate_ok located).1
    cases place with
    | standing position =>
        obtain ⟨rfl, rfl⟩ := ends_throw_iff.mp goesOn
        exact Or.inl ⟨_, rfl, rfl⟩
    | entry inside name =>
        cases slash with
        | true =>
            obtain ⟨rfl, rfl⟩ := ends_throw_iff.mp goesOn
            exact Or.inl ⟨_, rfl, rfl⟩
        | false =>
            rcases lift_bind_cases goesOn with ⟨fault, _, rfl, rfl⟩ | ⟨found, asked, written⟩
            · exact Or.inl ⟨fault, rfl, rfl⟩
            · have standing := entry?_ok asked
              rw [← leads.inside_append]
              by_cases isFolder : before.root.kindAt (inside ++ [name]) = .folder
              · obtain ⟨entries, there⟩ := find?_eq_some_folder_iff.mp isFolder
                obtain rfl := standing.symm.trans there
                obtain ⟨rfl, rfl⟩ := ends_throw_iff.mp written
                exact Or.inl ⟨_, rfl, rfl⟩
              · have put : (set (before.putEntry inside name (.file content)) :
                    Operation PUnit).Ends before result after := by
                  rcases found with _ | (old | entries)
                  · exact written
                  · exact written
                  · exact absurd (find?_eq_some_folder_iff.mpr ⟨entries, standing⟩) isFolder
                obtain ⟨rfl, rfl⟩ := ends_set_iff.mp put
                exact Or.inr ⟨rfl, isFolder, putEntry_filled leads.kindAt_inside isFolder⟩

/-! ## Creating files -/

/-- A file that is staged under a name that nothing had, and that the path does not ask for. -/
structure Staged (before : FileSystem) (path : Path) (content : ByteArray) (inside : Position)
    (fresh : String) (after : FileSystem) : Prop where
  unnamed : path.fileName? ≠ some fresh
  nothing : before.root.kindAt (inside ++ [fresh]) = .nothing
  filled : before.Filled (inside ++ [fresh]) content after

theorem stage_cases {result : Except FileFault Position}
    (ends : (stage path content).Ends before result after) :
    (∃ fault, result = .error fault ∧ after = before) ∨
      ∃ inside fresh, result = .ok (inside ++ [fresh]) ∧
        before.Staged path content inside fresh after := by
  rcases lift_bind_cases (ends_get_bind_iff.mp ends) with
    ⟨fault, _, rfl, rfl⟩ | ⟨inside, walked, goesOn⟩
  · exact Or.inl ⟨fault, rfl, rfl⟩
  · have there := (walkToFolder_ok walked).2
    obtain ⟨rfl, rfl⟩ := Prod.mk.inj goesOn
    have unreserved := before.freshName_not_reserved inside path.fileName?.toList
    refine Or.inr ⟨inside, _, rfl, fun named => ?_, kindAt_freshName there _,
      staged_filled there _⟩
    rw [Option.mem_toList] at unreserved
    exact unreserved named

section Staged

variable {inside : Position} {fresh : String}
  (staged : before.Staged path content inside fresh middle)
include staged

/-- Nothing is left of a staged file that is given up. -/
theorem Staged.discarded (places : List Position) :
    before.FoldersMade places { middle with root := middle.root.remove (inside ++ [fresh]) } :=
  ⟨staged.filled.working, fun position =>
    Or.inl (staged.filled.kindAt_remove staged.nothing position)⟩

/-- Where something is in the way of the move, it was there before the file was staged. -/
theorem Staged.in_the_way {place : Target} {slash : Bool}
    (located : middle.locate path = .ok (place, slash))
    (there : middle.root.kindAt (resolve [] (middle.steps path)) ≠ .nothing) :
    before.root.kindAt (resolve [] (middle.steps path)) ≠ .nothing := by
  obtain ⟨leads, named⟩ := locate_ok located
  have apart : resolve [] (middle.steps path) ≠ inside ++ [fresh] := by
    intro same
    cases place with
    | standing position =>
        cases leads with
        | standing stands =>
            rcases stands with top | isFolder
            · simp [top] at same
            · rw [same, staged.filled.kinds, if_pos rfl] at isFolder
              contradiction
    | entry folder name =>
        rw [← leads.inside_append] at same
        obtain ⟨_, sameName⟩ := List.append_inj' same rfl
        refine staged.unnamed ?_
        rw [named folder name rfl, List.singleton_inj.mp sameName]
  rwa [staged.filled.kinds, if_neg apart] at there

/-- A place that is vacant once the file is staged was vacant before, and the file is moved there. -/
theorem Staged.moved {folder : Position} {name : String}
    (leads : middle.LeadsTo steps (.entry folder name))
    (missing : middle.root.kindAt (resolve [] steps) = .nothing) :
    before.root.kindAt (resolve [] steps) = .nothing ∧
      before.Filled (resolve [] steps) content
        (middle.moveEntry (inside ++ [fresh]) folder name) := by
  have nothing := staged.filled.kindAt_before missing Kind.noConfusion
  have there := staged.filled.kindAt_before leads.kindAt_inside Kind.noConfusion
  refine ⟨nothing, ?_⟩
  rw [← leads.inside_append] at nothing ⊢
  exact moveEntry_filled staged.filled staged.nothing there (ne_folder_of_nothing nothing)

/-- A move ends with the file in its place, where nothing stood, or it changes nothing; it only
takes the place to be taken if something stood there before. -/
theorem Staged.moveIntoPlace_cases
    (ends : (moveIntoPlace (inside ++ [fresh]) path).Ends middle result after) :
    (∃ fault, result = .error fault ∧ after = middle ∧ (fault = .alreadyExists →
      before.root.kindAt (resolve [] (before.steps path)) ≠ .nothing)) ∨
      result = .ok () ∧ before.root.kindAt (resolve [] (before.steps path)) = .nothing ∧
        before.Filled (resolve [] (before.steps path)) content after := by
  have sameSteps := steps_of_working staged.filled.working path
  rcases lift_bind_cases (ends_get_bind_iff.mp ends) with
    ⟨fault, failed, rfl, rfl⟩ | ⟨⟨place, slash⟩, located, goesOn⟩
  · refine Or.inl ⟨fault, rfl, rfl, ?_⟩
    rintro rfl
    exact absurd failed (locate_ne_alreadyExists _ _)
  · have leads := (locate_ok located).1
    rw [← sameSteps]
    cases place with
    | standing position =>
        obtain ⟨rfl, rfl⟩ := ends_throw_iff.mp goesOn
        refine Or.inl ⟨_, rfl, rfl, fun _ => staged.in_the_way located ?_⟩
        exact leads.standing_ne_nothing
    | entry folder name =>
        rcases lift_bind_cases goesOn with ⟨fault, failed, rfl, rfl⟩ | ⟨found, asked, moves⟩
        · refine Or.inl ⟨fault, rfl, rfl, ?_⟩
          rintro rfl
          exact absurd failed (entry?_ne_alreadyExists _ _ _)
        · have standing := entry?_ok asked
          rw [leads.inside_append] at standing
          cases found with
          | some entry =>
              obtain ⟨rfl, rfl⟩ := ends_throw_iff.mp moves
              refine Or.inl ⟨_, rfl, rfl, fun _ => staged.in_the_way located ?_⟩
              rw [kindAt, standing]
              exact entry.kind_ne_nothing
          | none =>
              cases slash with
              | true =>
                  obtain ⟨rfl, rfl⟩ := ends_throw_iff.mp moves
                  exact Or.inl ⟨_, rfl, rfl, fun other => FileFault.noConfusion other⟩
              | false =>
                  obtain ⟨rfl, rfl⟩ := ends_set_iff.mp moves
                  exact Or.inr ⟨rfl, staged.moved leads (find?_eq_none_iff.mpr standing)⟩

/-- Creating a file from a staged one ends as the move does. -/
theorem Staged.attempt_cases {result : Except FileFault Bool}
    (ends : (moveIntoPlace (inside ++ [fresh]) path >>= fun _ => pure true).Ends middle result
      after) :
    (∃ fault, result = .error fault ∧ after = middle ∧ (fault = .alreadyExists →
      before.root.kindAt (resolve [] (before.steps path)) ≠ .nothing)) ∨
      result = .ok true ∧ before.root.kindAt (resolve [] (before.steps path)) = .nothing ∧
        before.Filled (resolve [] (before.steps path)) content after := by
  rcases ends.bind_cases with ⟨fault, rfl, failed⟩ | ⟨_, last, moved, ended⟩
  · rcases staged.moveIntoPlace_cases failed with ⟨_, same, unchanged⟩ | ⟨never, _⟩
    · obtain rfl := Except.error.inj same
      exact Or.inl ⟨fault, rfl, unchanged⟩
    · contradiction
  · obtain ⟨rfl, rfl⟩ := ends_pure_iff.mp ended
    rcases staged.moveIntoPlace_cases moved with ⟨_, never, _⟩ | ⟨_, placed⟩
    · contradiction
    · exact Or.inr ⟨rfl, placed⟩

end Staged

theorem discard_bind_iff {α : Type} {place : Position} {later : Unit → Operation α}
    {result : Except FileFault α} :
    (discard place >>= later).Ends before result after ↔
      (later ()).Ends { before with root := before.root.remove place } result after :=
  Iff.rfl

/-- A file is created where nothing stood, with nothing left where it was staged; it is only kept
where something stood; and otherwise nothing has changed. -/
theorem createFile_cases {result : Except FileFault Bool}
    (ends : (createFile path content).Ends before result after) :
    (∃ fault, result = .error fault ∧ before.FoldersMade [] after) ∨
      (result = .ok false ∧ before.FoldersMade [] after ∧
        before.root.kindAt (resolve [] (before.steps path)) ≠ .nothing) ∨
      result = .ok true ∧ before.root.kindAt (resolve [] (before.steps path)) = .nothing ∧
        before.Filled (resolve [] (before.steps path)) content after := by
  rcases ends.bind_cases with ⟨fault, rfl, failed⟩ | ⟨place, middle, done, goesOn⟩
  · rcases stage_cases failed with ⟨_, _, rfl⟩ | ⟨_, _, never, _⟩
    · exact Or.inl ⟨fault, rfl, .refl _ _⟩
    · contradiction
  · rcases stage_cases done with ⟨_, never, _⟩ | ⟨inside, fresh, same, staged⟩
    · contradiction
    · obtain rfl := Except.ok.inj same
      rcases goesOn.catch_cases with ⟨value, rfl, done⟩ | ⟨fault, last, failed, handled⟩
      · rcases staged.attempt_cases done with ⟨_, never, _⟩ | placed
        · contradiction
        · exact Or.inr (Or.inr placed)
      · rcases staged.attempt_cases failed with ⟨_, same, rfl, taken⟩ | ⟨never, _⟩
        · obtain rfl := Except.error.inj same
          -- The staged file is discarded, and only a place that was taken is no failure.
          have discarded := discard_bind_iff.mp handled
          split at discarded
          · rename_i already
            obtain ⟨rfl, rfl⟩ := ends_pure_iff.mp discarded
            exact Or.inr (Or.inl ⟨rfl, staged.discarded _, taken already⟩)
          · obtain ⟨rfl, rfl⟩ := ends_throw_iff.mp discarded
            exact Or.inl ⟨fault, rfl, staged.discarded _⟩
        · contradiction

end Homeplan.FileSystem
