import Homeplan.Proofs.Artifact.TreeRefinement
import Homeplan.Proofs.FileSystem.Outcomes

namespace Homeplan

open FileTree

/-! One write into a directory tree touches one file.

The tree may be of any shape: files may stand where folders are needed, folders where a file
belongs, and the root may lead through double dots.  A write may fail then, but it does no harm.
-/

namespace FileSystem

variable {before middle after : FileSystem} {places : List Position} {path : Path}

theorem FoldersMade.files_eq (made : before.FoldersMade places after) :
    after.files = before.files := by
  funext position
  simp only [files, fileAt]
  rcases made.kinds position with same | ⟨_, nothing, isFolder⟩
  · rw [same]
  · rw [nothing, isFolder]

/-- Where the folders of a path belong: the positions that its parent comes to. -/
def foldersFor (system : FileSystem) (path : Path) : List Position :=
  match path.parent? with
  | none => []
  | some parent => reached (system.steps parent)

end FileSystem

namespace TreeSink

variable {before middle after : FileSystem} {path : Path} {artifact : Artifact}

/-- At a full path, a file is written in the place of a file or of nothing, or no kind changes. -/
theorem place_cases {result : Except FileFault WriteOutcome}
    (ends : (place path artifact).Ends before result after) :
    (∃ fault, result = .error fault ∧ before.FoldersMade [] after) ∨
      (result = .ok .kept ∧ before.FoldersMade [] after ∧
        before.root.kindAt (before.position path) ≠ .nothing) ∨
      result = .ok .written ∧
        (artifact.policy = .createOnly → before.root.kindAt (before.position path) = .nothing) ∧
        before.root.kindAt (before.position path) ≠ .folder ∧
        before.Filled (before.position path) artifact.contents.toUTF8 after := by
  rw [place] at ends
  cases policy : artifact.policy with
  | overwrite =>
      rw [policy] at ends
      rcases ends.bind_cases with ⟨fault, rfl, failed⟩ | ⟨_, middle, done, ended⟩
      · rcases FileSystem.writeFile_cases failed with ⟨_, _, rfl⟩ | ⟨never, _⟩
        · exact Or.inl ⟨fault, rfl, .refl _ _⟩
        · contradiction
      · obtain ⟨rfl, rfl⟩ := FileSystem.ends_pure_iff.mp ended
        rcases FileSystem.writeFile_cases done with ⟨_, never, _⟩ | ⟨_, vacant, filled⟩
        · contradiction
        · exact Or.inr (Or.inr ⟨rfl, fun other => WritePolicy.noConfusion other, vacant, filled⟩)
  | createOnly =>
      rw [policy] at ends
      rcases ends.bind_cases with ⟨fault, rfl, failed⟩ | ⟨created, middle, done, ended⟩
      · rcases FileSystem.createFile_cases failed with ⟨_, _, made⟩ | ⟨never, _⟩ | ⟨never, _⟩
        · exact Or.inl ⟨fault, rfl, made⟩
        · contradiction
        · contradiction
      · rcases FileSystem.createFile_cases done with
          ⟨_, never, _⟩ | ⟨same, made, there⟩ | ⟨same, nothing, filled⟩
        · contradiction
        · obtain rfl := Except.ok.inj same
          obtain ⟨rfl, rfl⟩ := FileSystem.ends_pure_iff.mp ended
          exact Or.inr (Or.inl ⟨rfl, made, there⟩)
        · obtain rfl := Except.ok.inj same
          obtain ⟨rfl, rfl⟩ := FileSystem.ends_pure_iff.mp ended
          exact Or.inr (Or.inr ⟨rfl, fun _ => nothing, ne_folder_of_nothing nothing, filled⟩)

theorem reporting_run_eq (path : Path) (operation : FileSystem.Operation α)
    (before : FileSystem) :
    (reporting path operation).run before =
      ((operation.run.run before).1.mapError fun fault => ⟨path, fault.message⟩,
        (operation.run.run before).2) := by
  rw [reporting, StateT.run_bind]
  rcases operation.run.run before with ⟨fault | value, after⟩ <;> rfl

/-- A write stops while it makes the folders, or it goes on to place the file. -/
theorem write_cases {root : Path} {result : Except SinkError WriteOutcome}
    (ends : (write root artifact).run before = (result, after)) :
    (∃ error, result = .error error ∧
      before.FoldersMade (before.foldersFor (root.append artifact.path)) after) ∨
      ∃ opened placed, before.FoldersMade (before.foldersFor (root.append artifact.path)) opened ∧
        (place (root.append artifact.path) artifact).Ends opened placed after ∧
        result = placed.mapError fun fault => ⟨root.append artifact.path, fault.message⟩ := by
  unfold write at ends
  dsimp only at ends
  rw [FileSystem.foldersFor]
  cases found : (root.append artifact.path).parent? with
  | none =>
      rw [found, reporting_run_eq] at ends
      obtain ⟨rfl, rfl⟩ := Prod.mk.inj ends
      exact Or.inr ⟨before, _, .refl _ _, rfl, rfl⟩
  | some parent =>
      rw [found] at ends
      dsimp only at ends
      rw [StateT.run_bind, reporting_run_eq] at ends
      rcases stopped : (FileSystem.ensureFolders parent).run.run before with ⟨fault | _, opened⟩
      · rw [stopped] at ends
        obtain ⟨rfl, rfl⟩ := Prod.mk.inj ends
        exact Or.inl ⟨_, rfl, FileSystem.ensureFolders_made stopped⟩
      · rw [stopped] at ends
        obtain ⟨rfl, rfl⟩ := Prod.mk.inj ((reporting_run_eq _ _ opened).symm.trans ends)
        exact Or.inr ⟨opened, _, FileSystem.ensureFolders_made stopped, rfl, rfl⟩

/-- A write that fails leaves every file as it was.  A write that keeps leaves every file as well,
and it keeps what stood at the target or, for a root that leads through the target, the folder it
has just made there.  A write that succeeds changes the file at the target alone.  Otherwise missing
folders above the target may come to stand, and nothing else: no staged file is left. -/
theorem write_touches_one_file (root : Path) (artifact : Artifact) (before : FileSystem) :
    let path := root.append artifact.path
    let target := before.position path
    let content := artifact.contents.toUTF8
    match (write root artifact).run before with
    | (.error _, after) =>
        after.files = before.files ∧ before.FoldersMade (before.foldersFor path) after
    | (.ok .kept, after) =>
        after.files = before.files ∧ before.FoldersMade (before.foldersFor path) after ∧
          (before.root.kindAt target ≠ .nothing ∨
            target ∈ before.foldersFor path ∧ after.root.kindAt target = .folder)
    | (.ok .written, after) =>
        after.files = before.files.store target content ∧
          (artifact.policy = .createOnly → before.root.kindAt target = .nothing) ∧
          before.root.kindAt target ≠ .folder ∧
          ∃ opened, before.FoldersMade (before.foldersFor path) opened ∧
            opened.Filled target content after := by
  intro path target content
  rcases ended : (write root artifact).run before with ⟨result, after⟩
  rcases write_cases ended with ⟨error, rfl, made⟩ | ⟨opened, placed, made, ends, rfl⟩
  · exact ⟨made.files_eq, made⟩
  · have sameTarget : opened.position path = target :=
      FileSystem.position_of_working made.working path
    rcases place_cases ends with
      ⟨fault, rfl, gone⟩ | ⟨rfl, gone, there⟩ | ⟨rfl, created, vacant, filled⟩
    · have whole := made.trans (gone.mono (List.nil_subset _))
      exact ⟨whole.files_eq, whole⟩
    · have whole := made.trans (gone.mono (List.nil_subset _))
      refine ⟨whole.files_eq, whole, ?_⟩
      rw [sameTarget] at there
      have stays : after.root.kindAt target ≠ .nothing := by
        rwa [gone.kindAt_eq there]
      rcases whole.kinds target with same | ⟨member, _, isFolder⟩
      · exact Or.inl (same ▸ stays)
      · exact Or.inr ⟨member, isFolder⟩
    · rw [sameTarget] at created vacant filled
      refine ⟨?_, fun policy => made.nothing_before (created policy), ?_, opened, made, filled⟩
      · rw [filled.files_eq, made.files_eq]
      · intro isFolder
        rw [made.kindAt_eq (isFolder ▸ Kind.noConfusion), isFolder] at vacant
        exact vacant rfl

/-- The folder that the root leads through is made where the artifact belongs, so the artifact is
kept although nothing stood there. -/
theorem kept_over_folder_just_made :
    let system : FileSystem := { root := .folder [], working := [] }
    let stub : Artifact := ⟨⟨"a"⟩, "x", .createOnly⟩
    let root : Path := ⟨"a/.."⟩
    ((write root stub).run system).1 = .ok .kept ∧
      system.root.kindAt (system.position (root.append stub.path)) = .nothing :=
  ⟨by decide +kernel, rfl⟩

end TreeSink

end Homeplan
