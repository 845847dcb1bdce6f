import Homeplan.FileSystem
import Homeplan.Proofs.FileTree

namespace Homeplan

/-! Where paths lead.

Double dots are resolved step by step, so a path passes positions that its end does not show.  It
leads somewhere exactly if folders stand at all positions that it passes.
-/

namespace FileTree

def next (position : Position) (step : String) : Position :=
  if step = ".." then position.dropLast else position ++ [step]

def resolve (start : Position) (steps : List String) : Position := steps.foldl next start

/-- The positions that steps are taken from. -/
def passed (start : Position) : List String → List Position
  | [] => []
  | step :: rest => start :: passed (next start step) rest

/-- The positions that steps pass, and the one that they end at. -/
def reached (steps : List String) : List Position := passed [] steps ++ [resolve [] steps]

theorem resolve_append (start : Position) (first later : List String) :
    resolve start (first ++ later) = resolve (resolve start first) later :=
  List.foldl_append

theorem passed_append (start : Position) (first later : List String) :
    passed start (first ++ later) = passed start first ++ passed (resolve start first) later := by
  induction first generalizing start with
  | nil => rfl
  | cons step rest ih => exact congrArg (start :: ·) (ih (next start step))

theorem passed_concat (steps : List String) (last : String) :
    passed [] (steps ++ [last]) = reached steps :=
  passed_append [] steps [last]

theorem reached_concat (steps : List String) (last : String) :
    reached (steps ++ [last]) = reached steps ++ [next (resolve [] steps) last] := by
  rw [reached, passed_concat, resolve_append]
  rfl

theorem reached_subset_concat (steps : List String) (last : String) :
    reached steps ⊆ reached (steps ++ [last]) := by
  rw [reached_concat]
  exact List.subset_append_left ..

theorem resolve_mem_reached (steps : List String) : resolve [] steps ∈ reached steps :=
  List.mem_append_right _ (List.mem_singleton_self _)

theorem next_name {step : String} (isName : step ≠ "..") (position : Position) :
    next position step = position ++ [step] :=
  if_neg isName

theorem resolve_names {steps : List String} (names : ∀ step ∈ steps, step ≠ "..")
    (start : Position) : resolve start steps = start ++ steps := by
  induction steps generalizing start with
  | nil => exact (List.append_nil start).symm
  | cons step rest ih =>
      obtain ⟨isName, later⟩ := List.forall_mem_cons.mp names
      have first : resolve start (step :: rest) = resolve (next start step) rest := rfl
      rw [first, ih later, next_name isName, List.append_assoc, List.singleton_append]

/-- With names only, steps pass what is above their end and no more. -/
theorem exists_prefix_of_mem_passed {steps : List String} (names : ∀ step ∈ steps, step ≠ "..")
    {start position : Position} (passes : position ∈ passed start steps) :
    ∃ front, front <+: steps ∧ front ≠ steps ∧ position = start ++ front := by
  induction steps generalizing start with
  | nil => contradiction
  | cons step rest ih =>
      obtain ⟨isName, later⟩ := List.forall_mem_cons.mp names
      rcases List.mem_cons.mp passes with rfl | further
      · exact ⟨[], List.nil_prefix, (List.cons_ne_nil _ _).symm, (List.append_nil _).symm⟩
      · obtain ⟨front, before, notAll, rfl⟩ := ih later further
        rw [next_name isName]
        refine ⟨step :: front, List.cons_prefix_cons.mpr ⟨rfl, before⟩, ?_, by simp⟩
        exact fun same => notAll (List.cons.inj same).2

/-! ## Walks -/

/-- The folders passed on the way from the top of a tree to an entry of it, each with the name taken
in it, nearest first. -/
inductive Trail (top : FileTree) : List (String × FileTree) → FileTree → Prop
  | start : Trail top [] top
  | into {trail : List (String × FileTree)} {entries : List (String × FileTree)} {step : String}
      {entry : FileTree} (above : Trail top trail (.folder entries))
      (found : entries.lookup step = some entry) :
      Trail top ((step, .folder entries) :: trail) entry

def positionOf (trail : List (String × FileTree)) : Position := (trail.map (·.1)).reverse

variable {top tree : FileTree} {trail : List (String × FileTree)} {steps : List String}

theorem positionOf_cons (step : String) (above : FileTree) (trail : List (String × FileTree)) :
    positionOf ((step, above) :: trail) = positionOf trail ++ [step] := by
  simp [positionOf]

theorem Trail.find? (way : Trail top trail tree) : top.find? (positionOf trail) = some tree := by
  induction way with
  | start => simp [positionOf, FileTree.find?]
  | into above found ih =>
      rw [positionOf_cons, find?_append, ih]
      simp [FileTree.find?, found]

theorem Trail.kindAt (way : Trail top trail tree) : top.kindAt (positionOf trail) = tree.kind := by
  rw [FileTree.kindAt, way.find?]

theorem Trail.kindAt_into {entries : List (String × FileTree)}
    (way : Trail top trail (.folder entries)) (step : String) :
    entries.lookup step = none ↔ top.kindAt (positionOf trail ++ [step]) = .nothing := by
  rw [find?_eq_none_iff, find?_append, way.find?, Option.bind_some]
  cases found : entries.lookup step <;> simp [FileTree.find?, found]

/-- Steps whose names are not too long. -/
def ShortSteps (steps : List String) : Prop :=
  ∀ step ∈ steps, step.utf8ByteSize ≤ Path.nameSizeLimit

theorem ShortSteps.of_concat {last : String} (short : ShortSteps (steps ++ [last])) :
    ShortSteps steps ∧ last.utf8ByteSize ≤ Path.nameSizeLimit :=
  ⟨fun step member => short step (List.mem_append_left _ member), short last (by simp)⟩

/-- One step from a folder either comes to the next position or finds nothing there. -/
theorem follow_step (way : Trail top trail tree)
    (isFolder : top.kindAt (positionOf trail) = .folder) {step : String}
    (short : step.utf8ByteSize ≤ Path.nameSizeLimit) :
    (∃ further entry, Trail top further entry ∧
      positionOf further = next (positionOf trail) step ∧
      ∀ rest, follow trail tree (step :: rest) = follow further entry rest) ∨
    (top.kindAt (next (positionOf trail) step) = .nothing ∧
      ∀ rest, follow trail tree (step :: rest) = .error .notFound) := by
  rw [way.kindAt] at isFolder
  cases tree with
  | file content => contradiction
  | folder entries =>
      by_cases up : step = ".."
      · subst up
        cases way with
        | start => exact Or.inl ⟨[], _, .start, rfl, fun _ => by simp [follow]⟩
        | into above found =>
            refine Or.inl ⟨_, _, above, ?_, fun _ => by simp [follow]⟩
            simp [next, positionOf_cons]
      · have notLong : ¬ Path.nameSizeLimit < step.utf8ByteSize := Nat.not_lt.mpr short
        rw [next_name up]
        cases found : entries.lookup step with
        | none =>
            refine Or.inr ⟨(way.kindAt_into step).mp found, fun _ => ?_⟩
            simp [follow, up, notLong, found]
        | some entry =>
            refine Or.inl ⟨_, entry, .into way found, positionOf_cons .., fun _ => ?_⟩
            simp [follow, up, notLong, found]

theorem there_of_passed {start : Position}
    (folders : ∀ position ∈ passed start steps, top.kindAt position = .folder)
    (there : top.kindAt (resolve start steps) ≠ .nothing) : top.kindAt start ≠ .nothing := by
  cases steps with
  | nil => exact there
  | cons step rest =>
      rw [folders start (List.mem_cons_self ..)]
      exact Kind.noConfusion

theorem follow_folders (way : Trail top trail tree) (short : ShortSteps steps)
    (folders : ∀ position ∈ passed (positionOf trail) steps, top.kindAt position = .folder)
    (there : top.kindAt (resolve (positionOf trail) steps) ≠ .nothing) :
    follow trail tree steps = .ok (resolve (positionOf trail) steps) := by
  induction steps generalizing trail tree with
  | nil => cases tree <;> rfl
  | cons step rest ih =>
      obtain ⟨here, later⟩ := List.forall_mem_cons.mp folders
      obtain ⟨shortStep, shortRest⟩ := List.forall_mem_cons.mp short
      rcases follow_step way here shortStep with ⟨further, entry, onward, arrived, goesOn⟩ | ⟨missing, _⟩
      · rw [goesOn, ih onward shortRest (arrived ▸ later) (arrived ▸ there), arrived]
        rfl
      · exact absurd missing (there_of_passed later there)

/-- A walk that meets no file, but comes to a position where nothing stands, finds that out. -/
theorem follow_missing (way : Trail top trail tree) (short : ShortSteps steps)
    (noFiles : ∀ position ∈ passed (positionOf trail) steps,
      ∀ content, top.kindAt position ≠ .file content)
    (missing : ∃ position ∈ passed (positionOf trail) steps ++ [resolve (positionOf trail) steps],
      top.kindAt position = .nothing) :
    follow trail tree steps = .error .notFound := by
  induction steps generalizing trail tree with
  | nil =>
      obtain ⟨position, member, nothing⟩ := missing
      obtain rfl := List.mem_singleton.mp member
      exact absurd (way.kindAt.symm.trans nothing) tree.kind_ne_nothing
  | cons step rest ih =>
      obtain ⟨here, later⟩ := List.forall_mem_cons.mp noFiles
      obtain ⟨shortStep, shortRest⟩ := List.forall_mem_cons.mp short
      -- The walk has come to something that is no file.
      have isFolder : top.kindAt (positionOf trail) = .folder := by
        cases tree with
        | file content => exact absurd way.kindAt (here content)
        | folder entries => exact way.kindAt
      rcases follow_step way isFolder shortStep with ⟨further, entry, onward, arrived, goesOn⟩ | stuck
      · rw [goesOn]
        refine ih onward shortRest (arrived ▸ later) ?_
        obtain ⟨position, member, nothing⟩ := missing
        rcases List.mem_cons.mp member with rfl | beyond
        · simp [isFolder] at nothing
        · exact ⟨position, arrived ▸ beyond, nothing⟩
      · exact stuck.2 rest

end FileTree

/-! ## Walks through the tree of a system -/

namespace FileSystem

open FileTree

variable {system : FileSystem} {steps : List String}

/-- Folders stand at all positions that the steps come to. -/
def Open (system : FileSystem) (steps : List String) : Prop :=
  ∀ position ∈ reached steps, system.root.kindAt position = .folder

/-- No file stands at a position that the steps come to. -/
def Passable (system : FileSystem) (steps : List String) : Prop :=
  ∀ position ∈ reached steps, ∀ content, system.root.kindAt position ≠ .file content

theorem Open.ends (isOpen : system.Open steps) :
    system.root.kindAt (resolve [] steps) = .folder :=
  isOpen _ (resolve_mem_reached steps)

theorem walk_open (short : ShortSteps steps) (isOpen : system.Open steps) :
    system.walk steps = .ok (resolve [] steps) := by
  refine follow_folders .start short (fun position member => isOpen position ?_) ?_
  · exact List.mem_append_left _ member
  · rw [show positionOf [] = [] from rfl, isOpen.ends]
    exact Kind.noConfusion

theorem walkToFolder_open (short : ShortSteps steps) (isOpen : system.Open steps) :
    system.walkToFolder steps = .ok (resolve [] steps) := by
  have ends : system.root.isFolderAt (resolve [] steps) = true := by
    obtain ⟨entries, found⟩ := find?_eq_some_folder_iff.mp isOpen.ends
    simp [isFolderAt, found]
  simp only [walkToFolder, walk_open short isOpen]
  show (if system.root.isFolderAt (resolve [] steps) = true then _ else _) = _
  rw [if_pos ends]
  rfl

theorem exists_nothing_of_not_open (passable : system.Passable steps)
    (notOpen : ¬ system.Open steps) :
    ∃ position ∈ reached steps, system.root.kindAt position = .nothing := by
  simp only [Open, Classical.not_forall] at notOpen
  obtain ⟨position, member, notFolder⟩ := notOpen
  refine ⟨position, member, ?_⟩
  cases kind : system.root.kindAt position with
  | nothing => rfl
  | folder => exact absurd kind notFolder
  | file content => exact absurd kind (passable position member content)

theorem walk_missing (short : ShortSteps steps) (passable : system.Passable steps)
    (notOpen : ¬ system.Open steps) : system.walk steps = .error .notFound := by
  refine follow_missing .start short (fun position member => passable position ?_)
    (exists_nothing_of_not_open passable notOpen)
  exact List.mem_append_left _ member

theorem walkToFolder_missing (short : ShortSteps steps) (passable : system.Passable steps)
    (notOpen : ¬ system.Open steps) : system.walkToFolder steps = .error .notFound := by
  simp only [walkToFolder, walk_missing short passable notOpen]
  rfl

end FileSystem

end Homeplan
