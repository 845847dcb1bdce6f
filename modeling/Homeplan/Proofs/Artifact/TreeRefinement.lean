import Homeplan.Artifact.TreeSink
import Homeplan.Proofs.Artifact.Delivery
import Homeplan.Proofs.FileSystem.Files
import Homeplan.Proofs.Path.Steps

namespace Homeplan

open FileTree

/-! Writing into a directory tree is writing into a map of files.

As long as no file is in the way of a folder and no folder in the way of a file, all that a run of
artifacts does to a tree is what it does to the map from positions to the contents of files.
-/

/-! ## Maps of files -/

abbrev FileMap := Position → Option ByteArray

def FileMap.store (files : FileMap) (place : Position) (content : ByteArray) : FileMap :=
  fun position => if position = place then some content else files position

/-- A create-only artifact keeps the file that is there; any other artifact replaces it. -/
def FileMap.write (place : Artifact → Position) : Sink (StateM FileMap) := fun artifact => do
  let files ← get
  if artifact.policy = .createOnly && (files (place artifact)).isSome then return .ok .kept
  else
    set (files.store (place artifact) artifact.contents.toUTF8)
    return .ok .written

theorem FileMap.write_run (place : Artifact → Position) (artifact : Artifact) (files : FileMap) :
    (FileMap.write place artifact).run files =
      if artifact.policy = .createOnly && (files (place artifact)).isSome then (.ok .kept, files)
      else (.ok .written, files.store (place artifact) artifact.contents.toUTF8) := by
  rw [write, StateT.run_bind, StateT.run_get, pure_bind]
  split <;> rfl

theorem FileMap.store_same {files : FileMap} {place : Position} {content : ByteArray}
    (there : files place = some content) : files.store place content = files := by
  funext position
  unfold store
  split
  · rename_i same
    rw [same, there]
  · rfl

theorem FileMap.write_elsewhere {place : Artifact → Position} {artifact : Artifact}
    {files after : FileMap} {outcome : WriteOutcome}
    (written : (FileMap.write place artifact).run files = (.ok outcome, after))
    {position : Position} (elsewhere : position ≠ place artifact) :
    after position = files position := by
  rw [write_run] at written
  split at written
  · rw [(Prod.mk.inj written).2]
  · rw [← (Prod.mk.inj written).2, store, if_neg elsewhere]

namespace FileSystem

def files (system : FileSystem) : FileMap := system.root.fileAt

/-- Where a path leads, with double dots resolved. -/
def position (system : FileSystem) (path : Path) : Position := resolve [] (system.steps path)

/-- The positions that a path leads through. -/
def above (system : FileSystem) (path : Path) : List Position := passed [] (system.steps path)

variable {before middle after : FileSystem} {steps : List String} {name : String} {path : Path}
  {content : ByteArray}

theorem position_of_working (same : after.working = before.working) (path : Path) :
    after.position path = before.position path := by
  rw [position, position, steps_of_working same]

theorem above_of_working (same : after.working = before.working) (path : Path) :
    after.above path = before.above path := by
  rw [above, above, steps_of_working same]

theorem steps_append (system : FileSystem) (root : Path) (relative : path.isAbsolute = false) :
    system.steps (root.append path) = system.steps root ++ path.steps := by
  rw [FileSystem.steps, FileSystem.steps, Path.isAbsolute_append root relative,
    Path.steps_append root relative]
  split
  · rfl
  · rw [List.append_assoc]

theorem Opened.files_eq (opened : before.Opened steps after) (passable : before.Passable steps) :
    after.files = before.files := by
  funext position
  simp only [files, fileAt, opened.kinds]
  by_cases member : position ∈ reached steps
  · rw [if_pos member]
    cases kind : before.root.kindAt position with
    | nothing => rfl
    | folder => rfl
    | file content => exact absurd kind (passable position member content)
  · rw [if_neg member]

theorem Filled.files_eq {place : Position} (filled : before.Filled place content after) :
    after.files = before.files.store place content := by
  funext position
  simp only [files, fileAt, filled.kinds, FileMap.store]
  by_cases same : position = place
  · rw [if_pos same, if_pos same]
  · rw [if_neg same, if_neg same]

end FileSystem

namespace TreeSink

/-! ## One artifact -/

variable {system before after : FileSystem} {root path : Path} {artifact : Artifact}
  {artifacts : List Artifact}

theorem reporting_run {operation : FileSystem.Operation α} {value : α}
    (ends : operation.Ends before (.ok value) after) (path : Path) :
    (reporting path operation).run before = (.ok value, after) := by
  unfold FileSystem.Operation.Ends at ends
  rw [reporting, StateT.run_bind, ends]
  rfl

theorem write_run {parent : Path} {middle : FileSystem} {outcome : WriteOutcome}
    (found : (root.append artifact.path).parent? = some parent)
    (made : (FileSystem.ensureFolders parent).Ends before (.ok ()) middle)
    (placed : (place (root.append artifact.path) artifact).Ends middle (.ok outcome) after) :
    (write root artifact).run before = (.ok outcome, after) := by
  have first := reporting_run made parent
  have second := reporting_run placed (root.append artifact.path)
  unfold write
  dsimp only
  rw [found]
  dsimp only
  rw [StateT.run_bind, first]
  exact second

/-- How a path comes apart into the folder that it leads into and a name in it. -/
structure Leads (system : FileSystem) (path parent : Path) (name : String) : Prop where
  plain : path.ending = .plain
  found : path.parent? = some parent
  split : system.steps path = system.steps parent ++ [name]
  accepted : path.refusal? = none → parent.refusal? = none
  isName : name ≠ ".."
  named : path.fileName? = some name
  beside : system.steps (FileSystem.stagingFolder path) = system.steps parent

theorem exists_leads (system : FileSystem) (root : Path) (normal : path.IsNormal)
    (plain : path.ending = .plain) :
    ∃ parent name, Leads system (root.append path) parent name := by
  obtain ⟨front, last, ends⟩ := Path.exists_endsIn plain
  obtain ⟨wholeFront, whole, _⟩ := ends.append root normal.relative
  obtain ⟨parent, found, folder⟩ := whole.parent_isFolderOf
  have isName : String.ofList last ≠ ".." := by
    refine normal.isName_of_mem_steps ?_
    rw [ends.steps]
    exact List.mem_append_right _ (List.mem_singleton_self _)
  have notAbove : last ≠ ['.', '.'] := by
    rintro rfl
    exact isName rfl
  have split : system.steps (root.append path) =
      system.steps parent ++ [String.ofList last] := by
    rw [FileSystem.steps, FileSystem.steps, folder.absolute, whole.steps, folder.steps]
    cases (root.append path).isAbsolute <;> simp
  have beside : system.steps (FileSystem.stagingFolder (root.append path)) =
      system.steps parent := by
    rw [FileSystem.stagingFolder, found]
    by_cases empty : parent.text.isEmpty = true
    · have isEmpty : parent = ⟨""⟩ := congrArg Path.mk (String.isEmpty_iff.mp empty)
      rw [isEmpty]
      rfl
    · simp only [if_neg empty]
  exact ⟨parent, String.ofList last, whole.plain, found, split, folder.accepted, isName,
    whole.fileName? notAbove, beside⟩

/-- Nothing that stands in the tree is in the way of an artifact. -/
structure Writable (system : FileSystem) (path : Path) : Prop where
  short : ShortSteps (system.steps path)
  accepted : path.refusal? = none
  noFileAbove : ∀ position ∈ system.above path, system.files position = none
  notFolder : system.root.kindAt (system.position path) ≠ .folder
  apart : system.position path ∉ system.above path

theorem files_eq_none_iff {position : Position} :
    system.files position = none ↔ ∀ content, system.root.kindAt position ≠ .file content := by
  unfold FileSystem.files fileAt
  cases kind : system.root.kindAt position <;> simp

theorem place_refines {steps : List String} {name : String}
    (into : before.LeadsInto path steps name)
    (beside : before.steps (FileSystem.stagingFolder path) = steps)
    (named : path.fileName? = some name)
    (vacant : before.root.kindAt (resolve [] steps ++ [name]) ≠ .folder) (artifact : Artifact) :
    ∃ outcome after content, (place path artifact).Ends before (.ok outcome) after ∧
      before.Filled (resolve [] steps ++ [name]) content after ∧
      (FileMap.write (fun _ => resolve [] steps ++ [name]) artifact).run before.files =
        (.ok outcome, after.files) := by
  cases policy : artifact.policy with
  | overwrite =>
      obtain ⟨after, written, filled⟩ :=
        @FileSystem.writeFile_ends before steps name path artifact.contents.toUTF8 into vacant
      refine ⟨.written, after, _, ?_, filled, ?_⟩
      · rw [place, policy]
        exact written.bind (FileSystem.ends_pure _)
      · rw [FileMap.write_run, filled.files_eq]
        simp [policy]
  | createOnly =>
      cases kind : before.root.kindAt (resolve [] steps ++ [name]) with
      | folder => exact absurd kind vacant
      | nothing =>
          obtain ⟨after, created, filled⟩ :=
            @FileSystem.createFile_written before steps name path artifact.contents.toUTF8
              into beside named kind
          have missing : before.files (resolve [] steps ++ [name]) = none := by
            simp [FileSystem.files, fileAt, kind]
          refine ⟨.written, after, _, ?_, filled, ?_⟩
          · rw [place, policy]
            exact created.bind (FileSystem.ends_pure _)
          · rw [FileMap.write_run, filled.files_eq]
            simp [missing]
      | file old =>
          obtain ⟨after, kept, filled⟩ :=
            @FileSystem.createFile_kept before steps name path artifact.contents.toUTF8
              into beside named old kind
          have there : before.files (resolve [] steps ++ [name]) = some old := by
            simp [FileSystem.files, fileAt, kind]
          refine ⟨.kept, after, old, ?_, filled, ?_⟩
          · rw [place, policy]
            exact kept.bind (FileSystem.ends_pure _)
          · rw [FileMap.write_run, filled.files_eq, FileMap.store_same there]
            simp [policy, there]

/-- One artifact changes the tree just as it changes the map of its files. -/
theorem write_refines {parent : Path} {name : String}
    (leads : Leads system (root.append artifact.path) parent name)
    (writable : Writable system (root.append artifact.path)) :
    ∃ outcome after, (write root artifact).run system = (.ok outcome, after) ∧
      (FileMap.write (fun artifact => system.position (root.append artifact.path)) artifact).run
        system.files = (.ok outcome, after.files) ∧
      after.working = system.working ∧
      ∀ position, after.root.kindAt position = .folder →
        system.root.kindAt position = .folder ∨
          position ∈ system.above (root.append artifact.path) := by
  have through : system.above (root.append artifact.path) = reached (system.steps parent) := by
    rw [FileSystem.above, leads.split, passed_concat]
  have placed : system.position (root.append artifact.path) =
      resolve [] (system.steps parent) ++ [name] := by
    rw [FileSystem.position, leads.split, resolve_append]
    exact next_name leads.isName _
  have short := writable.short
  rw [leads.split] at short
  have passable : system.Passable (system.steps parent) := by
    intro position member
    exact files_eq_none_iff.mp (writable.noFileAbove position (through ▸ member))
  obtain ⟨middle, made, opened⟩ := FileSystem.ensureFolders_ends
    (leads.accepted writable.accepted) short.of_concat.1 passable
  have into : middle.LeadsInto (root.append artifact.path) (system.steps parent) name :=
    { accepted := writable.accepted
      plain := leads.plain
      split := by rw [FileSystem.steps_of_working opened.working, leads.split]
      isName := leads.isName
      short := short
      isOpen := opened.isOpen }
  have beside : middle.steps (FileSystem.stagingFolder (root.append artifact.path)) =
      system.steps parent := by
    rw [FileSystem.steps_of_working opened.working, leads.beside]
  -- Only folders on the way were made, and the artifact has its place elsewhere.
  have vacant : middle.root.kindAt (resolve [] (system.steps parent) ++ [name]) ≠ .folder := by
    have apart := writable.apart
    rw [through, placed] at apart
    rw [opened.kinds, if_neg apart, ← placed]
    exact writable.notFolder
  obtain ⟨outcome, after, content, placedThere, filled, mapped⟩ :=
    place_refines into beside leads.named vacant artifact
  refine ⟨outcome, after, ?_, ?_, filled.working.trans opened.working, fun position => ?_⟩
  · exact write_run leads.found made placedThere
  · rw [FileMap.write_run] at mapped ⊢
    rw [placed, ← opened.files_eq passable]
    exact mapped
  · rw [filled.kinds]
    split
    · exact fun isFile => Kind.noConfusion isFile
    · rw [opened.kinds, through]
      split
      · exact fun _ => Or.inr (by assumption)
      · exact Or.inl

/-! ## Runs of artifacts -/

/-- The artifacts have names below the root, and neither the tree nor another artifact is in the way
of one of them. -/
structure Suits (system : FileSystem) (root : Path) (artifacts : List Artifact) : Prop where
  normal : ∀ artifact ∈ artifacts, artifact.path.IsNormal
  noFileAbove : ∀ artifact ∈ artifacts, ∀ position ∈ system.above (root.append artifact.path),
    system.files position = none
  notFolder : ∀ artifact ∈ artifacts,
    system.root.kindAt (system.position (root.append artifact.path)) ≠ .folder
  noneBelow : ∀ first ∈ artifacts, ∀ second ∈ artifacts,
    first.path.components <+: second.path.components →
      first.path.components = second.path.components

/-- No path is refused, and no name is too long, so that only the tree can make writing fail. -/
structure WithinLimits (system : FileSystem) (root : Path) (artifacts : List Artifact) :
    Prop where
  accepted : ∀ artifact ∈ artifacts, (root.append artifact.path).refusal? = none
  short : ∀ artifact ∈ artifacts, ShortSteps (system.steps (root.append artifact.path))

/-- The root does not lead through the place of an artifact, and the paths of artifacts end with a
name. -/
structure Plain (system : FileSystem) (root : Path) (artifacts : List Artifact) : Prop where
  ending : ∀ artifact ∈ artifacts, artifact.path.ending = .plain
  rootApart : ∀ artifact ∈ artifacts,
    system.position (root.append artifact.path) ∉ system.above root

/-- A root without double dots leads through the place of no artifact. -/
theorem rootApart_of_names (names : ∀ step ∈ system.steps root, step ≠ "..")
    (normal : path.IsNormal) : system.position (root.append path) ∉ system.above root := by
  intro passes
  have below : ∀ step ∈ path.steps, step ≠ ".." := fun _ member => normal.isName_of_mem_steps member
  obtain ⟨front, isPrefix, notAll, same⟩ := exists_prefix_of_mem_passed names passes
  rw [FileSystem.position, FileSystem.steps_append system root normal.relative, resolve_append,
    resolve_names names, resolve_names below, List.nil_append, List.nil_append] at same
  -- The front is as long as the whole root at least, so it is the whole root.
  refine notAll (isPrefix.eq_of_length_le ?_)
  rw [← same, List.length_append]
  exact Nat.le_add_right _ _

theorem Writable.after_other {other : Path} (writable : Writable system other)
    (working : after.working = system.working)
    (files : ∀ position, position ≠ system.position path →
      after.files position = system.files position)
    (folders : ∀ position, after.root.kindAt position = .folder →
      system.root.kindAt position = .folder ∨ position ∈ system.above path)
    (notThrough : system.position path ∉ system.above other)
    (notOnTheWay : system.position other ∉ system.above path) : Writable after other where
  short := by
    rw [FileSystem.steps_of_working working]
    exact writable.short
  accepted := writable.accepted
  noFileAbove := by
    intro position passes
    rw [FileSystem.above_of_working working] at passes
    have elsewhere : position ≠ system.position path := by
      rintro rfl
      exact notThrough passes
    rw [files position elsewhere]
    exact writable.noFileAbove position passes
  notFolder := by
    intro isFolder
    rw [FileSystem.position_of_working working] at isFolder
    rcases folders _ isFolder with already | passes
    · exact writable.notFolder already
    · exact notOnTheWay passes
  apart := by
    rw [FileSystem.position_of_working working, FileSystem.above_of_working working]
    exact writable.apart

/-- What a run keeps true of the artifacts that are still to be written. -/
structure Ready (system : FileSystem) (root : Path) (artifacts : List Artifact) : Prop where
  normal : ∀ artifact ∈ artifacts, artifact.path.IsNormal
  ending : ∀ artifact ∈ artifacts, artifact.path.ending = .plain
  writable : ∀ artifact ∈ artifacts, Writable system (root.append artifact.path)
  apart : ∀ first ∈ artifacts, ∀ second ∈ artifacts,
    system.position (root.append first.path) ∉ system.above (root.append second.path)

theorem Suits.apart {first second : Artifact} (suits : Suits system root artifacts)
    (plain : Plain system root artifacts) (firstMember : first ∈ artifacts)
    (secondMember : second ∈ artifacts) :
    system.position (root.append first.path) ∉ system.above (root.append second.path) := by
  intro passes
  have firstNormal := suits.normal first firstMember
  have secondNormal := suits.normal second secondMember
  have firstNames : ∀ step ∈ first.path.steps, step ≠ ".." :=
    fun _ member => firstNormal.isName_of_mem_steps member
  have secondNames : ∀ step ∈ second.path.steps, step ≠ ".." :=
    fun _ member => secondNormal.isName_of_mem_steps member
  rw [FileSystem.above, FileSystem.steps_append system root secondNormal.relative,
    passed_append] at passes
  rcases List.mem_append.mp passes with throughRoot | belowRoot
  · exact plain.rootApart first firstMember throughRoot
  · obtain ⟨front, isPrefix, notAll, same⟩ := exists_prefix_of_mem_passed secondNames belowRoot
    rw [FileSystem.position, FileSystem.steps_append system root firstNormal.relative,
      resolve_append, resolve_names firstNames, List.append_cancel_left_eq] at same
    -- The first path is a proper prefix of the second one.
    have below : first.path.components <+: second.path.components := by
      rw [firstNormal.components_eq, secondNormal.components_eq, same]
      exact isPrefix.map _
    have equal := suits.noneBelow first firstMember second secondMember below
    rw [firstNormal.components_eq, secondNormal.components_eq] at equal
    refine notAll (same ▸ ?_)
    exact (List.map_injective_iff.mpr fun _ _ => Path.Component.name.inj) equal

theorem Suits.ready (suits : Suits system root artifacts)
    (limits : WithinLimits system root artifacts) (plain : Plain system root artifacts) :
    Ready system root artifacts where
  normal := suits.normal
  ending := plain.ending
  writable := fun artifact member =>
    { short := limits.short artifact member
      accepted := limits.accepted artifact member
      noFileAbove := suits.noFileAbove artifact member
      notFolder := suits.notFolder artifact member
      apart := suits.apart plain member member }
  apart := fun _ firstMember _ secondMember => suits.apart plain firstMember secondMember

/-- The first artifact is written or kept as in a map of files, and the others can still be
written. -/
theorem Ready.next {rest : List Artifact} (ready : Ready system root (artifact :: rest)) :
    ∃ outcome after, (write root artifact).run system = (.ok outcome, after) ∧
      (FileMap.write (fun artifact => system.position (root.append artifact.path)) artifact).run
        system.files = (.ok outcome, after.files) ∧
      after.working = system.working ∧ Ready after root rest := by
  have first : artifact ∈ artifact :: rest := List.mem_cons_self
  have later {other : Artifact} (member : other ∈ rest) : other ∈ artifact :: rest :=
    List.mem_cons_of_mem _ member
  obtain ⟨parent, name, leads⟩ :=
    exists_leads system root (ready.normal artifact first) (ready.ending artifact first)
  obtain ⟨outcome, after, written, mapped, working, folders⟩ :=
    write_refines leads (ready.writable artifact first)
  refine ⟨outcome, after, written, mapped, working, ?_⟩
  refine ⟨fun other member => ready.normal other (later member),
    fun other member => ready.ending other (later member), ?_, ?_⟩
  · intro other member
    exact (ready.writable other (later member)).after_other working
      (fun _ elsewhere => FileMap.write_elsewhere mapped elsewhere) folders
      (ready.apart artifact first other (later member))
      (ready.apart other (later member) artifact first)
  · intro left leftMember right rightMember
    rw [FileSystem.position_of_working working, FileSystem.above_of_working working]
    exact ready.apart left (later leftMember) right (later rightMember)

theorem Ready.takes (ready : Ready system root artifacts) :
    ∃ outcomes after, outcomes.map (·.1) = artifacts ∧
      (write root).Takes system outcomes after ∧
      (FileMap.write fun artifact => system.position (root.append artifact.path)).Takes
        system.files outcomes after.files := by
  induction artifacts generalizing system with
  | nil => exact ⟨[], system, rfl, .nothing system, .nothing system.files⟩
  | cons artifact rest ih =>
      obtain ⟨outcome, middle, written, mapped, working, stillReady⟩ := ready.next
      obtain ⟨outcomes, after, rfl, treeTakes, mapTakes⟩ := ih stillReady
      -- Places depend on the working directory alone, which a run never changes.
      have samePlaces : (fun artifact : Artifact => middle.position (root.append artifact.path)) =
          fun artifact => system.position (root.append artifact.path) :=
        funext fun _ => FileSystem.position_of_working working _
      rw [samePlaces] at mapTakes
      exact ⟨(artifact, outcome) :: outcomes, after, rfl, .next written treeTakes,
        .next mapped mapTakes⟩

/-- A run of artifacts into a tree is a run of the same artifacts into the map of its files: it has
the same outcomes, and ends with the same files at all positions, so nothing staged is left. -/
theorem refines_file_map (suits : Suits system root artifacts)
    (limits : WithinLimits system root artifacts) (plain : Plain system root artifacts) :
    ∃ outcomes after, outcomes.map (·.1) = artifacts ∧
      (write root).Takes system outcomes after ∧
      (FileMap.write fun artifact => system.position (root.append artifact.path)).Takes
        system.files outcomes after.files :=
  (suits.ready limits plain).takes

/-- Below the working directory, a run finds an old module, an edited stub and no folder for one of
its stubs. -/
theorem refines_file_map_over_edited_stub :
    let old : FileTree := .file "old".toUTF8
    let rooms : FileTree := .folder [("A", .folder [("Module.ts", old), ("Stub.ts", old)])]
    let system : FileSystem := { root := .folder [("srv", rooms)], working := ["srv"] }
    let root : Path := ⟨"."⟩
    let artifacts : List Artifact :=
      [⟨⟨"A/Module.ts"⟩, "new", .overwrite⟩, ⟨⟨"A/Stub.ts"⟩, "new", .createOnly⟩,
        ⟨⟨"B/C/Stub.ts"⟩, "new", .createOnly⟩, ⟨⟨"Rooms.ts"⟩, "new", .overwrite⟩]
    Suits system root artifacts ∧ WithinLimits system root artifacts ∧
      Plain system root artifacts ∧ ∃ outcomes after, outcomes.map (·.1) = artifacts ∧
        (write root).Takes system outcomes after ∧
        (FileMap.write fun artifact => system.position (root.append artifact.path)).Takes
          system.files outcomes after.files := by
  intro old rooms system root artifacts
  have normal : ∀ artifact ∈ artifacts, artifact.path.IsNormal := by decide +kernel
  have suits : Suits system root artifacts :=
    { normal := normal
      noFileAbove := by decide +kernel
      notFolder := by decide +kernel
      noneBelow := by decide +kernel }
  have limits : WithinLimits system root artifacts :=
    { accepted := by decide +kernel
      short := by
        unfold ShortSteps
        decide +kernel }
  have plain : Plain system root artifacts :=
    { ending := by decide +kernel
      rootApart := fun artifact member =>
        rootApart_of_names (by decide +kernel) (normal artifact member) }
  exact ⟨suits, limits, plain, refines_file_map suits limits plain⟩

/-- A root that goes down and up again makes a folder where an artifact belongs, and a path that
ends with a slash names no file.  Neither is in the way of a map of files. -/
theorem not_refines_through_place_or_slash :
    let system : FileSystem := { root := .folder [], working := [] }
    let plain : Artifact := ⟨⟨"a"⟩, "x", .overwrite⟩
    let slash : Artifact := ⟨⟨"f/"⟩, "x", .overwrite⟩
    (Suits system ⟨"a/.."⟩ [plain] ∧ WithinLimits system ⟨"a/.."⟩ [plain] ∧
      ¬ ∃ outcomes after, outcomes.map (·.1) = [plain] ∧
        (write ⟨"a/.."⟩).Takes system outcomes after) ∧
    Suits system ⟨"out"⟩ [slash] ∧ WithinLimits system ⟨"out"⟩ [slash] ∧
      ¬ ∃ outcomes after, outcomes.map (·.1) = [slash] ∧
        (write ⟨"out"⟩).Takes system outcomes after := by
  intro system plain slash
  have folderMade : ((write ⟨"a/.."⟩ plain).run system).1 =
      .error ⟨⟨"a/../a"⟩, "Is a directory (os error 21)"⟩ := by decide +kernel
  have noName : ((write ⟨"out"⟩ slash).run system).1 =
      .error ⟨⟨"out/f/"⟩, "Is a directory (os error 21)"⟩ := by decide +kernel
  have plainSuits : Suits system ⟨"a/.."⟩ [plain] :=
    { normal := by decide +kernel
      noFileAbove := by decide +kernel
      notFolder := by decide +kernel
      noneBelow := by decide +kernel }
  have slashSuits : Suits system ⟨"out"⟩ [slash] :=
    { normal := by decide +kernel
      noFileAbove := by decide +kernel
      notFolder := by decide +kernel
      noneBelow := by decide +kernel }
  have plainLimits : WithinLimits system ⟨"a/.."⟩ [plain] :=
    { accepted := by decide +kernel
      short := by
        unfold ShortSteps
        decide +kernel }
  have slashLimits : WithinLimits system ⟨"out"⟩ [slash] :=
    { accepted := by decide +kernel
      short := by
        unfold ShortSteps
        decide +kernel }
  exact ⟨⟨plainSuits, plainLimits, Sink.not_takes_of_refused folderMade []⟩, slashSuits,
    slashLimits, Sink.not_takes_of_refused noName []⟩

end TreeSink

end Homeplan
