import Homeplan.Proofs.Artifact.Layout

namespace Homeplan

/-! What a run leaves in a map of files, and that a second run leaves it so.

Taking an artifact changes one entry, and the new entry depends on the former one only.  Artifacts
of distinct places therefore do not get in each other's way.
-/

namespace Artifact

/-- The file that is at the place of an artifact once it was taken. -/
def entryAfter (artifact : Artifact) (former : Option (Path × String)) : Path × String :=
  match artifact.policy, former with
  | .createOnly, some file => file
  | _, _ => ((former.map (·.1)).getD artifact.path, artifact.contents)

def outcomeOn (artifact : Artifact) (former : Option (Path × String)) : WriteOutcome :=
  if artifact.policy = .createOnly && former.isSome then .kept else .written

variable {artifact : Artifact} {former : Option (Path × String)}

theorem entryAfter_overwrite (overwrites : artifact.policy = .overwrite) :
    artifact.entryAfter former = ((former.map (·.1)).getD artifact.path, artifact.contents) := by
  simp [entryAfter, overwrites]

theorem entryAfter_createOnly (createsOnly : artifact.policy = .createOnly) :
    artifact.entryAfter former = former.getD (artifact.path, artifact.contents) := by
  cases former <;> simp [entryAfter, createsOnly]

/-- Taken once more, an artifact leaves what it left. -/
theorem entryAfter_again (artifact : Artifact) (former : Option (Path × String)) :
    artifact.entryAfter (some (artifact.entryAfter former)) = artifact.entryAfter former := by
  cases policy : artifact.policy with
  | overwrite => simp [entryAfter_overwrite policy]
  | createOnly => simp [entryAfter_createOnly policy]

theorem entryAfter_of_kept (kept : artifact.outcomeOn former = .kept) :
    some (artifact.entryAfter former) = former := by
  cases policy : artifact.policy with
  | overwrite => simp [outcomeOn, policy] at kept
  | createOnly =>
      cases former with
      | none => simp [outcomeOn] at kept
      | some file => rw [entryAfter_createOnly policy, Option.getD_some]

theorem entryAfter_of_written (written : artifact.outcomeOn former = .written) :
    artifact.entryAfter former = ((former.map (·.1)).getD artifact.path, artifact.contents) := by
  cases policy : artifact.policy with
  | overwrite => exact entryAfter_overwrite policy
  | createOnly =>
      cases former with
      | none => exact entryAfter_createOnly policy
      | some file => simp [outcomeOn, policy] at written

end Artifact

namespace MemorySink

def Files.take (files : Files) (artifact : Artifact) : Files :=
  files.alter artifact.path.components artifact.entryAfter

def Files.outcomes (files : Files) : List Artifact → List (Artifact × WriteOutcome)
  | [] => []
  | artifact :: rest =>
      (artifact, artifact.outcomeOn (files.get? artifact.path.components)) ::
        (files.take artifact).outcomes rest

variable {files : Files} {artifacts : List Artifact} {place : List Path.Component}

theorem get?_take (files : Files) (artifact : Artifact) (place : List Path.Component) :
    (files.take artifact).get? place =
      if place = artifact.path.components then some (artifact.entryAfter (files.get? place))
      else files.get? place := by
  rw [Files.take, SortedMap.get?_alter]
  split
  · rename_i same
    rw [same]
  · rfl

theorem get?_take_foldl_of_not_mem (elsewhere : place ∉ artifacts.map (·.path.components)) :
    (artifacts.foldl Files.take files).get? place = files.get? place := by
  induction artifacts generalizing files with
  | nil => rfl
  | cons artifact rest ih =>
      obtain ⟨notFirst, notLater⟩ := List.ne_and_not_mem_of_not_mem_cons elsewhere
      rw [List.foldl_cons, ih notLater, get?_take, if_neg notFirst]

theorem place_ne_of_mem {first artifact : Artifact} {rest : List Artifact}
    (apart : first.path.components ∉ rest.map (·.path.components)) (later : artifact ∈ rest) :
    artifact.path.components ≠ first.path.components :=
  fun same => apart (List.mem_map.mpr ⟨artifact, later, same⟩)

theorem get?_take_foldl_of_mem (distinct : (artifacts.map (·.path.components)).Nodup)
    {artifact : Artifact} (member : artifact ∈ artifacts) :
    (artifacts.foldl Files.take files).get? artifact.path.components =
      some (artifact.entryAfter (files.get? artifact.path.components)) := by
  induction artifacts generalizing files with
  | nil => contradiction
  | cons first rest ih =>
      obtain ⟨firstApart, restDistinct⟩ := List.nodup_cons.mp distinct
      rw [List.foldl_cons]
      rcases List.mem_cons.mp member with rfl | later
      · rw [get?_take_foldl_of_not_mem firstApart, get?_take, if_pos rfl]
      · rw [ih restDistinct later, get?_take, if_neg (place_ne_of_mem firstApart later)]

/-- Taken all over again, artifacts of distinct places change nothing. -/
theorem take_foldl_again (distinct : (artifacts.map (·.path.components)).Nodup) :
    artifacts.foldl Files.take (artifacts.foldl Files.take files) =
      artifacts.foldl Files.take files := by
  refine SortedMap.eq_of_get? fun place => ?_
  by_cases taken : place ∈ artifacts.map (·.path.components)
  · obtain ⟨artifact, member, rfl⟩ := List.mem_map.mp taken
    rw [get?_take_foldl_of_mem distinct member, get?_take_foldl_of_mem distinct member,
      artifact.entryAfter_again]
  · exact get?_take_foldl_of_not_mem taken

/-- With distinct places, every outcome can be told from the files that are there at first. -/
theorem outcomes_of_distinct (distinct : (artifacts.map (·.path.components)).Nodup) :
    files.outcomes artifacts = artifacts.map fun artifact =>
      (artifact, artifact.outcomeOn (files.get? artifact.path.components)) := by
  induction artifacts generalizing files with
  | nil => rfl
  | cons first rest ih =>
      obtain ⟨firstApart, restDistinct⟩ := List.nodup_cons.mp distinct
      rw [Files.outcomes, ih restDistinct, List.map_cons]
      refine congrArg _ (List.map_congr_left fun artifact later => ?_)
      rw [get?_take, if_neg (place_ne_of_mem firstApart later)]

/-- Once all artifacts were taken, those that only create files are kept, and the others are written
again. -/
theorem outcomes_again (distinct : (artifacts.map (·.path.components)).Nodup) :
    (artifacts.foldl Files.take files).outcomes artifacts = artifacts.map fun artifact =>
      (artifact, if artifact.policy = .createOnly then .kept else .written) := by
  rw [outcomes_of_distinct distinct]
  refine List.map_congr_left fun artifact member => ?_
  rw [get?_take_foldl_of_mem distinct member, Artifact.outcomeOn]
  simp

/-- The delivery of artifacts whose outcomes follow from their policies. -/
theorem delivery_of_policies (artifacts : List Artifact) :
    Delivery.ofOutcomes (artifacts.map fun artifact =>
        (artifact, if artifact.policy = .createOnly then .kept else .written)) =
      { written := (artifacts.filter (·.policy = .overwrite)).map (·.path)
        kept := (artifacts.filter (·.policy = .createOnly)).map (·.path) } := by
  simp only [Delivery.ofOutcomes, List.filter_map, List.map_map, Delivery.mk.injEq]
  constructor
  · refine congrArg _ (List.filter_congr fun artifact _ => ?_)
    cases policy : artifact.policy <;> simp [policy]
  · refine congrArg _ (List.filter_congr fun artifact _ => ?_)
    cases policy : artifact.policy <;> simp [policy]

/-! ## Deliveries to a sink that does not fail -/

def takeAll (sink : MemorySink) (artifacts : List Artifact) : MemorySink :=
  { sink with
    files := artifacts.foldl Files.take sink.files
    log := sink.log ++ sink.files.outcomes artifacts }

theorem take_of_kept {artifact : Artifact}
    (kept : artifact.outcomeOn (files.get? artifact.path.components) = .kept) :
    files.take artifact = files := by
  refine SortedMap.eq_of_get? fun place => ?_
  rw [get?_take]
  split
  · rename_i same
    rw [same]
    exact Artifact.entryAfter_of_kept kept
  · rfl

theorem take_of_written {artifact : Artifact}
    (written : artifact.outcomeOn (files.get? artifact.path.components) = .written) :
    files.take artifact = files.store artifact.path artifact.contents := by
  refine SortedMap.eq_of_get? fun place => ?_
  rw [get?_take, Files.store, SortedMap.get?_alter]
  split
  · rename_i same
    rw [same, Artifact.entryAfter_of_written written]
  · rfl

theorem write_reliable {sink : MemorySink} (reliable : sink.failing = []) (artifact : Artifact) :
    (write artifact).run sink =
      (.ok (artifact.outcomeOn (sink.files.get? artifact.path.components)),
        sink.takeAll [artifact]) := by
  have takes : sink.takeAll [artifact] =
      { files := sink.files.take artifact
        failing := []
        log := sink.log ++
          [(artifact, artifact.outcomeOn (sink.files.get? artifact.path.components))] } := by
    simp [takeAll, Files.outcomes, reliable]
  rw [write_run, reliable, if_neg (by simp), takes]
  by_cases keeps : (artifact.policy = .createOnly &&
      (sink.files.get? artifact.path.components).isSome) = true
  · have outcome : artifact.outcomeOn (sink.files.get? artifact.path.components) = .kept :=
      if_pos keeps
    rw [SortedMap.contains, if_pos keeps, outcome, take_of_kept outcome]
  · have outcome : artifact.outcomeOn (sink.files.get? artifact.path.components) = .written :=
      if_neg keeps
    rw [SortedMap.contains, if_neg keeps, outcome, take_of_written outcome, store, reliable]

theorem deliver_reliable {sink : MemorySink} (reliable : sink.failing = []) (done : Delivery)
    (artifacts : List Artifact) :
    (deliver write done artifacts).run sink =
      (.ok (done.followedBy (.ofOutcomes (sink.files.outcomes artifacts))),
        sink.takeAll artifacts) := by
  induction artifacts generalizing sink done with
  | nil => simp [deliver_nil, Delivery.followedBy, Delivery.ofOutcomes, Files.outcomes, takeAll]
  | cons artifact rest ih =>
      have taken := write_reliable reliable artifact
      have stillReliable : (sink.takeAll [artifact]).failing = [] := reliable
      rw [deliver_cons_ok write done taken, ih stillReliable, Delivery.record_followedBy]
      simp [takeAll, Files.outcomes]

theorem generate_reliable {options : RenderOptions} {plan : HousePlan} {rooms : List String}
    {artifacts : List Artifact} (planned : plan.artifacts options = .ok (rooms, artifacts))
    {sink : MemorySink} (reliable : sink.failing = []) :
    (generate write options plan).run sink =
      (.ok ⟨rooms, .ofOutcomes (sink.files.outcomes artifacts)⟩, sink.takeAll artifacts) := by
  rw [generate_planned write planned, deliver_reliable reliable]
  rfl

def textAt (sink : MemorySink) (path : Path) : Option String :=
  (sink.files.get? path.components).map (·.2)

/-- A run on a sink that does not fail puts the planned text wherever it overwrites, and wherever it
only creates files it puts the planned text if nothing was there; all other files stay.  Another run
changes nothing: it keeps the stubs and writes the other files once more. -/
theorem rerun_changes_nothing {plan : HousePlan} {options : RenderOptions} {rooms : List String}
    {artifacts : List Artifact} (planned : plan.artifacts options = .ok (rooms, artifacts))
    (plain : options.RegistryIsPlain) {sink : MemorySink} (reliable : sink.failing = []) :
    ∃ house, House.compile plan = .ok house ∧
      let first := (generate write options plan).run sink
      let second := (generate write options plan).run first.2
      (∃ report, first.1 = .ok report) ∧
      (∀ artifact ∈ artifacts, artifact.policy = .overwrite →
        first.2.textAt artifact.path = some artifact.contents) ∧
      (∀ artifact ∈ artifacts, artifact.policy = .createOnly →
        first.2.textAt artifact.path =
          some ((sink.textAt artifact.path).getD artifact.contents)) ∧
      (∀ place, place ∉ artifacts.map (·.path.components) →
        first.2.files.get? place = sink.files.get? place) ∧
      second.2.files = first.2.files ∧
      second.1 = .ok {
        rooms := rooms
        delivery := {
          written := house.rooms.map Room.modulePath ++ [⟨options.registryFile⟩]
          kept := house.rooms.map Room.stubPath } } := by
  obtain ⟨house, compiled, housePlanned⟩ := HousePlan.artifacts_eq_ok planned
  have distinct := House.places_nodup plain compiled housePlanned
  have first := generate_reliable planned reliable
  have stillReliable : (sink.takeAll artifacts).failing = [] := reliable
  have second := generate_reliable planned stillReliable
  have report : Delivery.ofOutcomes ((sink.takeAll artifacts).files.outcomes artifacts) =
      { written := house.rooms.map Room.modulePath ++ [⟨options.registryFile⟩]
        kept := house.rooms.map Room.stubPath } := by
    rw [takeAll, outcomes_again distinct, delivery_of_policies,
      House.paths_of_policy housePlanned, House.layout_overwrite,
      House.paths_of_policy housePlanned, House.layout_createOnly]
  refine ⟨house, compiled, ?_⟩
  simp only [first, second, report]
  refine ⟨⟨_, rfl⟩, fun artifact member overwrites => ?_, fun artifact member createsOnly => ?_,
    fun place elsewhere => get?_take_foldl_of_not_mem elsewhere, take_foldl_again distinct, trivial⟩
  · rw [textAt, takeAll, get?_take_foldl_of_mem distinct member,
      Artifact.entryAfter_overwrite overwrites]
    rfl
  · rw [textAt, takeAll, get?_take_foldl_of_mem distinct member,
      Artifact.entryAfter_createOnly createsOnly, textAt]
    cases sink.files.get? artifact.path.components <;> rfl

/-- A run finds an edited stub, an old registry and a file that it does not plan. -/
theorem rerun_keeps_edited_stub :
    let keller : RoomPlan := { shortName := "Keller", longName := "Keller", floor := -1 }
    let plan : HousePlan := { rooms := [keller] }
    let options : RenderOptions := { registryFile := "Rooms.ts" }
    let stub : Path := (Room.vacant keller).stubPath
    let notes : Path := ⟨"notes.txt"⟩
    let registry : Path := ⟨options.registryFile⟩
    let sink := ofFiles [(stub, "edited"), (registry, "old"), (notes, "mine")] []
    let first := (generate write options plan).run sink
    let second := (generate write options plan).run first.2
    first.2.textAt stub = some "edited" ∧ first.2.textAt notes = some "mine" ∧
      first.2.textAt registry ≠ some "old" ∧ second.2.files = first.2.files ∧
      second.1 = .ok {
        rooms := ["Keller"]
        delivery := { written := [(Room.vacant keller).modulePath, registry], kept := [stub] } } := by
  intro keller plan options stub notes registry sink first second
  have runs : (plan.artifacts options >>= fun planned => House.compile plan >>= fun house =>
      .ok (planned.1, planned.2.map (fun artifact => (artifact.path, artifact.policy)),
        planned.2.all (fun artifact => artifact.contents ≠ "old"),
        house.rooms.map Room.modulePath, house.rooms.map Room.stubPath)) =
      .ok (["Keller"], [((Room.vacant keller).modulePath, .overwrite), (stub, .createOnly),
        (registry, .overwrite)], true, [(Room.vacant keller).modulePath], [stub]) := by
    decide +kernel
  obtain ⟨planned, plannedOk, later⟩ := bind_eq_ok.mp runs
  obtain ⟨house, compiled, found⟩ := bind_eq_ok.mp later
  obtain ⟨names, layout, fresh, modules, stubs⟩ := by
    simpa only [Except.ok.injEq, Prod.mk.injEq] using found
  have plain : options.RegistryIsPlain := by
    rw [RenderOptions.RegistryIsPlain]
    decide +kernel
  have reliable : sink.failing = [] := rfl
  obtain ⟨_, same, _, overwritten, created, untouched, settled, report⟩ :=
    @rerun_changes_nothing plan options planned.1 planned.2 plannedOk plain sink reliable
  obtain rfl := Except.ok.inj (compiled.symm.trans same)
  obtain ⟨own, inPlanned, ownFile⟩ : ∃ artifact ∈ planned.2,
      (artifact.path, artifact.policy) = (stub, .createOnly) :=
    List.mem_map.mp (by simp [layout])
  obtain ⟨table, tablePlanned, tableFile⟩ : ∃ artifact ∈ planned.2,
      (artifact.path, artifact.policy) = (registry, .overwrite) :=
    List.mem_map.mp (by simp [layout])
  obtain ⟨atStub, createsOnly⟩ := Prod.mk.inj ownFile
  obtain ⟨atRegistry, overwrites⟩ := Prod.mk.inj tableFile
  have elsewhere : notes.components ∉ planned.2.map (·.path.components) := by
    have places : planned.2.map (·.path.components) =
        [(Room.vacant keller).modulePath, stub, registry].map Path.components := by
      have paths := congrArg (List.map fun file => file.1.components) layout
      rw [List.map_map] at paths
      exact paths
    rw [places]
    decide +kernel
  refine ⟨?_, ?_, ?_, settled, ?_⟩
  · have former : sink.textAt stub = some "edited" := by decide +kernel
    have kept := created own inPlanned createsOnly
    rw [atStub, former] at kept
    exact kept
  · have former : sink.textAt notes = some "mine" := by decide +kernel
    have kept := untouched notes.components elsewhere
    rw [textAt, kept]
    exact former
  · have replaced := overwritten table tablePlanned overwrites
    rw [atRegistry] at replaced
    rw [replaced]
    have changed := List.all_eq_true.mp fresh table tablePlanned
    simpa using changed
  · rw [report, names, modules, stubs]
    rfl

end MemorySink

end Homeplan
