import Homeplan.Proofs.Artifact.Planning

namespace Homeplan

/-! What a run does to a sink.

A sink is any state with a step that takes one artifact.  `Sink.recorded` also keeps the artifacts
that were handed to it, so that the calls of a run can be read off its final state.
-/

variable {σ : Type}

/-- The sink takes artifacts one after the other, each with an outcome of its own. -/
inductive Sink.Takes (sink : Sink (StateM σ)) : σ → List (Artifact × WriteOutcome) → σ → Prop where
  | nothing (state : σ) : Takes sink state [] state
  | next {before middle after : σ} {artifact : Artifact} {outcome : WriteOutcome}
      {rest : List (Artifact × WriteOutcome)}
      (first : (sink artifact).run before = (.ok outcome, middle))
      (later : Takes sink middle rest after) : Takes sink before ((artifact, outcome) :: rest) after

theorem Sink.not_takes_of_refused {sink : Sink (StateM σ)} {before : σ} {artifact : Artifact}
    {error : SinkError} (refused : ((sink artifact).run before).1 = .error error)
    (rest : List Artifact) :
    ¬ ∃ outcomes after, outcomes.map (·.1) = artifact :: rest ∧
      sink.Takes before outcomes after := by
  rintro ⟨outcomes, after, same, takes⟩
  cases takes with
  | nothing => cases same
  | next first later =>
      obtain ⟨rfl, -⟩ := List.cons.inj same
      rw [first] at refused
      cases refused

/-- The sink, with a list of the artifacts that it was called with. -/
def Sink.recorded (sink : Sink (StateM σ)) : Sink (StateM (σ × List Artifact)) :=
  fun artifact before =>
    let taken := (sink artifact).run before.1
    (taken.1, (taken.2, before.2 ++ [artifact]))

/-- The sink takes the artifacts before one that it refuses, and is called with none after it. -/
def Sink.BreaksOff (sink : Sink (StateM σ)) (before : σ) (artifacts : List Artifact)
    (error : SinkError) (after : σ) (calls : List Artifact) : Prop :=
  ∃ outcomes failing rest middle,
    artifacts = outcomes.map (·.1) ++ failing :: rest ∧
    sink.Takes before outcomes middle ∧
    (sink failing).run middle = (.error error, after) ∧
    calls = outcomes.map (·.1) ++ [failing]

/-- The delivery of some artifacts with their outcomes. -/
def Delivery.ofOutcomes (outcomes : List (Artifact × WriteOutcome)) : Delivery where
  written := (outcomes.filter (·.2 = .written)).map (·.1.path)
  kept := (outcomes.filter (·.2 = .kept)).map (·.1.path)

def Delivery.followedBy (first second : Delivery) : Delivery :=
  ⟨first.written ++ second.written, first.kept ++ second.kept⟩

theorem Delivery.record_followedBy (done : Delivery) (artifact : Artifact) (outcome : WriteOutcome)
    (rest : List (Artifact × WriteOutcome)) :
    (done.record artifact.path outcome).followedBy (.ofOutcomes rest) =
      done.followedBy (.ofOutcomes ((artifact, outcome) :: rest)) := by
  cases outcome <;> simp [record, followedBy, ofOutcomes]

theorem Delivery.length_ofOutcomes (outcomes : List (Artifact × WriteOutcome)) :
    (Delivery.ofOutcomes outcomes).written.length + (Delivery.ofOutcomes outcomes).kept.length =
      outcomes.length := by
  induction outcomes with
  | nil => rfl
  | cons first rest ih =>
      obtain ⟨artifact, outcome⟩ := first
      cases outcome <;> simp [ofOutcomes] at ih ⊢ <;> omega

section Deliver

variable (sink : Sink (StateM σ)) (done : Delivery)

theorem deliver_nil (before : σ) : (deliver sink done []).run before = (.ok done, before) := rfl

theorem deliver_cons_error {artifact : Artifact} {rest : List Artifact} {before after : σ}
    {error : SinkError} (failed : (sink artifact).run before = (.error error, after)) :
    (deliver sink done (artifact :: rest)).run before = (.error error, after) := by
  simp only [deliver, StateT.run_bind, failed]
  rfl

theorem deliver_cons_ok {artifact : Artifact} {rest : List Artifact} {before middle : σ}
    {outcome : WriteOutcome} (taken : (sink artifact).run before = (.ok outcome, middle)) :
    (deliver sink done (artifact :: rest)).run before =
      (deliver sink (done.record artifact.path outcome) rest).run middle := by
  simp only [deliver, StateT.run_bind, taken]
  rfl

theorem recorded_run (artifact : Artifact) (before : σ) (calls : List Artifact) :
    (sink.recorded artifact).run (before, calls) =
      (((sink artifact).run before).1, (((sink artifact).run before).2, calls ++ [artifact])) := rfl

/-- Recording changes neither the result of a delivery nor the state it ends in. -/
theorem deliver_recorded_forget (artifacts : List Artifact) (before : σ) (calls : List Artifact) :
    (deliver sink done artifacts).run before =
      (((deliver sink.recorded done artifacts).run (before, calls)).1,
        ((deliver sink.recorded done artifacts).run (before, calls)).2.1) := by
  induction artifacts generalizing done before calls with
  | nil => rfl
  | cons artifact rest ih =>
      have called := recorded_run sink artifact before calls
      rcases taken : (sink artifact).run before with ⟨result, middle⟩
      rw [taken] at called
      cases result with
      | error error =>
          rw [deliver_cons_error sink done taken, deliver_cons_error sink.recorded done called]
      | ok outcome =>
          rw [deliver_cons_ok sink done taken, deliver_cons_ok sink.recorded done called]
          exact ih _ _ _

/-- A delivery either breaks off at the first artifact that the sink refuses, or the sink takes all
artifacts in order. -/
theorem deliver_recorded_ends (artifacts : List Artifact) (before : σ) (calls : List Artifact) :
    (∃ error after made, sink.BreaksOff before artifacts error after made ∧
      (deliver sink.recorded done artifacts).run (before, calls) =
        (.error error, (after, calls ++ made))) ∨
    (∃ outcomes after, sink.Takes before outcomes after ∧ outcomes.map (·.1) = artifacts ∧
      (deliver sink.recorded done artifacts).run (before, calls) =
        (.ok (done.followedBy (.ofOutcomes outcomes)), (after, calls ++ artifacts))) := by
  induction artifacts generalizing done before calls with
  | nil =>
      refine Or.inr ⟨[], before, .nothing before, rfl, ?_⟩
      simp [deliver_nil, Delivery.followedBy, Delivery.ofOutcomes]
  | cons artifact rest ih =>
      have called := recorded_run sink artifact before calls
      rcases taken : (sink artifact).run before with ⟨result, middle⟩
      rw [taken] at called
      cases result with
      | error error =>
          exact Or.inl ⟨error, middle, [artifact],
            ⟨[], artifact, rest, before, rfl, .nothing before, taken, rfl⟩,
            deliver_cons_error sink.recorded done called⟩
      | ok outcome =>
          rw [deliver_cons_ok sink.recorded done called]
          rcases ih (done.record artifact.path outcome) middle (calls ++ [artifact]) with
            broken | complete
          · obtain ⟨error, after, made, breaksOff, run⟩ := broken
            obtain ⟨outcomes, failing, later, last, split, earlier, failed, rfl⟩ := breaksOff
            refine Or.inl ⟨error, after, artifact :: (outcomes.map (·.1) ++ [failing]), ?_, ?_⟩
            · exact ⟨(artifact, outcome) :: outcomes, failing, later, last,
                congrArg (artifact :: ·) split, .next taken earlier, failed, rfl⟩
            · rw [run, List.append_assoc]
              rfl
          · obtain ⟨outcomes, after, others, rfl, run⟩ := complete
            refine Or.inr ⟨(artifact, outcome) :: outcomes, after, .next taken others, rfl, ?_⟩
            rw [run, Delivery.record_followedBy, List.append_assoc]
            rfl

/-- The same of a delivery that is not recorded. -/
theorem deliver_ends (artifacts : List Artifact) (before : σ) :
    (∃ error after calls, sink.BreaksOff before artifacts error after calls ∧
      (deliver sink done artifacts).run before = (.error error, after)) ∨
    (∃ outcomes after, sink.Takes before outcomes after ∧ outcomes.map (·.1) = artifacts ∧
      (deliver sink done artifacts).run before =
        (.ok (done.followedBy (.ofOutcomes outcomes)), after)) := by
  have forget := deliver_recorded_forget sink done artifacts before []
  rcases deliver_recorded_ends sink done artifacts before [] with broken | complete
  · obtain ⟨error, after, calls, breaksOff, run⟩ := broken
    rw [run] at forget
    exact Or.inl ⟨error, after, calls, breaksOff, forget⟩
  · obtain ⟨outcomes, after, takes, same, run⟩ := complete
    rw [run] at forget
    exact Or.inr ⟨outcomes, after, takes, same, forget⟩

theorem deliver_of_takes {outcomes : List (Artifact × WriteOutcome)} {before after : σ}
    (takes : sink.Takes before outcomes after) :
    (deliver sink done (outcomes.map (·.1))).run before =
      (.ok (done.followedBy (.ofOutcomes outcomes)), after) := by
  induction takes generalizing done with
  | nothing state => simp [deliver_nil, Delivery.followedBy, Delivery.ofOutcomes]
  | next first later ih =>
      rw [List.map_cons, deliver_cons_ok sink done first, ih, Delivery.record_followedBy]

/-- What every call keeps true, a delivery keeps true, wherever it ends. -/
theorem deliver_invariant (holds : σ → Prop) {artifacts : List Artifact}
    (kept : ∀ artifact ∈ artifacts, ∀ state, holds state → holds ((sink artifact).run state).2)
    {before : σ} (initially : holds before) :
    holds ((deliver sink done artifacts).run before).2 := by
  induction artifacts generalizing done before with
  | nil => exact initially
  | cons artifact rest ih =>
      have afterFirst := kept artifact (List.mem_cons_self ..) before initially
      rcases taken : (sink artifact).run before with ⟨result, middle⟩
      rw [taken] at afterFirst
      cases result with
      | error error =>
          rw [deliver_cons_error sink done taken]
          exact afterFirst
      | ok outcome =>
          rw [deliver_cons_ok sink done taken]
          exact ih _ (fun other member => kept other (List.mem_cons_of_mem _ member)) afterFirst

end Deliver

section Generate

variable (sink : Sink (StateM σ)) {options : RenderOptions} {plan : HousePlan}

theorem generate_invalid {defect : Defect} (invalid : plan.artifacts options = .error defect)
    (before : σ) :
    (generate sink options plan).run before = (.error (.invalid defect), before) := by
  simp only [generate, invalid]
  rfl

theorem generate_planned {rooms : List String} {artifacts : List Artifact}
    (planned : plan.artifacts options = .ok (rooms, artifacts)) (before : σ) :
    (generate sink options plan).run before =
      ((((deliver sink .empty artifacts).run before).1.mapError .sink).map (⟨rooms, ·⟩),
        ((deliver sink .empty artifacts).run before).2) := by
  simp only [generate, planned, StateT.run_bind]
  rcases (deliver sink .empty artifacts).run before with ⟨result, after⟩
  cases result <;> rfl

theorem generate_invariant (holds : σ → Prop)
    (kept : ∀ rooms artifacts, plan.artifacts options = .ok (rooms, artifacts) →
      ∀ artifact ∈ artifacts, ∀ state, holds state → holds ((sink artifact).run state).2)
    {before : σ} (initially : holds before) :
    holds ((generate sink options plan).run before).2 := by
  cases planned : plan.artifacts options with
  | error defect =>
      rw [generate_invalid sink planned]
      exact initially
  | ok complete =>
      obtain ⟨rooms, artifacts⟩ := complete
      rw [generate_planned sink planned]
      exact deliver_invariant sink .empty holds (kept rooms artifacts planned) initially

/-- Recording changes neither the result of a run nor the state it ends in. -/
theorem generate_recorded_forget (options : RenderOptions) (plan : HousePlan) (before : σ)
    (calls : List Artifact) :
    (generate sink options plan).run before =
      (((generate sink.recorded options plan).run (before, calls)).1,
        ((generate sink.recorded options plan).run (before, calls)).2.1) := by
  cases planned : plan.artifacts options with
  | error defect => rw [generate_invalid sink planned, generate_invalid sink.recorded planned]
  | ok complete =>
      obtain ⟨rooms, artifacts⟩ := complete
      rw [generate_planned sink planned, generate_planned sink.recorded planned,
        deliver_recorded_forget sink .empty artifacts before calls]

theorem generate_recorded_ends {rooms : List String} {artifacts : List Artifact}
    (planned : plan.artifacts options = .ok (rooms, artifacts)) (before : σ) :
    (∃ error after calls, sink.BreaksOff before artifacts error after calls ∧
      (generate sink.recorded options plan).run (before, []) =
        (.error (.sink error), (after, calls))) ∨
    (∃ outcomes after, sink.Takes before outcomes after ∧ outcomes.map (·.1) = artifacts ∧
      (generate sink.recorded options plan).run (before, []) =
        (.ok ⟨rooms, .ofOutcomes outcomes⟩, (after, artifacts))) := by
  rw [generate_planned sink.recorded planned]
  rcases deliver_recorded_ends sink .empty artifacts before [] with broken | complete
  · obtain ⟨error, after, calls, breaksOff, ends⟩ := broken
    refine Or.inl ⟨error, after, calls, breaksOff, ?_⟩
    rw [ends]
    rfl
  · obtain ⟨outcomes, after, takes, same, ends⟩ := complete
    refine Or.inr ⟨outcomes, after, takes, same, ?_⟩
    rw [ends]
    rfl

/-- What one run does to a sink.  If the plan does not compile, or the artifacts of its house cannot
be planned, then the run ends with that defect before the sink is called.  Otherwise the sink is
called with the artifacts in order, up to the first one that it refuses; the run then ends with that
error, or else with the report of the whole delivery. -/
theorem generate_all_or_prefix (options : RenderOptions) (plan : HousePlan) (before : σ) :
    let run := (generate sink.recorded options plan).run (before, [])
    (generate sink options plan).run before = (run.1, run.2.1) ∧
    (∀ defect, House.compile plan = .error defect →
      run = (.error (.invalid defect), (before, []))) ∧
    (∀ house defect, House.compile plan = .ok house → house.artifacts options = .error defect →
      run = (.error (.invalid defect), (before, []))) ∧
    ∀ house artifacts, House.compile plan = .ok house → house.artifacts options = .ok artifacts →
      (∃ error after calls, sink.BreaksOff before artifacts error after calls ∧
        run = (.error (.sink error), (after, calls))) ∨
      (∃ outcomes after, sink.Takes before outcomes after ∧ outcomes.map (·.1) = artifacts ∧
        run = (.ok ⟨plan.rooms.map (·.shortName), .ofOutcomes outcomes⟩, (after, artifacts)) ∧
        (Delivery.ofOutcomes outcomes).written.length +
          (Delivery.ofOutcomes outcomes).kept.length = 2 * plan.rooms.length + 1) := by
  intro run
  refine ⟨generate_recorded_forget sink options plan before [], ?_, ?_, ?_⟩
  · intro defect invalid
    exact generate_invalid sink.recorded (HousePlan.artifacts_of_invalid invalid) _
  · intro house defect compiled invalid
    have stopped : plan.artifacts options = .error defect := by
      rw [HousePlan.artifacts_of_compile compiled, invalid]
      rfl
    exact generate_invalid sink.recorded stopped _
  · intro house artifacts compiled planned
    have complete : plan.artifacts options = .ok (plan.rooms.map (·.shortName), artifacts) := by
      rw [HousePlan.artifacts_of_compile compiled, planned]
      rfl
    have rooms : plan.rooms.length = house.rooms.length :=
      (House.realizes_of_compile compiled).rooms.length_eq
    rcases generate_recorded_ends sink complete before with broken | whole
    · exact Or.inl broken
    · obtain ⟨outcomes, after, takes, same, ends⟩ := whole
      refine Or.inr ⟨outcomes, after, takes, same, ends, ?_⟩
      rw [Delivery.length_ofOutcomes, rooms, ← House.length_artifacts planned, ← same,
        List.length_map]

end Generate

end Homeplan
