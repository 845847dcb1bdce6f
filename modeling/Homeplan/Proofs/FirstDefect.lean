import Mathlib.Data.List.Forall2

namespace Homeplan

/-! Computations that stop at the first defect.

A computation succeeds with a result only if every step of it does, so a walk over a list succeeds
with the list of the results of its members.
-/

theorem bind_eq_ok {step : Except ε α} {next : α → Except ε β} {result : β} :
    (step >>= next) = .ok result ↔ ∃ value, step = .ok value ∧ next value = .ok result := by
  cases step <;> simp [bind, Except.bind]

theorem mapError_eq_ok_iff {step : Except ε α} {change : ε → ε'} {result : α} :
    step.mapError change = .ok result ↔ step = .ok result := by
  cases step <;> simp [Except.mapError]

theorem map_eq_ok_iff {step : Except ε α} {change : α → β} {result : β} :
    step.map change = .ok result ↔ ∃ value, step = .ok value ∧ change value = result := by
  cases step <;> simp [Except.map]

theorem mapM_eq_ok_iff {step : α → Except ε β} {items : List α} {results : List β} :
    items.mapM step = .ok results ↔
      List.Forall₂ (fun item result => step item = .ok result) items results := by
  induction items generalizing results with
  | nil => cases results <;> simp [pure, Except.pure]
  | cons item rest ih =>
      simp only [List.mapM_cons, bind_eq_ok, ih, List.forall₂_cons_left_iff]
      constructor
      · intro succeeded
        obtain ⟨first, done, others, restDone, same⟩ := succeeded
        cases same
        exact ⟨first, others, done, restDone, rfl⟩
      · intro matched
        obtain ⟨first, others, done, restDone, same⟩ := matched
        subst same
        exact ⟨first, done, others, restDone, rfl⟩

/-- A walk succeeds if and only if every step of it does. -/
theorem exists_forall₂_iff {related : α → β → Prop} {items : List α} :
    (∃ results, List.Forall₂ related items results) ↔ ∀ item ∈ items, ∃ result, related item result := by
  induction items with
  | nil => simp
  | cons item rest ih =>
      simp only [List.forall₂_cons_left_iff, List.forall_mem_cons, ← ih]
      constructor
      · intro matched
        obtain ⟨_, first, others, done, restDone, _⟩ := matched
        exact ⟨⟨first, done⟩, others, restDone⟩
      · intro succeeded
        obtain ⟨⟨first, done⟩, others, restDone⟩ := succeeded
        exact ⟨_, first, others, done, restDone, rfl⟩

theorem exists_related_of_mem {related : α → β → Prop} {items : List α} {results : List β}
    (matched : List.Forall₂ related items results) {result : β} (member : result ∈ results) :
    ∃ item ∈ items, related item result := by
  induction matched with
  | nil => contradiction
  | @cons item _ rest _ first _ ih =>
      rcases List.mem_cons.mp member with same | later
      · exact ⟨item, List.mem_cons_self .., same ▸ first⟩
      · obtain ⟨other, inRest, found⟩ := ih later
        exact ⟨other, List.mem_cons_of_mem _ inRest, found⟩

theorem exists_related_of_getElem? {related : α → β → Prop} {items : List α} {results : List β}
    (matched : List.Forall₂ related items results) {position : Nat} {item : α}
    (located : items[position]? = some item) :
    ∃ result, results[position]? = some result ∧ related item result := by
  induction matched generalizing position with
  | nil => simp at located
  | cons first _ ih =>
      cases position with
      | zero =>
          cases located
          exact ⟨_, rfl, first⟩
      | succ position => exact ih located

/-- Related lists that share the one in the middle are related from end to end. -/
theorem forall₂_trans {first : α → β → Prop} {second : β → γ → Prop} {related : α → γ → Prop}
    (trans : ∀ left middle right, first left middle → second middle right → related left right)
    {items : List α} {between : List β} {results : List γ} (begun : List.Forall₂ first items between)
    (ended : List.Forall₂ second between results) : List.Forall₂ related items results := by
  induction begun generalizing results with
  | nil =>
      cases ended
      exact .nil
  | cons head _ ih =>
      cases ended with
      | cons next rest => exact .cons (trans _ _ _ head next) (ih rest)

/-- Lists of related members are pairwise distinct in the same way. -/
theorem pairwise_iff_of_forall₂ {related : α → β → Prop} {apart : α → α → Prop}
    {apart' : β → β → Prop} {items : List α} {results : List β}
    (matched : List.Forall₂ related items results)
    (agree : ∀ {left right left' right'}, related left left' → related right right' →
      (apart left right ↔ apart' left' right')) :
    items.Pairwise apart ↔ results.Pairwise apart' := by
  induction matched with
  | nil => simp
  | @cons item result rest others first restMatched ih =>
      have heads : (∀ other ∈ rest, apart item other) ↔ ∀ other ∈ others, apart' result other := by
        clear ih
        induction restMatched with
        | nil => simp
        | cons next _ laterIH => simp [laterIH, agree first next]
      rw [List.pairwise_cons, List.pairwise_cons, ih, heads]

/-! ## Where a computation stops -/

theorem bind_eq_error {step : Except ε α} {next : α → Except ε β} {defect : ε} :
    (step >>= next) = .error defect ↔
      step = .error defect ∨ ∃ value, step = .ok value ∧ next value = .error defect := by
  cases step <;> simp [bind, Except.bind]

theorem map_eq_error_iff {step : Except ε α} {change : α → β} {defect : ε} :
    step.map change = .error defect ↔ step = .error defect := by
  cases step <;> simp [Except.map]

/-- A walk that fails stops at an item, after every item before it was taken. -/
theorem mapM_stopped {step : α → Except ε β} {items : List α} {defect : ε}
    (failed : items.mapM step = .error defect) :
    ∃ before item after, items = before ++ item :: after ∧
      (∀ other ∈ before, ∃ result, step other = .ok result) ∧ step item = .error defect := by
  induction items with
  | nil => cases failed
  | cons item rest ih =>
      rw [List.mapM_cons, bind_eq_error] at failed
      rcases failed with first | later
      · exact ⟨[], item, rest, rfl, by simp, first⟩
      · obtain ⟨result, taken, restFailed⟩ := later
        rcases bind_eq_error.mp restFailed with inRest | never
        · obtain ⟨before, stopped, after, rfl, passed, found⟩ := ih inRest
          exact ⟨item :: before, stopped, after, rfl,
            List.forall_mem_cons.mpr ⟨⟨result, taken⟩, passed⟩, found⟩
        · obtain ⟨_, _, impossible⟩ := never
          cases impossible

/-- Two computations end alike: at the same defect, or with related results. -/
inductive EndsAlike {ε : Type u} {α : Type v} {β : Type w} (related : α → β → Prop) :
    Except ε α → Except ε β → Prop where
  | defect (found : ε) : EndsAlike related (.error found) (.error found)
  | result {left : α} {right : β} (holds : related left right) :
      EndsAlike related (.ok left) (.ok right)

theorem EndsAlike.bind {related : α → β → Prop} {related' : γ → δ → Prop} {first : Except ε α}
    {second : Except ε β} {next : α → Except ε γ} {next' : β → Except ε δ}
    (alike : EndsAlike related first second)
    (later : ∀ left right, related left right → EndsAlike related' (next left) (next' right)) :
    EndsAlike related' (first >>= next) (second >>= next') := by
  cases alike with
  | defect found => exact .defect found
  | result holds => exact later _ _ holds

theorem EndsAlike.refl {related : α → α → Prop} (reflexive : ∀ result, related result result)
    (computation : Except ε α) : EndsAlike related computation computation := by
  cases computation with
  | error found => exact .defect found
  | ok result => exact .result (reflexive result)

/-- What follows one and the same computation. -/
theorem EndsAlike.after {related : β → γ → Prop} (step : Except ε α) {next : α → Except ε β}
    {next' : α → Except ε γ} (later : ∀ value, EndsAlike related (next value) (next' value)) :
    EndsAlike related (step >>= next) (step >>= next') := by
  cases step with
  | error found => exact .defect found
  | ok value => exact later value

theorem EndsAlike.trans {related : α → β → Prop} {related' : β → γ → Prop} {across : α → γ → Prop}
    {first : Except ε α} {second : Except ε β} {third : Except ε γ}
    (begun : EndsAlike related first second) (ended : EndsAlike related' second third)
    (compose : ∀ left middle right, related left middle → related' middle right →
      across left right) : EndsAlike across first third := by
  cases begun with
  | defect found =>
      cases ended
      exact .defect found
  | result holds =>
      cases ended with
      | result later => exact .result (compose _ _ _ holds later)

theorem EndsAlike.imp {related related' : α → β → Prop} {first : Except ε α} {second : Except ε β}
    (alike : EndsAlike related first second)
    (weaken : ∀ left right, first = .ok left → second = .ok right → related left right →
      related' left right) : EndsAlike related' first second := by
  cases alike with
  | defect found => exact .defect found
  | result holds => exact .result (weaken _ _ rfl rfl holds)

theorem EndsAlike.eq {first second : Except ε α} (alike : EndsAlike Eq first second) :
    first = second := by
  cases alike with
  | defect found => rfl
  | result same => rw [same]

/-- Walks over the same items end alike if their steps do. -/
theorem EndsAlike.mapM {related : β → γ → Prop} {step : α → Except ε β} {step' : α → Except ε γ}
    {items : List α} (each : ∀ item ∈ items, EndsAlike related (step item) (step' item)) :
    EndsAlike (List.Forall₂ related) (items.mapM step) (items.mapM step') := by
  induction items with
  | nil => exact .result .nil
  | cons item rest ih =>
      rw [List.mapM_cons, List.mapM_cons]
      apply (each item (List.mem_cons_self ..)).bind
      intro first second heads
      apply (ih fun other member => each other (List.mem_cons_of_mem _ member)).bind
      intro firstRest secondRest tails
      exact .result (.cons heads tails)

end Homeplan
