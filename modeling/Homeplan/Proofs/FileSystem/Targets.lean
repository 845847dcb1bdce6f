import Homeplan.Proofs.FileSystem.Folders
import Homeplan.Proofs.FirstDefect
import Homeplan.Proofs.Path.Steps

namespace Homeplan.FileSystem

open FileTree

/-! What is known of a path that led somewhere.

Nothing is assumed of the tree or of the path: files may be in the way, and a path may lead through
double dots or end at a folder.  A walk that did not fail has passed folders only, and no walk fails
because something stands in its way already.
-/

variable {before : FileSystem} {steps : List String} {path : Path}

/-! ## Where walks end -/

/-- A walk that ends somewhere has passed folders only, and it ends where something stands. -/
theorem follow_ok {top tree : FileTree} {trail : List (String × FileTree)} {position : Position}
    (way : Trail top trail tree) (arrived : follow trail tree steps = .ok position) :
    position = resolve (positionOf trail) steps ∧ top.kindAt position ≠ .nothing ∧
      ∀ above ∈ passed (positionOf trail) steps, top.kindAt above = .folder := by
  induction steps generalizing trail tree with
  | nil =>
      have here : position = positionOf trail := by
        cases tree <;> exact (Except.ok.inj arrived).symm
      refine ⟨here, ?_, List.forall_mem_nil _⟩
      rw [here, way.kindAt]
      exact tree.kind_ne_nothing
  | cons step rest ih =>
      cases tree with
      | file content => simp [follow] at arrived
      | folder entries =>
          have short : step.utf8ByteSize ≤ Path.nameSizeLimit := by
            by_cases up : step = ".."
            · rw [up]
              decide
            · refine Nat.not_lt.mp fun long => ?_
              simp [follow, up, long] at arrived
          rcases follow_step way way.kindAt short with
            ⟨further, entry, onward, comesTo, goesOn⟩ | ⟨_, stuck⟩
          · rw [goesOn] at arrived
            obtain ⟨ends, there, folders⟩ := ih onward arrived
            rw [comesTo] at ends folders
            exact ⟨ends, there, List.forall_mem_cons.mpr ⟨way.kindAt, folders⟩⟩
          · rw [stuck] at arrived
            contradiction

theorem follow_ne_alreadyExists (trail : List (String × FileTree)) (tree : FileTree)
    (steps : List String) : follow trail tree steps ≠ .error .alreadyExists := by
  fun_induction follow trail tree steps <;> simp_all

section Walks

variable {position : Position}

theorem walk_ok (walked : before.walk steps = .ok position) :
    position = resolve [] steps ∧ before.root.kindAt position ≠ .nothing ∧
      ∀ above ∈ passed [] steps, before.root.kindAt above = .folder :=
  follow_ok .start walked

theorem walkToFolder_ok (walked : before.walkToFolder steps = .ok position) :
    position = resolve [] steps ∧ before.root.kindAt position = .folder := by
  obtain ⟨found, arrived, ended⟩ := bind_eq_ok.mp walked
  split at ended
  · rename_i isFolder
    obtain rfl := Except.ok.inj ended
    refine ⟨(walk_ok arrived).1, ?_⟩
    rw [isFolderAt] at isFolder
    refine find?_eq_some_folder_iff.mpr ?_
    split at isFolder
    · exact ⟨_, by assumption⟩
    · contradiction
  · contradiction

theorem walkToFolder_ne_alreadyExists (system : FileSystem) (steps : List String) :
    system.walkToFolder steps ≠ .error .alreadyExists := by
  intro failed
  rcases bind_eq_error.mp failed with walked | ⟨found, _, ended⟩
  · exact follow_ne_alreadyExists _ _ _ walked
  · split at ended <;> simp [pure, Except.pure] at ended

end Walks

/-! ## Where paths lead -/

/-- What steps lead to, for an operation that may create it: a folder that is there (or the top), or
a name in a folder that is there. -/
inductive LeadsTo (system : FileSystem) (steps : List String) : Target → Prop
  | standing (there : resolve [] steps = [] ∨ system.root.kindAt (resolve [] steps) = .folder) :
      LeadsTo system steps (.standing (resolve [] steps))
  | entry {front : List String} {name : String} (split : steps = front ++ [name])
      (isName : name ≠ "..") (inside : system.root.kindAt (resolve [] front) = .folder) :
      LeadsTo system steps (.entry (resolve [] front) name)

theorem target_leadsTo {place : Target} (found : before.target steps = .ok place) :
    before.LeadsTo steps place := by
  rcases List.eq_nil_or_concat' steps with rfl | ⟨front, last, rfl⟩
  · obtain rfl := Except.ok.inj found
    exact .standing (Or.inl rfl)
  · by_cases up : last = ".."
    · subst up
      rw [target_above] at found
      obtain ⟨position, walked, rfl⟩ := map_eq_ok_iff.mp found
      obtain ⟨rfl, _, folders⟩ := walk_ok walked
      have inside : before.root.kindAt (resolve [] front) = .folder := by
        refine folders _ ?_
        rw [passed_concat]
        exact resolve_mem_reached front
      refine .standing (Or.inr ?_)
      rw [resolve_append]
      exact kindAt_dropLast inside
    · rw [target_name before front up] at found
      obtain ⟨position, walked, rfl⟩ := map_eq_ok_iff.mp found
      obtain ⟨rfl, isFolder⟩ := walkToFolder_ok walked
      exact .entry rfl up isFolder

theorem target_ne_alreadyExists (system : FileSystem) (steps : List String) :
    system.target steps ≠ .error .alreadyExists := by
  rcases List.eq_nil_or_concat' steps with rfl | ⟨front, last, rfl⟩
  · intro failed
    simp [target] at failed
  · intro failed
    by_cases up : last = ".."
    · subst up
      rw [target_above] at failed
      exact follow_ne_alreadyExists _ _ _ (map_eq_error_iff.mp failed)
    · rw [target_name system front up] at failed
      exact walkToFolder_ne_alreadyExists _ _ (map_eq_error_iff.mp failed)

/-- A path is refused, leads to a folder that has to be there, or leads where its steps do. -/
theorem locate_cases (system : FileSystem) (path : Path) :
    (∃ fault, fault ≠ .alreadyExists ∧ system.locate path = .error fault) ∨
      system.locate path =
        (system.walkToFolder (system.steps path)).map
          (fun position => (.standing position, false)) ∨
      path.ending ≠ .nothing ∧ path.ending ≠ .dot ∧
        ∃ slash, system.locate path = (system.target (system.steps path)).map (·, slash) := by
  rw [locate]
  cases refused : path.refusal? with
  | some fault =>
      refine Or.inl ⟨fault, ?_, rfl⟩
      rintro rfl
      rw [Path.refusal?] at refused
      split at refused
      · contradiction
      · split at refused <;> contradiction
  | none =>
      cases path.ending with
      | nothing => exact Or.inl ⟨.notFound, FileFault.noConfusion, rfl⟩
      | dot => exact Or.inr (Or.inl rfl)
      | slash =>
          refine Or.inr (Or.inr ⟨?_, ?_, true, rfl⟩) <;> exact Path.Ending.noConfusion
      | plain =>
          refine Or.inr (Or.inr ⟨?_, ?_, false, rfl⟩) <;> exact Path.Ending.noConfusion

theorem locate_ne_alreadyExists (system : FileSystem) (path : Path) :
    system.locate path ≠ .error .alreadyExists := by
  intro failed
  rcases system.locate_cases path with
    ⟨fault, other, refused⟩ | toFolder | ⟨_, _, slash, toTarget⟩
  · exact other (Except.error.inj (refused.symm.trans failed))
  · rw [toFolder] at failed
    exact walkToFolder_ne_alreadyExists _ _ (map_eq_error_iff.mp failed)
  · rw [toTarget] at failed
    exact target_ne_alreadyExists _ _ (map_eq_error_iff.mp failed)

theorem fileName?_of_split {front : List String} {name : String}
    (notEmpty : path.ending ≠ .nothing) (notDot : path.ending ≠ .dot)
    (split : before.steps path = front ++ [name]) (isName : name ≠ "..") :
    path.fileName? = some name := by
  rw [FileSystem.steps] at split
  split at split
  · exact Path.fileName?_of_steps split isName
  · rename_i relative
    rcases List.eq_nil_or_concat' path.steps with none | ⟨within, last, steps⟩
    · exact absurd none (Path.steps_ne_nil (Bool.eq_false_iff.mpr relative) notEmpty notDot)
    · rw [steps, ← List.append_assoc] at split
      obtain ⟨_, same⟩ := List.append_inj' split rfl
      rw [List.singleton_inj.mp same] at steps
      exact Path.fileName?_of_steps steps isName

/-- A place for a file is named as the file name of the path says. -/
theorem locate_ok {place : Target} {slash : Bool}
    (located : before.locate path = .ok (place, slash)) :
    before.LeadsTo (before.steps path) place ∧
      ∀ inside name, place = .entry inside name → path.fileName? = some name := by
  rcases before.locate_cases path with
    ⟨fault, _, refused⟩ | toFolder | ⟨notEmpty, notDot, _, toTarget⟩
  · rw [refused] at located
    contradiction
  · rw [toFolder] at located
    obtain ⟨position, walked, same⟩ := map_eq_ok_iff.mp located
    obtain ⟨rfl, rfl⟩ := Prod.mk.inj same
    obtain ⟨rfl, isFolder⟩ := walkToFolder_ok walked
    exact ⟨.standing (Or.inr isFolder), fun _ _ same => Target.noConfusion same⟩
  · rw [toTarget] at located
    obtain ⟨aim, aimed, same⟩ := map_eq_ok_iff.mp located
    obtain ⟨rfl, rfl⟩ := Prod.mk.inj same
    have leads := target_leadsTo aimed
    refine ⟨leads, fun inside name isEntry => ?_⟩
    subst isEntry
    cases leads with
    | entry split isName _ => exact fileName?_of_split notEmpty notDot split isName

theorem LeadsTo.inside_append {inside : Position} {name : String}
    (leads : before.LeadsTo steps (.entry inside name)) : inside ++ [name] = resolve [] steps := by
  cases leads with
  | entry split isName _ => rw [split, resolve_append, ← next_name isName]; rfl

theorem LeadsTo.kindAt_inside {inside : Position} {name : String}
    (leads : before.LeadsTo steps (.entry inside name)) :
    before.root.kindAt inside = .folder := by
  cases leads with
  | entry _ _ isFolder => exact isFolder

theorem LeadsTo.standing_ne_nothing {position : Position}
    (leads : before.LeadsTo steps (.standing position)) :
    before.root.kindAt (resolve [] steps) ≠ .nothing := by
  cases leads with
  | standing there =>
      rcases there with top | isFolder
      · rw [top, kindAt_top]
        exact kind_ne_nothing _
      · rw [isFolder]
        exact Kind.noConfusion

theorem entry?_ok {inside : Position} {name : String} {found : Option FileTree}
    (asked : before.entry? inside name = .ok found) :
    before.root.find? (inside ++ [name]) = found := by
  unfold FileSystem.entry? at asked
  split at asked
  · contradiction
  · exact Except.ok.inj asked

theorem entry?_ne_alreadyExists (system : FileSystem) (inside : Position) (name : String) :
    system.entry? inside name ≠ .error .alreadyExists := by
  unfold FileSystem.entry?
  split <;> simp

end Homeplan.FileSystem
