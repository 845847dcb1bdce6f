import Homeplan.Path

namespace Homeplan.Path

/-! The components of a path that is put together from names. -/

theorem split_of_slashFree {part : List Char} (slashFree : '/' ∉ part) : split part = [part] := by
  induction part with
  | nil => rfl
  | cons first rest ih =>
      have notFirst : first ≠ '/' := fun same => slashFree (same ▸ List.mem_cons_self ..)
      have notRest : '/' ∉ rest := fun member => slashFree (List.mem_cons_of_mem _ member)
      simp only [split, if_neg notFirst, ih notRest]

theorem split_append_slash {part : List Char} (slashFree : '/' ∉ part) (rest : List Char) :
    split (part ++ '/' :: rest) = part :: split rest := by
  induction part with
  | nil => rfl
  | cons first later ih =>
      have notFirst : first ≠ '/' := fun same => slashFree (same ▸ List.mem_cons_self ..)
      have notLater : '/' ∉ later := fun member => slashFree (List.mem_cons_of_mem _ member)
      simp only [List.cons_append, split, if_neg notFirst, ih notLater]

/-- A text that names one file or folder. -/
structure IsName (name : String) : Prop where
  nonempty : name.toList ≠ []
  slashFree : '/' ∉ name.toList
  notHere : name.toList ≠ ['.']
  notAbove : name.toList ≠ ['.', '.']

namespace IsName

theorem of_mem {name : String} (character : Char) (notDot : character ≠ '.')
    (member : character ∈ name.toList) (slashFree : '/' ∉ name.toList) : IsName name := by
  refine ⟨List.ne_nil_of_mem member, slashFree, ?_, ?_⟩
  · intro here
    simp [here, notDot] at member
  · intro above
    simp [above, notDot] at member

variable {name : String} (named : IsName name)
include named

theorem ofPart : Component.ofPart name.toList = .name name := by
  simp only [Component.ofPart, if_neg named.notHere, if_neg named.notAbove, String.ofList_toList]

theorem counts (mayBeDot : Bool) : Path.counts mayBeDot name.toList = true := by
  simp [Path.counts, named.nonempty, named.notHere]

theorem not_isAbsolute (rest : String) : (⟨name ++ rest⟩ : Path).isAbsolute = false := by
  cases characters : name.toList with
  | nil => exact absurd characters named.nonempty
  | cons first later =>
      have notFirst : first ≠ '/' := fun same => named.slashFree (by simp [characters, same])
      simp [isAbsolute, characters, notFirst]

end IsName

section Names

variable {folder file : String} (folderNamed : IsName folder) (fileNamed : IsName file)
include folderNamed fileNamed

theorem append_names : Path.append ⟨folder⟩ ⟨file⟩ = ⟨folder ++ "/" ++ file⟩ := by
  have relative : (⟨file⟩ : Path).isAbsolute = false := by
    simpa using fileNamed.not_isAbsolute ""
  have notEmpty : folder.isEmpty = false := by
    simpa using folderNamed.nonempty
  have openEnd : folder.toList.getLast? ≠ some '/' := fun last =>
    folderNamed.slashFree (List.mem_of_getLast? last)
  simp [Path.append, relative, notEmpty, openEnd]

omit fileNamed in
theorem not_isAbsolute_names : (⟨folder ++ "/" ++ file⟩ : Path).isAbsolute = false := by
  simpa [String.append_assoc] using folderNamed.not_isAbsolute ("/" ++ file)

theorem parts_of_names :
    (⟨folder ++ "/" ++ file⟩ : Path).parts = [folder.toList, file.toList] := by
  have characters : (folder ++ "/" ++ file).toList = folder.toList ++ '/' :: file.toList := by
    simp
  simp only [parts, not_isAbsolute_names folderNamed, characters, Bool.false_eq_true, if_false,
    split_append_slash folderNamed.slashFree, split_of_slashFree fileNamed.slashFree]

/-- A name below a name has these two components. -/
theorem components_append_names :
    (Path.append ⟨folder⟩ ⟨file⟩).components = [.name folder, .name file] := by
  have marked : (⟨folder ++ "/" ++ file⟩ : Path).markedParts =
      [(folder.toList, true), (file.toList, true)] := by
    simp only [markedParts, parts_of_names folderNamed fileNamed, List.map_cons, List.map_nil,
      folderNamed.counts, fileNamed.counts]
  rw [append_names folderNamed fileNamed]
  simp [components, marked, not_isAbsolute_names folderNamed, folderNamed.ofPart, fileNamed.ofPart]

end Names

end Homeplan.Path
