import Homeplan.FileTree
import Homeplan.Proofs.SortedMap

namespace Homeplan.FileTree

/-! What stands where in a tree, and how it changes.

Only the kind of what stands at a position matters: nothing, a folder, or a file with its content.
Putting or removing an entry changes the kinds at its position and below it, and no others.
-/

inductive Kind where
  | nothing
  | folder
  | file (content : ByteArray)

instance : (kind : Kind) → Decidable (kind = .folder)
  | .nothing => isFalse Kind.noConfusion
  | .folder => isTrue rfl
  | .file _ => isFalse Kind.noConfusion

def kind : FileTree → Kind
  | .file content => .file content
  | .folder _ => .folder

def kindAt (tree : FileTree) (position : Position) : Kind :=
  match tree.find? position with
  | some entry => entry.kind
  | none => .nothing

/-- The content of the file at a position. -/
def fileAt (tree : FileTree) (position : Position) : Option ByteArray :=
  match tree.kindAt position with
  | .file content => some content
  | _ => none

variable {tree entry : FileTree} {entries : List (String × FileTree)} {name : String}
  {position rest other : Position}

/-! ## Looking down a tree -/

@[simp] theorem kindAt_top (tree : FileTree) : tree.kindAt [] = tree.kind := by
  simp [kindAt, find?]

@[simp] theorem kindAt_below_file (content : ByteArray) (name : String) (rest : Position) :
    (FileTree.file content).kindAt (name :: rest) = .nothing := by
  simp [kindAt, find?]

theorem kindAt_folder_of_some (found : entries.lookup name = some entry) (rest : Position) :
    (FileTree.folder entries).kindAt (name :: rest) = entry.kindAt rest := by
  simp [kindAt, find?, found]

theorem kindAt_folder_of_none (missing : entries.lookup name = none) (rest : Position) :
    (FileTree.folder entries).kindAt (name :: rest) = .nothing := by
  simp [kindAt, find?, missing]

theorem kind_ne_nothing (tree : FileTree) : tree.kind ≠ .nothing := by
  cases tree <;> exact Kind.noConfusion

theorem find?_append (tree : FileTree) (position rest : Position) :
    tree.find? (position ++ rest) = (tree.find? position).bind (·.find? rest) := by
  induction position generalizing tree with
  | nil => simp [find?]
  | cons name later ih =>
      cases tree with
      | file content => simp [find?]
      | folder entries =>
          simp only [List.cons_append, find?]
          cases entries.lookup name with
          | none => rfl
          | some entry => exact ih entry

theorem find?_eq_some_folder_iff :
    tree.kindAt position = .folder ↔ ∃ entries, tree.find? position = some (.folder entries) := by
  unfold kindAt
  rcases tree.find? position with _ | (content | entries) <;> simp [kind]

theorem find?_eq_some_file_iff {content : ByteArray} :
    tree.kindAt position = .file content ↔ tree.find? position = some (.file content) := by
  unfold kindAt
  rcases tree.find? position with _ | (content | entries) <;> simp [kind]

theorem find?_eq_none_iff : tree.kindAt position = .nothing ↔ tree.find? position = none := by
  unfold kindAt
  cases tree.find? position with
  | none => simp
  | some entry => simp [kind_ne_nothing]

theorem ne_folder_of_nothing (nothing : tree.kindAt position = .nothing) :
    tree.kindAt position ≠ .folder := by
  rw [nothing]
  exact Kind.noConfusion

theorem kindAt_below (notFolder : tree.kindAt position ≠ .folder) (name : String)
    (rest : Position) : tree.kindAt (position ++ name :: rest) = .nothing := by
  rw [find?_eq_none_iff, find?_append]
  unfold kindAt at notFolder
  rcases found : tree.find? position with _ | (content | entries)
  · rfl
  · rfl
  · simp [found, kind] at notFolder

/-! ## Putting and removing entries -/

theorem lookup_filter_ne (entries : List (String × FileTree)) (name other : String) :
    (entries.filter fun entry => entry.1 ≠ name).lookup other =
      if other = name then none else entries.lookup other := by
  induction entries with
  | nil => simp
  | cons head rest ih =>
      obtain ⟨first, entry⟩ := head
      rw [SortedMap.lookup_pair_cons]
      by_cases same : first = name
      · subst same
        rw [List.filter_cons_of_neg (by simp), ih]
        by_cases isFirst : other = first <;> simp [isFirst]
      · rw [List.filter_cons_of_pos (by simpa using same), SortedMap.lookup_pair_cons, ih]
        by_cases isFirst : other = first
        · simp [isFirst, same]
        · simp [isFirst]

theorem kindAt_insertEntry_same (entries : List (String × FileTree)) (name : String)
    (entry : FileTree) (rest : Position) :
    (FileTree.folder (SortedMap.insertEntry name entry entries)).kindAt (name :: rest) =
      entry.kindAt rest :=
  kindAt_folder_of_some (by simp [SortedMap.lookup_insertEntry]) rest

theorem kindAt_eq_of_lookup {before after : List (String × FileTree)}
    (same : after.lookup name = before.lookup name) (rest : Position) :
    (FileTree.folder after).kindAt (name :: rest) =
      (FileTree.folder before).kindAt (name :: rest) := by
  simp [kindAt, find?, same]

theorem kindAt_insertEntry_other {next : String} (different : next ≠ name) (entry : FileTree)
    (entries : List (String × FileTree)) (rest : Position) :
    (FileTree.folder (SortedMap.insertEntry name entry entries)).kindAt (next :: rest) =
      (FileTree.folder entries).kindAt (next :: rest) :=
  kindAt_eq_of_lookup (by rw [SortedMap.lookup_insertEntry, if_neg different]) rest

theorem kindAt_put_below {inside : Position} (there : tree.kindAt inside = .folder) (name : String)
    (entry : FileTree) (rest : Position) :
    (tree.put (inside ++ [name]) entry).kindAt (inside ++ name :: rest) = entry.kindAt rest := by
  induction inside generalizing tree with
  | nil =>
      cases tree with
      | file content => simp [kind] at there
      | folder entries => exact kindAt_insertEntry_same entries name entry rest
  | cons step later ih =>
      cases tree with
      | file content => simp at there
      | folder entries =>
          cases found : entries.lookup step with
          | none => simp [kindAt_folder_of_none found] at there
          | some inner =>
              rw [kindAt_folder_of_some found] at there
              -- The way goes on, so this is not the folder that gets the entry.
              obtain ⟨next, further, split⟩ : ∃ next further, later ++ [name] = next :: further :=
                List.exists_cons_of_ne_nil (by simp)
              rw [List.cons_append, List.cons_append, split, put, found]
              rw [kindAt_insertEntry_same, ← split]
              exact ih there

theorem kindAt_remove_below (tree : FileTree) (inside : Position) (name : String)
    (rest : Position) : (tree.remove (inside ++ [name])).kindAt (inside ++ name :: rest) = .nothing := by
  induction inside generalizing tree with
  | nil =>
      cases tree with
      | file content => exact kindAt_below_file content name rest
      | folder entries =>
          exact kindAt_folder_of_none (by rw [lookup_filter_ne, if_pos rfl]) rest
  | cons step later ih =>
      cases tree with
      | file content => exact kindAt_below_file content step _
      | folder entries =>
          obtain ⟨next, further, split⟩ : ∃ next further, later ++ [name] = next :: further :=
            List.exists_cons_of_ne_nil (by simp)
          rw [List.cons_append, List.cons_append, split, remove]
          cases found : entries.lookup step with
          | none => exact kindAt_folder_of_none found _
          | some inner =>
              rw [kindAt_insertEntry_same, ← split]
              exact ih inner

/-- A change that goes down to a position by the names in it, and there changes the entry of its
last name only. -/
structure GoesDown (change : FileTree → Position → FileTree) : Prop where
  file : ∀ content name rest, change (.file content) (name :: rest) = .file content
  last : ∀ entries name, ∃ changed, change (.folder entries) [name] = .folder changed ∧
    ∀ other, other ≠ name → changed.lookup other = entries.lookup other
  stuck : ∀ entries name next rest, entries.lookup name = none →
    change (.folder entries) (name :: next :: rest) = .folder entries
  into : ∀ entries name next rest inner, entries.lookup name = some inner →
    change (.folder entries) (name :: next :: rest) =
      .folder (SortedMap.insertEntry name (change inner (next :: rest)) entries)

theorem put_goesDown (entry : FileTree) : GoesDown (put · · entry) where
  file := fun _ _ _ => by rw [put]
  last := fun entries name => by
    refine ⟨_, by rw [put], fun other different => ?_⟩
    rw [SortedMap.lookup_insertEntry, if_neg different]
  stuck := fun _ _ _ _ missing => by rw [put, missing]
  into := fun _ _ _ _ _ found => by rw [put, found]

theorem remove_goesDown : GoesDown remove where
  file := fun _ _ _ => by rw [remove]
  last := fun entries name => by
    refine ⟨_, by rw [remove], fun other different => ?_⟩
    rw [lookup_filter_ne, if_neg different]
  stuck := fun _ _ _ _ missing => by rw [remove, missing]
  into := fun _ _ _ _ _ found => by rw [remove, found]

theorem GoesDown.kindAt_apart {change : FileTree → Position → FileTree} (down : GoesDown change)
    (apart : ¬ position <+: other) : (change tree position).kindAt other = tree.kindAt other := by
  induction position generalizing tree other with
  | nil => exact absurd List.nil_prefix apart
  | cons name later ih =>
      cases tree with
      | file content => rw [down.file]
      | folder entries =>
          cases later with
          | nil =>
              obtain ⟨changed, isFolder, same⟩ := down.last entries name
              rw [isFolder]
              cases other with
              | nil => simp [kind]
              | cons first further =>
                  have different : first ≠ name := by
                    rintro rfl
                    exact apart (by simp)
                  exact kindAt_eq_of_lookup (same first different) further
          | cons next rest =>
              cases found : entries.lookup name with
              | none => rw [down.stuck entries name next rest found]
              | some inner =>
                  rw [down.into entries name next rest inner found]
                  cases other with
                  | nil => simp [kind]
                  | cons first further =>
                      -- What is looked at is below the changed entry or in another one.
                      by_cases same : first = name
                      · subst same
                        rw [kindAt_insertEntry_same, kindAt_folder_of_some found]
                        exact ih fun below => apart (List.cons_prefix_cons.mpr ⟨rfl, below⟩)
                      · exact kindAt_insertEntry_other same _ entries further

/-! ## Entries without anything below them -/

/-- Nothing stands below the entry: it is a file or an empty folder. -/
def IsLeaf (entry : FileTree) : Prop :=
  ∀ name rest, entry.kindAt (name :: rest) = .nothing

theorem isLeaf_file (content : ByteArray) : (FileTree.file content).IsLeaf :=
  kindAt_below_file content

theorem isLeaf_emptyFolder : (FileTree.folder []).IsLeaf :=
  fun _ rest => kindAt_folder_of_none rfl rest

theorem prefix_append_singleton {inside other : Position} (below : inside ++ [name] <+: other) :
    ∃ rest, other = inside ++ name :: rest := by
  obtain ⟨rest, rfl⟩ := below
  exact ⟨rest, by simp⟩

/-- A change below a place without anything below it, before and after, is one of the place alone. -/
theorem kindAt_of_leaf {after : FileTree} {inside : Position} {shown : Kind}
    (vacant : tree.kindAt (inside ++ [name]) ≠ .folder)
    (here : after.kindAt (inside ++ [name]) = shown)
    (below : ∀ next rest, after.kindAt (inside ++ name :: next :: rest) = .nothing)
    (elsewhere : ∀ other, ¬ inside ++ [name] <+: other → after.kindAt other = tree.kindAt other)
    (other : Position) :
    after.kindAt other = if other = inside ++ [name] then shown else tree.kindAt other := by
  by_cases inPlace : inside ++ [name] <+: other
  · obtain ⟨rest, rfl⟩ := prefix_append_singleton inPlace
    cases rest with
    | nil => rw [here, if_pos rfl]
    | cons next further =>
        have nothing := kindAt_below vacant next further
        rw [List.append_assoc, List.singleton_append] at nothing
        rw [below, nothing, if_neg (by simp)]
  · have apart : other ≠ inside ++ [name] := fun same => inPlace (same ▸ List.prefix_rfl)
    rw [elsewhere other inPlace, if_neg apart]

/-- A leaf that takes the place of a file or of nothing shows at its own place only. -/
theorem kindAt_put_leaf {inside : Position} (leaf : entry.IsLeaf)
    (there : tree.kindAt inside = .folder) (vacant : tree.kindAt (inside ++ [name]) ≠ .folder)
    (other : Position) :
    (tree.put (inside ++ [name]) entry).kindAt other =
      if other = inside ++ [name] then entry.kind else tree.kindAt other := by
  refine kindAt_of_leaf vacant ?_ (fun next rest => ?_) (fun _ apart => ?_) other
  · rw [kindAt_put_below there, kindAt_top]
  · rw [kindAt_put_below there]
    exact leaf next rest
  · exact (put_goesDown entry).kindAt_apart apart

theorem kindAt_remove_leaf {inside : Position}
    (vacant : tree.kindAt (inside ++ [name]) ≠ .folder) (other : Position) :
    (tree.remove (inside ++ [name])).kindAt other =
      if other = inside ++ [name] then .nothing else tree.kindAt other :=
  kindAt_of_leaf vacant (kindAt_remove_below tree inside name [])
    (fun next rest => kindAt_remove_below tree inside name (next :: rest))
    (fun _ apart => remove_goesDown.kindAt_apart apart) other

end Homeplan.FileTree
