import Homeplan.Proofs.Document.JsonScalars
import Homeplan.Proofs.Json

namespace Homeplan

/-! The compact text of a JSON value without reals is read as the document of that value. -/

namespace Json

mutual

/-- The document that stands for a value. -/
def document : Json → Document
  | .null => .null
  | .bool value => .bool value
  | .integer value => .integer value
  | .real value => .real value
  | .text value => .text value
  | .array items => .sequence (documents items)
  | .object members => .mapping (memberDocuments members)

def documents : List Json → List Document
  | [] => []
  | item :: rest => document item :: documents rest

def memberDocuments : List (String × Json) → List (Document × Document)
  | [] => []
  | (name, value) :: rest => (.text name, document value) :: memberDocuments rest

end

theorem documents_eq_map (items : List Json) : documents items = items.map document := by
  induction items with
  | nil => rfl
  | cons item rest ih => rw [documents, ih, List.map_cons]

theorem memberDocuments_eq_map (members : List (String × Json)) :
    memberDocuments members = members.map fun member => (.text member.1, document member.2) := by
  induction members with
  | nil => rfl
  | cons member rest ih => rw [memberDocuments, ih, List.map_cons]

/-! ## Characters of compact texts -/

theorem toList_stringText (value : String) :
    (stringText value).toList = '"' :: (value.toList.flatMap escaped ++ ['"']) := by
  simp [stringText]

theorem stringText_append (value : String) (later : List Char) :
    (stringText value).toList ++ later =
      '"' :: (value.toList.flatMap escaped ++ '"' :: later) := by
  simp [toList_stringText]

theorem toList_compact_array (items : List Json) :
    (compact (.array items)).toList = '[' :: ((compactItems items).toList ++ [']']) := by
  simp [compact]

theorem toList_compact_object (members : List (String × Json)) :
    (compact (.object members)).toList =
      '\x7b' :: ((compactMembers members).toList ++ ['\x7d']) := by
  simp [compact]

/-- A compact text starts with a character that is neither a blank nor closes a list. -/
theorem compact_start {json : Json} (exact : json.Exact) :
    ∃ first later, json.compact.toList = first :: later ∧ JsonText.isBlank first = false ∧
      first ≠ ']' := by
  cases json with
  | null => exact ⟨'n', _, rfl, rfl, by decide⟩
  | bool value =>
      cases value with
      | true => exact ⟨'t', _, rfl, rfl, by decide⟩
      | false => exact ⟨'f', _, rfl, rfl, by decide⟩
  | integer value =>
      obtain ⟨first, later, text, sign | digit⟩ := JsonText.toString_start value
      · exact ⟨first, later, text, by rw [sign]; rfl, by rw [sign]; decide⟩
      · exact ⟨first, later, text, JsonText.not_isBlank_of_digit digit,
          JsonText.ne_of_digit digit rfl⟩
  | real value => simp [Exact] at exact
  | text value => exact ⟨'"', _, toList_stringText value, rfl, by decide⟩
  | array items => exact ⟨'[', _, toList_compact_array items, rfl, by decide⟩
  | object members => exact ⟨'\x7b', _, toList_compact_object members, rfl, by decide⟩

theorem compactItems_start (item : Json) (others : List Json) :
    ∃ later, (compactItems (item :: others)).toList = item.compact.toList ++ later := by
  cases others with
  | nil => exact ⟨[], by simp [compactItems]⟩
  | cons next rest => exact ⟨',' :: (compactItems (next :: rest)).toList, by simp [compactItems]⟩

theorem compactMembers_start (name : String) (item : Json) (others : List (String × Json)) :
    ∃ later, (compactMembers ((name, item) :: others)).toList = '"' :: later := by
  cases others with
  | nil => exact ⟨_, by simp [compactMembers, toList_stringText]; rfl⟩
  | cons next rest => exact ⟨_, by simp [compactMembers, toList_stringText]; rfl⟩

end Json

namespace JsonText

open Json

theorem skipBlanks_cons {first : Char} (notBlank : isBlank first = false) (later : List Char) :
    skipBlanks (first :: later) = first :: later := by
  simp [skipBlanks, notBlank]

/-- The compact text of the value is read as its document, in front of anything that ends it. -/
def ReadsBack (json : Json) : Prop :=
  ∀ rest, Ends rest → ∀ bound, 2 * json.compact.length ≤ bound →
    value bound (json.compact.toList ++ rest) = (json.document, some rest)

theorem ends_cons {last : Char} (closes : last = ',' ∨ last = ']' ∨ last = '\x7d')
    (later : List Char) : Ends (last :: later) := by
  intro character isFirst
  obtain rfl := Option.some.inj isFirst
  exact closes

theorem items_compact {item : Json} {others : List Json} {rest : List Char} {bound : Nat}
    (each : ∀ one ∈ item :: others, ReadsBack one)
    (enough : 2 * (compactItems (item :: others)).length < bound) :
    items bound ((compactItems (item :: others)).toList ++ ']' :: rest) =
      ((item :: others).map document, some rest) := by
  induction others generalizing item bound with
  | nil =>
      cases bound with
      | zero => omega
      | succ bound =>
          have read := each item (List.mem_cons_self ..) (']' :: rest) (ends_cons (by decide) rest)
            bound (Nat.le_of_lt_succ enough)
          rw [compactItems, items, read]
          rfl
  | cons next others ih =>
      cases bound with
      | zero => omega
      | succ bound =>
          let later := (compactItems (next :: others)).toList ++ ']' :: rest
          have text : (compactItems (item :: next :: others)).toList ++ ']' :: rest =
              item.compact.toList ++ ',' :: later := by
            simp [compactItems, later]
          have lengths := congrArg List.length text
          simp only [later, List.length_append, List.length_cons, String.length_toList] at lengths
          -- The comma alone pays for the call that reads the rest.
          have read := each item (List.mem_cons_self ..) (',' :: later) (ends_cons (by decide) _)
            bound (by omega)
          have laterRead : items bound later = ((next :: others).map document, some rest) :=
            ih (fun one member => each one (List.mem_cons_of_mem _ member)) (by omega)
          have skip : skipBlanks (',' :: later) = ',' :: later := rfl
          rw [text, items, read]
          simp only [skip, laterRead, List.map_cons]

theorem members_last {name : String} {bound : Nat} {content rest : List Char}
    {document : Document} (read : value bound content = (document, some ('\x7d' :: rest))) :
    members (bound + 1) ((stringText name).toList ++ ':' :: content) =
      ([(.text name, document)], some rest) := by
  have colon : isBlank ':' = false := rfl
  have brace : isBlank '\x7d' = false := rfl
  rw [stringText_append, members, skipBlanks_cons rfl]
  simp only [string_compact, skipBlanks_cons colon, read, skipBlanks_cons brace]

theorem members_next {name : String} {bound : Nat} {content later : List Char}
    {document : Document} (read : value bound content = (document, some (',' :: later))) :
    members (bound + 1) ((stringText name).toList ++ ':' :: content) =
      ((.text name, document) :: (members bound later).1, (members bound later).2) := by
  have colon : isBlank ':' = false := rfl
  have comma : isBlank ',' = false := rfl
  rw [stringText_append, members, skipBlanks_cons rfl]
  simp only [string_compact, skipBlanks_cons colon, read, skipBlanks_cons comma]

theorem members_compact {name : String} {item : Json} {others : List (String × Json)}
    {rest : List Char} {bound : Nat}
    (each : ∀ one ∈ (name, item) :: others, ReadsBack one.2)
    (enough : 2 * (compactMembers ((name, item) :: others)).length < bound) :
    members bound ((compactMembers ((name, item) :: others)).toList ++ '\x7d' :: rest) =
      (((name, item) :: others).map fun one => (.text one.1, one.2.document), some rest) := by
  induction others generalizing name item bound with
  | nil =>
      cases bound with
      | zero => omega
      | succ bound =>
          have text : (compactMembers [(name, item)]).toList ++ '\x7d' :: rest =
              (stringText name).toList ++ ':' :: (item.compact.toList ++ '\x7d' :: rest) := by
            simp [compactMembers]
          have lengths := congrArg List.length text
          simp only [List.length_append, List.length_cons, String.length_toList] at lengths
          have read := each (name, item) (List.mem_cons_self ..) ('\x7d' :: rest)
            (ends_cons (by decide) rest) bound (by dsimp only; omega)
          rw [text, members_last read]
          rfl
  | cons next others ih =>
      obtain ⟨nextName, nextItem⟩ := next
      cases bound with
      | zero => omega
      | succ bound =>
          let later := (compactMembers ((nextName, nextItem) :: others)).toList ++ '\x7d' :: rest
          have text : (compactMembers ((name, item) :: (nextName, nextItem) :: others)).toList ++
              '\x7d' :: rest =
              (stringText name).toList ++ ':' :: (item.compact.toList ++ ',' :: later) := by
            simp [compactMembers, later]
          have lengths := congrArg List.length text
          simp only [later, List.length_append, List.length_cons, String.length_toList] at lengths
          have read := each (name, item) (List.mem_cons_self ..) (',' :: later)
            (ends_cons (by decide) _) bound (by dsimp only; omega)
          have laterRead : members bound later =
              (((nextName, nextItem) :: others).map fun one => (.text one.1, one.2.document),
                some rest) :=
            ih (fun one member => each one (List.mem_cons_of_mem _ member)) (by omega)
          rw [text, members_next read, laterRead]
          rfl

theorem value_of_digit {bound : Nat} {first : Char} {later : List Char}
    (digit : first.isDigit = true) :
    value (bound + 1) (first :: later) = scalar (first :: later) := by
  rw [value, skipBlanks_cons (not_isBlank_of_digit digit)]
  split
  · rename_i same
    exact absurd (List.cons.inj same).1 (ne_of_digit digit rfl)
  · rename_i same
    exact absurd (List.cons.inj same).1 (ne_of_digit digit rfl)
  · rfl

theorem value_list {bound : Nat} {first : Char} {later : List Char}
    (notBlank : isBlank first = false) (notClosed : first ≠ ']') :
    value (bound + 1) ('[' :: first :: later) =
      (.sequence (items bound (first :: later)).1, (items bound (first :: later)).2) := by
  have skip : skipBlanks ('[' :: first :: later) = '[' :: first :: later := rfl
  rw [value, skip]
  simp only [skipBlanks_cons notBlank]
  split
  · rename_i same
    exact absurd (List.cons.inj same).1 notClosed
  · rfl

theorem value_integer {bound : Nat} (number : Int) (rest : List Char) :
    value (bound + 1) ((toString number).toList ++ rest) =
      scalar ((toString number).toList ++ rest) := by
  obtain ⟨first, later, text, sign | digit⟩ := toString_start number
  · rw [text, sign]
    rfl
  · rw [text]
    exact value_of_digit digit

/-- No text is empty, so some call may always be made. -/
theorem readsBack_of_succ {json : Json} (exact : json.Exact)
    (reads : ∀ rest, Ends rest → ∀ bound, 2 * json.compact.length ≤ bound + 1 →
      value (bound + 1) (json.compact.toList ++ rest) = (json.document, some rest)) :
    ReadsBack json := by
  intro rest ends bound enough
  obtain ⟨first, later, start, _⟩ := compact_start exact
  have lengths := congrArg List.length start
  rw [String.length_toList, List.length_cons] at lengths
  obtain ⟨bound, rfl⟩ : ∃ smaller, bound = smaller + 1 := ⟨bound - 1, by omega⟩
  exact reads rest ends bound enough

theorem readsBack_array {items : List Json} (exact : ExactItems items)
    (each : ∀ item ∈ items, ReadsBack item) : ReadsBack (.array items) := by
  refine readsBack_of_succ exact fun rest ends bound enough => ?_
  cases items with
  | nil => rfl
  | cons item others =>
      let content := (compactItems (item :: others)).toList ++ ']' :: rest
      have text : (compact (.array (item :: others))).toList ++ rest = '[' :: content := by
        simp [toList_compact_array, content]
      have lengths := congrArg List.length text
      simp only [content, List.length_append, List.length_cons, String.length_toList] at lengths
      have read : JsonText.items bound content = ((item :: others).map document, some rest) :=
        items_compact each (by omega)
      obtain ⟨first, later, start, notBlank, notClosed⟩ :
          ∃ first later, content = first :: later ∧ isBlank first = false ∧ first ≠ ']' := by
        obtain ⟨first, later, start, notBlank, notClosed⟩ :=
          compact_start (exactItems_iff.mp exact item (List.mem_cons_self ..))
        obtain ⟨behind, itemFirst⟩ := compactItems_start item others
        exact ⟨first, _, by simp only [content, itemFirst, start]; rfl, notBlank, notClosed⟩
      rw [text, document, documents_eq_map]
      rw [start] at read ⊢
      rw [value_list notBlank notClosed, read]

theorem readsBack_object {members : List (String × Json)} (exact : ExactMembers members)
    (each : ∀ member ∈ members, ReadsBack member.2) : ReadsBack (.object members) := by
  refine readsBack_of_succ exact fun rest ends bound enough => ?_
  cases members with
  | nil => rfl
  | cons member others =>
      obtain ⟨name, item⟩ := member
      let content := (compactMembers ((name, item) :: others)).toList ++ '\x7d' :: rest
      have text : (compact (.object ((name, item) :: others))).toList ++ rest =
          '\x7b' :: content := by
        simp [toList_compact_object, content]
      have lengths := congrArg List.length text
      simp only [content, List.length_append, List.length_cons, String.length_toList] at lengths
      have read : members bound content =
          (((name, item) :: others).map fun one => (.text one.1, one.2.document), some rest) :=
        members_compact each (by omega)
      obtain ⟨later, start⟩ : ∃ later, content = '"' :: later := by
        obtain ⟨later, start⟩ := compactMembers_start name item others
        exact ⟨_, by simp only [content, start]; rfl⟩
      rw [text, document, memberDocuments_eq_map]
      rw [start] at read ⊢
      show (Document.mapping (members bound ('"' :: later)).1, (members bound ('"' :: later)).2) = _
      rw [read]

theorem readsBack {json : Json} (exact : json.Exact) : ReadsBack json := by
  induction json using Json.induction with
  | null => exact readsBack_of_succ exact fun rest _ bound _ => rfl
  | bool flag =>
      refine readsBack_of_succ exact fun rest _ bound _ => ?_
      cases flag <;> rfl
  | integer number =>
      refine readsBack_of_succ exact fun rest ends bound _ => ?_
      rw [compact, value_integer, scalar_integer exact ends]
      rfl
  | real number => simp [Exact] at exact
  | text content =>
      refine readsBack_of_succ exact fun rest _ bound _ => ?_
      have text : (compact (.text content)).toList ++ rest =
          '"' :: (content.toList.flatMap escaped ++ '"' :: rest) :=
        stringText_append content rest
      have scalar : scalar ('"' :: (content.toList.flatMap escaped ++ '"' :: rest)) =
          (.text content, some rest) := by
        rw [scalar]
        simp only [string_compact]
      rw [text]
      exact scalar
  | array items each =>
      exact readsBack_array exact fun item member =>
        each item member (exactItems_iff.mp exact item member)
  | object members each =>
      exact readsBack_object exact fun one member =>
        each one member (exactMembers_iff.mp exact one member)

/-- The compact text of a value without reals is its document, and nothing follows it. -/
theorem ofString_compact {json : Json} (exact : json.Exact) :
    ofString json.compact = ⟨json.document, true⟩ := by
  have read := readsBack exact [] (by simp [Ends]) (2 * json.compact.toList.length + 2)
    (by rw [String.length_toList]; omega)
  rw [List.append_nil] at read
  simp only [ofString, read]
  rfl

end JsonText

end Homeplan
