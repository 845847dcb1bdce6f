import Homeplan.Proofs.TypeScript.Reader

namespace Homeplan.TypeScript

/-! String literals in front of any other text.

A literal ends at its first quotation mark that no backslash takes along.  What stands between its
quotation marks is described apart from any reader, and a reader from the left finds exactly that.
A quoted text is such a literal, so nothing in the text can end it early.
-/

open Reader (unescaped)

/-- How letters are spelled between two quotation marks.  A backslash takes the character behind it
along, whatever that is; without one, a quotation mark or a backslash cannot be spelled. -/
inductive Spells : List Char → List Char → Prop
  | nothing : Spells [] []
  | plain {letter : Char} {body letters : List Char} (noQuotation : letter ≠ '\'')
      (noBackslash : letter ≠ '\\') (later : Spells body letters) :
      Spells (letter :: body) (letter :: letters)
  | escape (character : Char) {body letters : List Char} (later : Spells body letters) :
      Spells ('\\' :: character :: body) (unescaped character :: letters)

/-- Reads on behind an opening quotation mark: what is spelled up to the closing one, and the text
behind that. -/
def readBody? : List Char → Option (List Char × List Char)
  | [] => none
  | first :: rest =>
      if first = '\'' then some ([], rest)
      else if first = '\\' then
        match rest with
        | [] => none
        | character :: behind =>
            (readBody? behind).map fun read => (unescaped character :: read.1, read.2)
      else (readBody? rest).map fun read => (first :: read.1, read.2)

/-- Reads a literal at the start of a text: what it stands for, and the text behind it. -/
def readLiteral? : List Char → Option (String × List Char)
  | [] => none
  | first :: rest =>
      if first = '\'' then (readBody? rest).map fun read => (String.ofList read.1, read.2)
      else none

variable {body letters text rest : List Char} {value : String}

theorem readBody?_escape (character : Char) (rest : List Char) :
    readBody? ('\\' :: character :: rest) =
      (readBody? rest).map fun read => (unescaped character :: read.1, read.2) := by
  rw [readBody?.eq_def]
  rfl

theorem readBody?_plain {letter : Char} (noQuotation : letter ≠ '\'') (noBackslash : letter ≠ '\\')
    (rest : List Char) :
    readBody? (letter :: rest) = (readBody? rest).map fun read => (letter :: read.1, read.2) := by
  rw [readBody?.eq_def]
  simp only [if_neg noQuotation, if_neg noBackslash]

theorem readBody?_of_spells (spelled : Spells body letters) (rest : List Char) :
    readBody? (body ++ '\'' :: rest) = some (letters, rest) := by
  induction spelled with
  | nothing =>
      rw [readBody?.eq_def]
      rfl
  | plain noQuotation noBackslash _ ih =>
      rw [List.cons_append, readBody?_plain noQuotation noBackslash, ih]
      rfl
  | escape character _ ih =>
      rw [List.cons_append, List.cons_append, readBody?_escape, ih]
      rfl

/-- The reader stops at a quotation mark behind something that is spelled between two of them. -/
theorem exists_spells_of_readBody? (read : readBody? text = some (letters, rest)) :
    ∃ body, Spells body letters ∧ text = body ++ '\'' :: rest := by
  fun_induction readBody? text generalizing letters with
  | case1 => contradiction
  | case2 =>
      cases read
      exact ⟨[], .nothing, rfl⟩
  | case3 => contradiction
  | case4 character _ _ ih =>
      obtain ⟨⟨_, _⟩, found, same⟩ := Option.map_eq_some_iff.mp read
      cases same
      obtain ⟨body, spelled, rfl⟩ := ih found
      exact ⟨_, .escape character spelled, rfl⟩
  | case5 _ _ noQuotation noBackslash ih =>
      obtain ⟨⟨_, _⟩, found, same⟩ := Option.map_eq_some_iff.mp read
      cases same
      obtain ⟨body, spelled, rfl⟩ := ih found
      exact ⟨_, .plain noQuotation noBackslash spelled, rfl⟩

theorem readLiteral?_eq_some_iff : readLiteral? text = some (value, rest) ↔
    ∃ body, Spells body value.toList ∧ text = '\'' :: (body ++ '\'' :: rest) := by
  constructor
  · intro read
    unfold readLiteral? at read
    split at read
    · contradiction
    · split at read
      · rename_i opens
        obtain ⟨⟨letters, after⟩, found, same⟩ := Option.map_eq_some_iff.mp read
        cases same
        obtain ⟨body, spelled, behind⟩ := exists_spells_of_readBody? found
        exact ⟨body, by rwa [String.toList_ofList], by rw [opens, behind]⟩
      · contradiction
  · rintro ⟨body, spelled, rfl⟩
    rw [readLiteral?, if_pos rfl, readBody?_of_spells spelled, Option.map_some,
      String.ofList_toList]

/-- A literal that is closed stays what it is, whatever follows. -/
theorem readLiteral?_append (whole : readLiteral? text = some (value, rest)) (more : List Char) :
    readLiteral? (text ++ more) = some (value, rest ++ more) := by
  obtain ⟨body, spelled, rfl⟩ := readLiteral?_eq_some_iff.mp whole
  exact readLiteral?_eq_some_iff.mpr ⟨body, spelled, by simp⟩

/-! ## Quoted texts -/

theorem Spells.escaped_append (character : Char) (later : Spells body letters) :
    Spells (escaped character ++ body) (character :: letters) := by
  unfold escaped
  split_ifs with backslash quotation feed returns
  · subst backslash
    exact .escape '\\' later
  · subst quotation
    exact .escape '\'' later
  · subst feed
    exact .escape 'n' later
  · subst returns
    exact .escape 'r' later
  · exact .plain quotation backslash later

theorem spells_flatMap_escaped (letters : List Char) :
    Spells (letters.flatMap escaped) letters := by
  induction letters with
  | nil => exact .nothing
  | cons character _ ih => exact ih.escaped_append character

theorem readLiteral?_quote (text : String) (rest : List Char) :
    readLiteral? ((quote text).toList ++ rest) = some (text, rest) := by
  refine readLiteral?_eq_some_iff.mpr ⟨_, spells_flatMap_escaped text.toList, ?_⟩
  simp [quote]

/-- Nothing that stands in front of the last quotation mark closes a quoted text. -/
theorem readLiteral?_front_quote {text : String} {front more : List Char}
    (split : (quote text).toList = front ++ more) (cut : more ≠ []) :
    readLiteral? front = none := by
  cases closed : readLiteral? front with
  | none => rfl
  | some read =>
      obtain ⟨value, rest⟩ := read
      have whole := readLiteral?_quote text []
      rw [List.append_nil, split, readLiteral?_append closed more, Option.some.injEq,
        Prod.mk.injEq] at whole
      exact absurd (List.append_eq_nil_iff.mp whole.2).2 cut

theorem quote_injective : Function.Injective quote := by
  intro left right same
  have leftRead := readLiteral?_quote left []
  rw [same, readLiteral?_quote right, Option.some.injEq, Prod.mk.injEq] at leftRead
  exact leftRead.1.symm

def IsLineBreak (character : Char) : Prop := character = '\n' ∨ character = '\r'

theorem not_mem_quote {character : Char} (isBreak : IsLineBreak character) (text : String) :
    character ∉ (quote text).toList := by
  have pieces (letter : Char) : character ∉ escaped letter := by
    unfold escaped
    split_ifs with backslash quotation feed returns
    · rcases isBreak with rfl | rfl <;> decide
    · rcases isBreak with rfl | rfl <;> decide
    · rcases isBreak with rfl | rfl <;> decide
    · rcases isBreak with rfl | rfl <;> decide
    · intro member
      rw [List.mem_singleton.mp member] at isBreak
      exact isBreak.elim feed returns
  have noQuotation : character ≠ '\'' := by rcases isBreak with rfl | rfl <;> decide
  simp [quote, pieces, noQuotation]

/-- A reader that honours backslashes and stops at the first quotation mark that none of them takes
along reads a quoted text in front of any other one, and gives back both.  So different texts are
quoted differently, a quoted text is closed by its last character and no earlier one, and it stays
on its line. -/
theorem literals_cannot_be_broken_out_of :
    (∀ text value rest, readLiteral? text = some (value, rest) ↔
      ∃ body, Spells body value.toList ∧ text = '\'' :: (body ++ '\'' :: rest)) ∧
    (∀ text rest, readLiteral? ((quote text).toList ++ rest) = some (text, rest)) ∧
    Function.Injective quote ∧
    ∀ text, (quote text).toList.getLast? = some '\'' ∧
      (∀ front more, (quote text).toList = front ++ more → more ≠ [] →
        readLiteral? front = none) ∧
      '\n' ∉ (quote text).toList ∧ '\r' ∉ (quote text).toList := by
  refine ⟨fun _ _ _ => readLiteral?_eq_some_iff, readLiteral?_quote, quote_injective,
    fun text => ?_⟩
  refine ⟨?_, fun _ _ => readLiteral?_front_quote, not_mem_quote (Or.inl rfl) text,
    not_mem_quote (Or.inr rfl) text⟩
  rw [quote, String.toList_ofList, ← List.cons_append, List.getLast?_concat]

end Homeplan.TypeScript
