import Homeplan.Proofs.TypeScript.Reader

namespace Homeplan.TypeScript

/-! The text of an expression determines the expression.

An expression of the class `Expr.Readable`, which has no cast inside, is read back from its text in
front of anything that can follow it.  At the root a cast may stand around it: its type is all of
the remaining text.  The one text of two expressions is that of a cast of the identifier that is
also the keyword for a construction.
-/

mutual

/-- Identifiers are identifiers and no keywords of the syntax, the type of a construction ends at
the first parenthesis, and casts and JSON values do not occur. -/
def Expr.Readable : Expr → Prop
  | .ident name => isIdentifier name = true ∧ name ≠ "this" ∧ name ≠ "true" ∧ name ≠ "false"
  | .string _ | .bool _ | .integer _ | .self => True
  | .json _ | .cast _ _ => False
  | .member object _ => object.Readable
  | .call callee arguments => callee.Readable ∧ ReadableItems arguments
  | .construct type arguments => '(' ∉ type.toList ∧ ReadableItems arguments
  | .array items => ReadableItems items

def ReadableItems : List Expr → Prop
  | [] => True
  | item :: rest => item.Readable ∧ ReadableItems rest

end

/-- Readable, or one cast of a readable expression. -/
def Expr.Printable : Expr → Prop
  | .cast inner _ => inner.Readable
  | expr => expr.Readable

namespace Reader

/-! ## In front of what follows -/

/-- What the reader is in the middle of behind a property of an object. -/
def endOfMember (object : Expr) (property : String) : Mode :=
  if isIdentifier property then .dot object property.toList
  else .complete (.member object property)

/-- What the reader is in the middle of at the end of an expression. -/
def endOf (expr : Expr) : Mode :=
  match expr with
  | .ident _ | .bool _ | .integer _ | .self => .word expr.text.toList
  | .member object property => endOfMember object property
  | .string _ | .json _ | .call _ _ | .construct _ _ | .array _ | .cast _ _ => .complete expr

/-- Behind a readable expression a character that is not part of an identifier is read as such,
except for the blank behind the keyword for a construction. -/
theorem step_endOf {expr : Expr} (readable : expr.Readable) {character : Char}
    (separates : isIdentifierPart character = false)
    (notConstruct : character = ' ' → expr ≠ .ident "new") (outer : List OpenList) :
    step ⟨outer, endOf expr⟩ character = behind outer expr character := by
  have notPart : ¬ isIdentifierPart character = true := by simp [separates]
  have word {letters : List Char} (meant : wordExpr letters = expr)
      (notNew : letters ≠ "new".toList) :
      step ⟨outer, .word letters⟩ character = behind outer expr character := by
    rw [step, if_neg notPart, if_neg (fun both => notNew both.1), meant]
  cases expr with
  | ident name =>
      have meant := wordExpr_ident readable.1 readable.2
      rw [endOf, Expr.text, step, if_neg notPart, if_neg, meant]
      rintro ⟨isNew, blank⟩
      exact notConstruct blank (congrArg Expr.ident (String.toList_inj.mp isNew))
  | bool value => cases value <;> exact word rfl (by decide)
  | integer value =>
      -- The keyword stands for itself, not for a number.
      refine word (wordExpr_integer value) fun isNew => ?_
      have meant := wordExpr_integer value
      rw [Expr.text] at isNew
      rw [isNew] at meant
      contradiction
  | self => exact word rfl (by decide)
  | member object property =>
      rw [endOf, endOfMember]
      split
      · rw [step, if_neg notPart, String.ofList_toList]
      · rfl
  | json value => exact readable.elim
  | cast inner type => exact readable.elim
  | string value | call callee arguments | construct type arguments | array items => rfl

theorem step_separator {expr : Expr} (readable : expr.Readable) {character : Char}
    (separates : isSeparator character = true) (notBlank : character ≠ ' ')
    (outer : List OpenList) :
    step ⟨outer, endOf expr⟩ character = behind outer expr character :=
  step_endOf readable (notPart_of_isSeparator separates) (fun blank => absurd blank notBlank) outer

/-! ## Reading back -/

section Pieces

variable {outer : List OpenList}

theorem run_quote (value : String) :
    run ⟨outer, .start⟩ (quote value).toList = ⟨outer, .complete (.string value)⟩ := by
  rw [quote, String.toList_ofList, run_cons, run_append]
  show run (run ⟨outer, .quoted none []⟩ _) _ = _
  rw [run_quoted]
  simp [step, closeQuotes]

theorem run_member {object : Expr} (readable : object.Readable) (property : String) :
    run ⟨outer, endOf object⟩
        (if isIdentifier property then '.' :: property.toList
          else '[' :: ((quote property).toList ++ [']'])) =
      ⟨outer, endOfMember object property⟩ := by
  unfold endOfMember
  by_cases identifier : isIdentifier property = true
  · obtain ⟨-, -, -, -, parts⟩ := parts_of_isIdentifier identifier
    rw [if_pos identifier, if_pos identifier, run_cons, step_separator readable rfl (by decide)]
    exact run_dot parts
  · rw [if_neg identifier, if_neg identifier, run_cons,
      step_separator readable rfl (by decide), quote, String.toList_ofList, List.cons_append, run_cons,
      run_append, run_append]
    show run (run (run ⟨outer, .quoted (some object) []⟩ _) _) _ = _
    rw [run_quoted]
    simp [step, closeQuotes]

theorem run_closing {item : Expr} (readable : item.Readable) (list : OpenList) {closing : Char}
    (closes : closing = ')' ∨ closing = ']') :
    run ⟨list :: outer, endOf item⟩ [closing] = ⟨outer, .complete (list.push item).close⟩ := by
  rcases closes with rfl | rfl
  all_goals
    rw [run_cons, step_separator readable rfl (by decide)]
    rfl

theorem run_comma {item : Expr} (readable : item.Readable) (list : OpenList) :
    run ⟨list :: outer, endOf item⟩ ", ".toList = ⟨list.push item :: outer, .start⟩ := by
  show run (step _ ',') [' '] = _
  rw [step_separator readable rfl (by decide)]
  rfl

theorem run_opening {callee : Expr} (readable : callee.Readable) :
    run ⟨outer, endOf callee⟩ "(".toList = ⟨⟨.call callee, []⟩ :: outer, .start⟩ := by
  show run (step _ '(') [] = _
  rw [step_separator readable rfl (by decide)]
  rfl

/-- The keyword for a construction, its type and the parenthesis. -/
theorem run_construct {type : String} (closed : '(' ∉ type.toList) :
    run ⟨outer, .start⟩ ("new ".toList ++ type.toList ++ "(".toList) =
      ⟨⟨.construct type, []⟩ :: outer, .start⟩ := by
  have keyword : run ⟨outer, .start⟩ "new".toList = ⟨outer, .word "new".toList⟩ :=
    run_start_keyword (by decide)
  have blank : step ⟨outer, .word "new".toList⟩ ' ' = ⟨outer, .type []⟩ := by
    rw [step, if_neg (Bool.eq_false_iff.mp (notPart_of_isSeparator rfl)), if_pos ⟨rfl, rfl⟩]
  rw [show "new ".toList = "new".toList ++ [' '] from rfl, run_append, run_append, run_append,
    keyword, run_cons, run_nil, blank, run_type closed, List.nil_append]
  show run (step _ '(') [] = _
  rw [step, if_pos rfl, String.ofList_toList, run_nil]

end Pieces

-- An object or a callee is read before what stands behind it, under the same open brackets; the
-- items of a list are read one by one, with those before them kept in its bracket.
mutual

/-- Under any open brackets the text of an expression leads from its start to its end. -/
theorem run_text {outer : List OpenList} : ∀ {expr : Expr}, expr.Readable →
    run ⟨outer, .start⟩ expr.text.toList = ⟨outer, endOf expr⟩
  | .ident name, readable => by
      obtain ⟨first, rest, letters, start, parts⟩ := parts_of_isIdentifier readable.1
      rw [letters] at parts
      rw [endOf, Expr.text, letters]
      exact run_start_word (Or.inl (isIdentifierPart_of_start start))
        (List.forall_mem_cons.mp parts).2
  | .string value, _ => by
      rw [Expr.text, endOf]
      exact run_quote value
  | .bool true, _ => run_start_keyword (by decide)
  | .bool false, _ => run_start_keyword (by decide)
  | .integer value, _ => by
      rw [endOf, Expr.text]
      exact run_start_integer value
  | .self, _ => run_start_keyword (by decide)
  | .member object property, readable => by
      have before : run ⟨outer, .start⟩ object.text.toList = ⟨outer, endOf object⟩ :=
        run_text (by simpa only [Expr.Readable] using readable)
      rw [endOf, ← run_member (by simpa only [Expr.Readable] using readable) property, ← before,
        ← run_append, Expr.text]
      split <;> simp
  | .call callee arguments, readable => by
      rw [Expr.Readable] at readable
      have before : run ⟨outer, .start⟩ callee.text.toList = ⟨outer, endOf callee⟩ :=
        run_text readable.1
      rw [Expr.text, String.toList_append, String.toList_append, String.toList_append,
        List.append_assoc, run_append, run_append _ callee.text.toList, before,
        run_opening readable.1]
      exact run_listText (Or.inl rfl) readable.2
  | .construct type arguments, readable => by
      rw [Expr.Readable] at readable
      rw [Expr.text, String.toList_append, String.toList_append, String.toList_append,
        String.toList_append, List.append_assoc, run_append, run_construct readable.1]
      exact run_listText (Or.inl rfl) readable.2
  | .array items, readable => by
      rw [Expr.Readable] at readable
      rw [Expr.text, String.toList_append, String.toList_append, List.append_assoc, run_append]
      exact run_listText (Or.inr rfl) readable

/-- A list is read up to its closing bracket. -/
theorem run_listText {outer : List OpenList} {closing : Char}
    (closes : closing = ')' ∨ closing = ']') : ∀ {items : List Expr} {list : OpenList},
    ReadableItems items →
    run ⟨list :: outer, .start⟩ ((listText items).toList ++ [closing]) =
      ⟨outer, .complete (OpenList.close { list with items := list.items ++ items })⟩
  | [], list, _ => by
      rw [List.append_nil, listText]
      rcases closes with rfl | rfl <;> rfl
  | [item], list, readable => by
      rw [ReadableItems] at readable
      rw [listText, run_append, run_text readable.1, run_closing readable.1 list closes]
      rfl
  | item :: next :: rest, list, readable => by
      rw [ReadableItems] at readable
      rw [listText, String.toList_append, String.toList_append, List.append_assoc,
        List.append_assoc, run_append, run_append, run_text readable.1, run_comma readable.1 list,
        run_listText closes readable.2]
      simp [OpenList.push]

end

theorem result?_endOf {expr : Expr} (readable : expr.Readable) :
    result? ⟨[], endOf expr⟩ = some expr := by
  cases expr with
  | ident name => exact congrArg some (wordExpr_ident readable.1 readable.2)
  | bool value => cases value <;> rfl
  | integer value => exact congrArg some (wordExpr_integer value)
  | member object property =>
      rw [endOf, endOfMember]
      split
      · exact congrArg (some <| Expr.member object ·) String.ofList_toList
      · rfl
  | json value => exact readable.elim
  | cast inner type => exact readable.elim
  | self | string value | call callee arguments | construct type arguments | array items => rfl

end Reader

/-! ## Two expressions of one text -/

/-- A cast of the identifier that is also the keyword for a construction. -/
def Expr.CastsNew (expr : Expr) : Prop := ∃ type, expr = .cast (.ident "new") type

/-- The innermost object, callee or cast expression, which the text starts with. -/
def Expr.head : Expr → Expr
  | .member object _ => object.head
  | .call callee _ => callee.head
  | .cast inner _ => inner.head
  | expr => expr

/-- The text starts with a construction of a type that looks like the target of a cast. -/
def Expr.ConstructsAs (expr : Expr) : Prop :=
  ∃ name arguments, expr.head = .construct ("as " ++ name) arguments

/-- A printable expression is read back, unless it casts the keyword for a construction. -/
theorem read_text {expr : Expr} (printable : expr.Printable) (notNew : ¬ expr.CastsNew) :
    (Reader.run ⟨[], .start⟩ expr.text.toList).result? = some expr := by
  cases expr with
  | cast inner type =>
      have blank : Reader.step ⟨[], Reader.endOf inner⟩ ' ' = ⟨[], .cast inner [' ']⟩ :=
        Reader.step_endOf printable (Reader.notPart_of_isSeparator rfl)
          (fun _ isNew => notNew ⟨type, congrArg (Expr.cast · type) isNew⟩) []
      rw [Expr.text, String.toList_append, String.toList_append, List.append_assoc,
        Reader.run_append, Reader.run_text printable]
      show (Reader.run (Reader.step _ ' ') ("as ".toList ++ type.toList)).result? = _
      rw [blank, Reader.run_cast]
      exact congrArg (some <| Expr.cast inner ·) String.ofList_toList
  | ident _ | string _ | bool _ | integer _ | json _ | self | member _ _ | call _ _ | construct _ _
  | array _ =>
      rw [Reader.run_text printable]
      exact Reader.result?_endOf printable

/-- A word ends where a character follows that is not part of an identifier. -/
theorem takeWhile_word {word tail : List Char} (parts : ∀ part ∈ word, isIdentifierPart part = true)
    (ends : ∀ character ∈ tail.head?, isIdentifierPart character = false) :
    (word ++ tail).takeWhile isIdentifierPart = word := by
  rw [List.takeWhile_append_of_pos parts]
  cases tail with
  | nil => simp
  | cons character later => simp [ends character rfl]

/-- In front of some text that does not go on with its last word, the expression starts like a cast
of the identifier `new` without being that identifier. -/
def Expr.StartsAsCast (expr : Expr) : Prop :=
  ∃ tail rest : List Char, (∀ character ∈ tail.head?, isIdentifierPart character = false) ∧
    (tail.head? = some ' ' → expr ≠ .ident "new") ∧
    expr.text.toList ++ tail = "new as ".toList ++ rest

section StartsAsCast

theorem head?_of_startsAsCast {expr : Expr} (starts : expr.StartsAsCast)
    (nonempty : expr.text.toList ≠ []) : expr.text.toList.head? = some 'n' := by
  obtain ⟨tail, rest, -, -, same⟩ := starts
  obtain ⟨first, later, letters⟩ := List.exists_cons_of_ne_nil nonempty
  rw [letters] at same ⊢
  exact congrArg List.head? (congrArg (List.take 1) same)

theorem not_startsAsCast_ident {name : String} (readable : (Expr.ident name).Readable) :
    ¬ (Expr.ident name).StartsAsCast := by
  rintro ⟨tail, rest, ends, notNew, same⟩
  obtain ⟨-, -, -, -, parts⟩ := Reader.parts_of_isIdentifier readable.1
  have new : name.toList = "new".toList := by
    have words := congrArg (List.takeWhile isIdentifierPart) same
    rwa [Expr.text, takeWhile_word parts ends,
      show "new as ".toList ++ rest = "new".toList ++ (" as ".toList ++ rest) from rfl,
      takeWhile_word (List.all_eq_true.mp (by decide))
        (by simpa using @Reader.notPart_of_isSeparator ' ' rfl)] at words
  have blank : tail.head? = some ' ' := by
    rw [Expr.text, new] at same
    have behind : tail = " as ".toList ++ rest := @List.append_cancel_left _ "new".toList _ _ same
    exact congrArg List.head? behind
  exact notNew blank (congrArg Expr.ident (String.toList_inj.mp new))

theorem startsAsCast_of_append {expr whole : Expr} (first : Char) (later : List Char)
    (text : whole.text.toList = expr.text.toList ++ first :: later)
    (separates : isIdentifierPart first = false) (notBlank : first ≠ ' ')
    (starts : whole.StartsAsCast) : expr.StartsAsCast := by
  obtain ⟨tail, rest, -, -, same⟩ := starts
  refine ⟨first :: (later ++ tail), rest, ?_, ?_, ?_⟩
  · rintro _ ⟨⟩
    exact separates
  · rintro ⟨⟩
    contradiction
  · rw [← same, text, List.append_assoc, List.cons_append]

theorem exists_name_of_startsAsCast {type : String} {arguments : List Expr}
    (starts : (Expr.construct type arguments).StartsAsCast) :
    ∃ name, type = "as " ++ name := by
  obtain ⟨tail, rest, -, -, same⟩ := starts
  have behind : type.toList ++ ('(' :: ((listText arguments).toList ++ ')' :: tail)) =
      "as ".toList ++ rest := by
    refine @List.append_cancel_left _ "new ".toList _ _ (Eq.trans ?_ same)
    simp [Expr.text]
  rcases List.append_eq_append_iff.mp behind with ⟨left, target, closing⟩ | ⟨left, split, -⟩
  · cases left with
    | nil => exact ⟨"", String.toList_inj.mp (by simpa using target.symm)⟩
    | cons first later =>
        obtain ⟨rfl, -⟩ := List.cons.inj closing
        have parenthesis : '(' ∈ "as ".toList := target ▸ by simp
        exact absurd parenthesis (by decide)
  · exact ⟨String.ofList left, String.toList_inj.mp (by simp [split])⟩

end StartsAsCast

/-- Only a construction starts like a cast of the identifier `new`. -/
theorem constructsAs_of_startsAsCast : ∀ {expr : Expr}, expr.Readable → expr.StartsAsCast →
    expr.ConstructsAs
  | .ident _, readable, starts => absurd starts (not_startsAsCast_ident readable)
  | .string value, _, starts => by
      have first := head?_of_startsAsCast starts (by simp [Expr.text, quote])
      simp [Expr.text, quote] at first
  | .bool true, _, starts => absurd (head?_of_startsAsCast starts (by decide)) (by decide)
  | .bool false, _, starts => absurd (head?_of_startsAsCast starts (by decide)) (by decide)
  | .integer value, _, starts => by
      obtain ⟨first, later, letters, kind⟩ := JsonText.toString_start value
      have text : (Expr.integer value).text.toList = first :: later := by rw [Expr.text, letters]
      have start := head?_of_startsAsCast starts (text ▸ List.cons_ne_nil first later)
      rw [text, List.head?_cons, Option.some.injEq] at start
      subst start
      rcases kind with minus | digit <;> contradiction
  | .self, _, starts => absurd (head?_of_startsAsCast starts (by decide)) (by decide)
  | .member object property, readable, starts => by
      rw [Expr.Readable] at readable
      have before : object.StartsAsCast := by
        by_cases identifier : isIdentifier property = true
        · refine startsAsCast_of_append '.' property.toList ?_
            (Reader.notPart_of_isSeparator rfl) (by decide) starts
          simp [Expr.text, identifier]
        · refine startsAsCast_of_append '[' ((quote property).toList ++ [']']) ?_
            (Reader.notPart_of_isSeparator rfl) (by decide) starts
          simp [Expr.text, identifier]
      have within : object.ConstructsAs := constructsAs_of_startsAsCast readable before
      exact within
  | .call callee arguments, readable, starts => by
      rw [Expr.Readable] at readable
      have before : callee.StartsAsCast :=
        startsAsCast_of_append '(' ((listText arguments).toList ++ [')'])
          (by simp [Expr.text]) (Reader.notPart_of_isSeparator rfl) (by decide) starts
      have within : callee.ConstructsAs := constructsAs_of_startsAsCast readable.1 before
      exact within
  | .construct type arguments, _, starts => by
      obtain ⟨name, rfl⟩ := exists_name_of_startsAsCast starts
      exact ⟨name, arguments, rfl⟩
  | .array items, _, starts => by
      have first := head?_of_startsAsCast starts (by simp [Expr.text])
      simp [Expr.text] at first

/-- The other text of a cast of the identifier `new` is that of a construction. -/
theorem constructsAs_of_text_eq {left right : Expr} (new : left.CastsNew)
    (printable : right.Printable) (notNew : ¬ right.CastsNew) (same : left.text = right.text) :
    right.ConstructsAs := by
  obtain ⟨type, rfl⟩ := new
  have text : right.text.toList = "new as ".toList ++ type.toList := by
    rw [← same, Expr.text, String.toList_append, String.toList_append]
    rfl
  cases right with
  | cast inner target =>
      have within : inner.ConstructsAs := by
        refine constructsAs_of_startsAsCast printable
          ⟨" as ".toList ++ target.toList, type.toList, ?_, ?_, ?_⟩
        · simpa using @Reader.notPart_of_isSeparator ' ' rfl
        · exact fun _ isNew => notNew ⟨target, congrArg (Expr.cast · target) isNew⟩
        · rw [← text, Expr.text, String.toList_append, String.toList_append, List.append_assoc]
      exact within
  | ident _ | string _ | bool _ | integer _ | json _ | self | member _ _ | call _ _ | construct _ _
  | array _ =>
      exact constructsAs_of_startsAsCast printable
        ⟨[], type.toList, by simp, by simp, by rw [List.append_nil, text]⟩

/-- Printable expressions of one text are the same, unless one of them casts the identifier `new`
and the other one starts with a construction of a type whose name starts like the rest of a cast. -/
theorem eq_of_text_eq_or_casts_new {left right : Expr} (leftPrintable : left.Printable)
    (rightPrintable : right.Printable) (same : left.text = right.text) :
    left = right ∨ left.CastsNew ∧ right.ConstructsAs ∨ right.CastsNew ∧ left.ConstructsAs := by
  by_cases leftNew : left.CastsNew
  · by_cases rightNew : right.CastsNew
    · obtain ⟨type, rfl⟩ := leftNew
      obtain ⟨target, rfl⟩ := rightNew
      have types : type.toList = target.toList := by
        have texts := congrArg String.toList same
        simpa [Expr.text] using texts
      exact Or.inl (congrArg _ (String.toList_inj.mp types))
    · exact Or.inr (Or.inl ⟨leftNew, constructsAs_of_text_eq leftNew rightPrintable rightNew same⟩)
  · by_cases rightNew : right.CastsNew
    · exact Or.inr
        (Or.inr ⟨rightNew, constructsAs_of_text_eq rightNew leftPrintable leftNew same.symm⟩)
    · have readLeft := read_text leftPrintable leftNew
      rw [same, read_text rightPrintable rightNew] at readLeft
      exact Or.inl (Option.some.inj readLeft).symm

/-- A cast and a construction of one text. -/
theorem text_of_cast_eq_text_of_construction :
    (Expr.cast (.ident "new") "Foo()").Printable ∧ (Expr.construct "as Foo" []).Printable ∧
      (Expr.cast (.ident "new") "Foo()").text = (Expr.construct "as Foo" []).text ∧
      Expr.cast (.ident "new") "Foo()" ≠ .construct "as Foo" [] :=
  ⟨⟨by decide +kernel, by decide, by decide, by decide⟩, ⟨by decide, trivial⟩, by decide +kernel,
    Expr.noConfusion⟩

theorem cast_of_new_or_construction :
    Expr.cast (.ident "new") "Foo()" = .construct "as Foo" [] ∨
      (Expr.cast (.ident "new") "Foo()").CastsNew ∧ (Expr.construct "as Foo" []).ConstructsAs ∨
      (Expr.construct "as Foo" []).CastsNew ∧
        (Expr.cast (.ident "new") "Foo()").ConstructsAs :=
  eq_of_text_eq_or_casts_new ⟨by decide +kernel, by decide, by decide, by decide⟩
    ⟨by decide, trivial⟩ (by decide +kernel)

end Homeplan.TypeScript
