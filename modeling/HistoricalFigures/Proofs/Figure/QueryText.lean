import HistoricalFigures.Figure.QueryText
import HistoricalFigures.Proofs.Query.Kind
import HistoricalFigures.Proofs.Text.Search
import HistoricalFigures.Proofs.Unicode.Ascii

/-!
**What a text that is put into a query can make of it.** The query is told to be a change only if
that text mentions one: the marks around it are part of no phrase, and the rest of the query has
none.

* `IsQuiet`: a text without the first words of those phrases.
* `infix_of_spliced`: a phrase in a text that was put between two marks, or behind it.
* `searchQuery_eq`: the lines of a search that depend on its term, and those that do not.
* `mentionsUpdate_of_searchQuery`, `mentionsUpdate_of_describeQuery`: the two queries that a text is
  put into.
-/
namespace HistoricalFigures.Figure

open Query (IsUpdatePhrase MentionsUpdate)
open Unicode (uppercase uppercaseChar)

/-! ### Marks -/

/-- What goes beyond neither side of a character that it does not have lies on one of them. -/
theorem infix_of_infix_append_cons {word first rest : List Char} {mark : Char}
    (absent : mark ∉ word) (inside : word <:+: first ++ mark :: rest) :
    word <:+: first ∨ word <:+: rest := by
  -- A stretch that begins at the mark, or goes beyond it, has it.
  rcases List.infix_append_iff.mp inside with before | behind | ⟨front, back, rfl, isEnd, start⟩
  · exact .inl before
  · rcases List.infix_cons_iff.mp behind with start | later
    · cases word with
      | nil => exact .inl List.nil_infix
      | cons c word =>
        obtain ⟨rfl, _⟩ := List.cons_prefix_cons.mp start
        exact absurd List.mem_cons_self absent
    · exact .inr later
  · cases back with
    | nil =>
      rw [List.append_nil]
      exact .inl isEnd.isInfix
    | cons c back =>
      obtain ⟨rfl, _⟩ := List.cons_prefix_cons.mp start
      exact absurd (List.mem_append_right front List.mem_cons_self) absent

/-- The letters of the phrases that tell a change, with the space between two of their words. -/
def phraseChars : List Char := ['I', 'N', 'S', 'E', 'R', 'T', ' ', 'D', 'A', 'L', 'W', 'H']

/-- A character that is its own upper case and no part of a phrase that tells a change. -/
def IsMark (c : Char) : Prop :=
  uppercaseChar c = [c] ∧ Unicode.isBlank c = false ∧ c ∉ phraseChars

instance (c : Char) : Decidable (IsMark c) := inferInstanceAs (Decidable (_ ∧ _ ∧ _))

/-- A phrase that tells a change consists of blanks and of those letters. -/
theorem mem_of_isUpdatePhrase {phrase : List Char} (tells : IsUpdatePhrase phrase) :
    ∀ c ∈ phrase, Unicode.isBlank c = true ∨ c ∈ phraseChars := by
  have inserts : "INSERT DATA".toList ⊆ phraseChars := by decide
  have deletes : "DELETE".toList ⊆ phraseChars := by decide
  have selects : "WHERE".toList ⊆ phraseChars := by decide
  intro c member
  rcases tells with rfl | ⟨blanks, _, areBlanks, rfl⟩
  · exact .inr (inserts member)
  · rcases List.mem_append.mp member with first | rest
    · exact .inr (deletes first)
    · rcases List.mem_append.mp rest with between | second
      · exact .inl (areBlanks c between)
      · exact .inr (selects second)

theorem notMem_of_isMark {mark : Char} (isMark : IsMark mark) {phrase : List Char}
    (tells : IsUpdatePhrase phrase) : mark ∉ phrase := by
  intro member
  rcases mem_of_isUpdatePhrase tells mark member with blank | letter
  · rw [isMark.2.1] at blank
    cases blank
  · exact isMark.2.2 letter

theorem uppercase_append_mark {mark : Char} (own : uppercaseChar mark = [mark])
    (first rest : List Char) :
    uppercase (first ++ mark :: rest) = uppercase first ++ mark :: uppercase rest := by
  rw [uppercase, List.flatMap_append, List.flatMap_cons, own]
  rfl

/-! ### Texts without the words of changes -/

/-- The words that phrases that tell a change begin with. -/
def updateWords : List (List Char) := ["INSERT".toList, "DELETE".toList]

/-- A text in which, in whatever case, none of the words occurs that such phrases begin with. -/
def IsQuiet (text : List Char) : Prop := ∀ word ∈ updateWords, ¬ word <:+: uppercase text

/-- A phrase that tells a change begins with one of the words. -/
theorem exists_updateWord {phrase : List Char} (tells : IsUpdatePhrase phrase) :
    ∃ word ∈ updateWords, word <:+: phrase := by
  rcases tells with rfl | ⟨blanks, _, _, rfl⟩
  · exact ⟨"INSERT".toList, by simp [updateWords], [], " DATA".toList, by decide⟩
  · exact ⟨"DELETE".toList, by simp [updateWords], List.infix_append_left⟩

theorem IsQuiet.not_isInfix {text : List Char} (quiet : IsQuiet text) {phrase : List Char}
    (tells : IsUpdatePhrase phrase) : ¬ phrase <:+: uppercase text := by
  obtain ⟨word, member, start⟩ := exists_updateWord tells
  exact fun inside => quiet word member (start.trans inside)

theorem IsQuiet.append_line {first rest : List Char} (before : IsQuiet first)
    (behind : IsQuiet rest) : IsQuiet (first ++ '\n' :: rest) := by
  intro word member inside
  have own : uppercaseChar '\n' = ['\n'] := by decide
  have absent : '\n' ∉ word := by
    simp only [updateWords, List.mem_cons, List.not_mem_nil, or_false] at member
    rcases member with rfl | rfl <;> decide
  rw [uppercase_append_mark own] at inside
  rcases infix_of_infix_append_cons absent inside with here | there
  · exact before word member here
  · exact behind word member there

/-- Whether a text has plain characters only and none of the words. -/
def isPlainlyQuiet (text : List Char) : Bool :=
  text.all (fun c => c.toNat < 128) &&
    updateWords.all fun word => !Text.contains word (text.map Char.toUpper)

theorem isQuiet_of_isPlainlyQuiet {text : List Char} (plain : isPlainlyQuiet text = true) :
    IsQuiet text := by
  rw [isPlainlyQuiet, Bool.and_eq_true] at plain
  intro word member inside
  rw [Unicode.uppercase_of_ascii plain.1] at inside
  have absent := List.all_eq_true.mp plain.2 word member
  rw [Text.contains_of_infix inside] at absent
  cases absent

/-- A text that is written out is quiet if its characters are. -/
theorem isQuiet_of_eq {text : String} {chars : List Char} (written : text = String.ofList chars)
    (plain : isPlainlyQuiet chars = true) : IsQuiet text.toList := by
  rw [Text.toList_of_eq written]
  exact isQuiet_of_isPlainlyQuiet plain

/-! ### Texts put into queries -/

/-- **A phrase in a text that was put between two marks, or behind it**, where nothing before it has
one. -/
theorem infix_of_spliced {first last : Char} (isFirst : IsMark first) (isLast : IsMark last)
    {before : List Char} (quiet : IsQuiet before) {spliced behind phrase : List Char}
    (tells : IsUpdatePhrase phrase)
    (inside : phrase <:+: uppercase (before ++ first :: (spliced ++ last :: behind))) :
    phrase <:+: uppercase spliced ∨ phrase <:+: uppercase behind := by
  rw [uppercase_append_mark isFirst.1, uppercase_append_mark isLast.1] at inside
  rcases infix_of_infix_append_cons (notMem_of_isMark isFirst tells) inside with early | later
  · exact absurd early (quiet.not_isInfix tells)
  · exact infix_of_infix_append_cons (notMem_of_isMark isLast tells) later

theorem toList_lines (texts : List String) :
    (Text.lines texts).toList = texts.flatMap fun text => text.toList ++ ['\n'] := by
  rw [Text.lines, String.toList_join, List.flatMap_map]
  simp only [String.toList_append, String.reduceToList]

theorem isQuiet_lines {texts : List String} (each : ∀ text ∈ texts, IsQuiet text.toList)
    {rest : List Char} (behind : IsQuiet rest) : IsQuiet ((Text.lines texts).toList ++ rest) := by
  rw [toList_lines]
  induction texts with
  | nil => exact behind
  | cons text later found =>
    obtain ⟨here, others⟩ := List.forall_mem_cons.mp each
    rw [List.flatMap_cons, List.append_assoc, List.append_assoc, List.singleton_append]
    exact here.append_line (found others)

theorem isQuiet_declarations {rest : List Char} (behind : IsQuiet rest) :
    IsQuiet (declarations.toList ++ rest) := by
  refine isQuiet_lines ?_ behind
  simp only [List.forall_mem_cons, List.not_mem_nil, false_imp_iff, implies_true, and_true]
  constructor <;> exact isQuiet_of_eq rfl (by decide)

/-- The patterns of a search that need not hold. -/
def searchOptions : List String := [
  "?persona phb:resumen ?descripcion", "?persona phb:fechaNacimiento ?fechaNacimiento",
  "?persona phb:fechaFallecimiento ?fechaFallecimiento",
  "?persona phb:lugarNacimiento ?lugarNacimiento",
  "?persona phb:lugarFallecimiento ?lugarFallecimiento", "?persona phb:nacionalidad ?nacionalidad",
  "?persona phb:ocupacion ?ocupacion", "?persona phb:imagenReferencia ?imagenReferencia"]

/-- The patterns of a search. -/
def searchPatterns : List String :=
  ["  ?persona rdf:type phb:PersonaHistoricaBoliviana .", "  ?persona phb:nombre ?nombre ."] ++
    searchOptions.map (fun pattern => "  " ++ Text.optionalClause pattern) ++ [""]

/-- The lines of a search behind its declarations, up to the term. -/
def searchFront : List String :=
  ["PREFIX rdfs: <http://www.w3.org/2000/01/rdf-schema#>", "",
    "SELECT ?persona ?nombre ?descripcion ?fechaNacimiento ?fechaFallecimiento",
    "       ?lugarNacimiento ?lugarFallecimiento ?nacionalidad ?ocupacion ?imagenReferencia",
    "WHERE \x7b"] ++ searchPatterns ++ ["  FILTER("]

/-- The lines of a search behind the term. -/
def searchBack : List String := ["  )", "\x7d", "ORDER BY ?nombre", "LIMIT 50"]

/-- Only two lines of a search depend on the term. -/
theorem searchQuery_eq (term : String) : searchQuery term = declarations ++
    Text.lines (searchFront ++ ["    " ++ containsClause "nombre" term ++ " ||",
      "    " ++ containsClause "descripcion" term] ++ searchBack) := rfl

/-- The patterns of a search are quiet. -/
theorem isQuiet_searchPatterns : ∀ text ∈ searchPatterns, IsQuiet text.toList := by
  unfold searchPatterns searchOptions
  simp only [List.cons_append, List.nil_append, List.map_cons, List.map_nil, List.forall_mem_cons,
    List.not_mem_nil, false_imp_iff, implies_true, and_true, Text.optionalClause,
    String.toList_append]
  refine ⟨isQuiet_of_eq rfl (by decide), isQuiet_of_eq rfl (by decide),
    ?_, ?_, ?_, ?_, ?_, ?_, ?_, ?_, isQuiet_of_eq rfl (by decide)⟩ <;>
  · rw [Text.toList_of_eq rfl, Text.toList_of_eq rfl, Text.toList_of_eq rfl, Text.toList_of_eq rfl]
    exact isQuiet_of_isPlainlyQuiet (by decide)

theorem isQuiet_searchFront : ∀ text ∈ searchFront, IsQuiet text.toList := by
  unfold searchFront
  simp only [List.forall_mem_append, List.forall_mem_cons, List.not_mem_nil, false_imp_iff,
    implies_true, and_true]
  refine ⟨⟨⟨?_, ?_, ?_, ?_, ?_⟩, isQuiet_searchPatterns⟩, ?_⟩ <;>
    exact isQuiet_of_eq rfl (by decide)

theorem isQuiet_searchBack : ∀ text ∈ searchBack, IsQuiet text.toList := by
  unfold searchBack
  simp only [List.forall_mem_cons, List.not_mem_nil, false_imp_iff, implies_true, and_true]
  refine ⟨?_, ?_, ?_, ?_⟩ <;> exact isQuiet_of_eq rfl (by decide)

/-- The lines of a description: only one of them depends on the resource, and the others are
quiet. -/
theorem describeQuery_eq : ∃ before behind : List String,
    (∀ line ∈ before, IsQuiet line.toList) ∧ (∀ line ∈ behind, IsQuiet line.toList) ∧
      ∀ uri, describeQuery uri = declarations ++ Text.lines (before ++
        ["  <" ++ uri ++ "> ?predicado ?valor ."] ++ behind) := by
  refine ⟨[_, _, _], [_], ?_, ?_, fun term => rfl⟩
  · simp only [List.forall_mem_cons, List.not_mem_nil, false_imp_iff, implies_true, and_true]
    refine ⟨?_, ?_, ?_⟩ <;> exact isQuiet_of_eq rfl (by decide)
  · simp only [List.forall_mem_cons, List.not_mem_nil, false_imp_iff, implies_true, and_true]
    exact isQuiet_of_eq rfl (by decide)

/-- What a search asks of one variable, before the quote in front of the term. -/
def clauseStart (name : String) : List Char :=
  "CONTAINS(REPLACE(LCASE(?".toList ++ name.toList ++
    "), \x22[\\\\u0300-\\\\u036f]\x22, \x22\x22), ".toList

/-- The term stands between quotes. -/
theorem toList_containsClause (name term : String) :
    (containsClause name term).toList =
      clauseStart name ++ '\x22' :: (term.toList ++ '\x22' :: [')']) := by
  unfold containsClause clauseStart
  simp only [String.toList_append, String.reduceToList, List.append_assoc, List.cons_append,
    List.nil_append]

/-- **A search is told to be a change only if its term mentions one.** -/
theorem mentionsUpdate_of_searchQuery {term : String}
    (mentions : MentionsUpdate (searchQuery term)) : MentionsUpdate term := by
  obtain ⟨phrase, tells, inside⟩ := mentions
  have quote : IsMark '\x22' := by decide
  have quietFirst : IsQuiet (' ' :: ' ' :: ' ' :: ' ' :: clauseStart "nombre") := by
    unfold clauseStart
    simp only [String.reduceToList, List.cons_append, List.nil_append]
    exact isQuiet_of_isPlainlyQuiet (by decide)
  have quietBetween : IsQuiet [')', ' ', '|', '|'] := isQuiet_of_isPlainlyQuiet (by decide)
  have quietSecond : IsQuiet (' ' :: ' ' :: ' ' :: ' ' :: clauseStart "descripcion") := by
    unfold clauseStart
    simp only [String.reduceToList, List.cons_append, List.nil_append]
    exact isQuiet_of_isPlainlyQuiet (by decide)
  have quietEnd : IsQuiet [')'] := isQuiet_of_isPlainlyQuiet (by decide)
  have quietNothing : IsQuiet [] := isQuiet_of_isPlainlyQuiet (by decide)
  have text : (searchQuery term).toList =
      (declarations.toList ++ ((Text.lines searchFront).toList ++
        ' ' :: ' ' :: ' ' :: ' ' :: clauseStart "nombre")) ++ '\x22' :: (term.toList ++ '\x22' ::
          (([')', ' ', '|', '|'] ++ '\n' ::
            ' ' :: ' ' :: ' ' :: ' ' :: clauseStart "descripcion") ++ '\x22' ::
              (term.toList ++ '\x22' :: ([')'] ++ '\n' :: ((Text.lines searchBack).toList ++ []))))) := by
    rw [searchQuery_eq]
    simp only [String.toList_append, toList_lines, toList_containsClause, List.flatMap_append,
      List.flatMap_cons, String.reduceToList, List.append_assoc, List.cons_append,
      List.nil_append, List.append_nil]
  rw [text] at inside
  -- The term stands in the text twice, and no phrase reaches over the quotes around it.
  have quietBefore' := isQuiet_declarations (isQuiet_lines isQuiet_searchFront quietFirst)
  have quietBehind' := quietEnd.append_line (isQuiet_lines isQuiet_searchBack quietNothing)
  rcases infix_of_spliced quote quote quietBefore' tells inside with here | later
  · exact ⟨phrase, tells, here⟩
  · rcases infix_of_spliced quote quote (quietBetween.append_line quietSecond) tells later with
      here | last
    · exact ⟨phrase, tells, here⟩
    · exact absurd last (quietBehind'.not_isInfix tells)

/-- **A description is told to be a change only if the resource mentions one.** -/
theorem mentionsUpdate_of_describeQuery {uri : String}
    (mentions : MentionsUpdate (describeQuery uri)) : MentionsUpdate uri := by
  obtain ⟨phrase, tells, inside⟩ := mentions
  obtain ⟨before, behind, quietBefore, quietBehind, whole⟩ := describeQuery_eq
  have opens : IsMark '<' := by decide
  have closes : IsMark '>' := by decide
  have quietStart : IsQuiet [' ', ' '] := isQuiet_of_isPlainlyQuiet (by decide)
  have quietEnd : IsQuiet " ?predicado ?valor .".toList := by
    simp only [String.reduceToList]
    exact isQuiet_of_isPlainlyQuiet (by decide)
  have quietNothing : IsQuiet [] := isQuiet_of_isPlainlyQuiet (by decide)
  have text : (describeQuery uri).toList =
      (declarations.toList ++ ((Text.lines before).toList ++ [' ', ' '])) ++ '<' ::
        (uri.toList ++ '>' :: (" ?predicado ?valor .".toList ++ '\n' ::
          ((Text.lines behind).toList ++ []))) := by
    rw [whole]
    simp only [String.toList_append, toList_lines, List.flatMap_append, List.flatMap_cons,
      String.reduceToList, List.append_assoc, List.cons_append, List.nil_append,
      List.append_nil]
  rw [text] at inside
  have quietBefore' := isQuiet_declarations (isQuiet_lines quietBefore quietStart)
  have quietBehind' := quietEnd.append_line (isQuiet_lines quietBehind quietNothing)
  rcases infix_of_spliced opens closes quietBefore' tells inside with here | later
  · exact ⟨phrase, tells, here⟩
  · exact absurd later (quietBehind'.not_isInfix tells)

end HistoricalFigures.Figure
