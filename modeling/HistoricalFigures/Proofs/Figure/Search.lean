import HistoricalFigures.Proofs.Dataset.Runs
import HistoricalFigures.Proofs.Figure.QueryText
import HistoricalFigures.Proofs.Figure.Rows
import HistoricalFigures.Proofs.Query.Insertion
import HistoricalFigures.Proofs.Query.Selection
import HistoricalFigures.Proofs.Rdf.Store

/-!
**What a search for figures gives.** The term is written into a query between quotes, and whatever it
holds, the query searches for that term and for no other one.

* `searchText`, `toList_searchQuery`: the text of a search, taken apart at its words.
* `rawTerm_searchText`: the term is found in it again.
* `parse_searchQuery`: the query that it writes.
* `classify_searchQuery`, `findFirst_describedSubject_searchQuery`: terms whose search is a selection
  of figures.
* `run_search`: the figures that a search gives.
-/
namespace HistoricalFigures.Figure

open Query (MentionsUpdate containsTest passed quotedText)
open Rdf (Store)
open Text (lacksWord lacksWord_append lacksWord_cons lacksWord_of_eq toList_of_eq)

/-! ### The text of a search -/

/-- The declarations of a query begin with a capital. -/
theorem exists_declarations : ∃ behind, declarations.toList = 'P' :: behind := by
  obtain ⟨behind, starts⟩ : ∃ behind,
      "PREFIX rdf: <http://www.w3.org/1999/02/22-rdf-syntax-ns#>".toList = 'P' :: behind :=
    ⟨_, toList_of_eq rfl⟩
  unfold declarations
  rw [toList_lines, List.flatMap_cons, starts]
  exact ⟨_, rfl⟩

theorem quote_notMem_declarations : '\x22' ∉ declarations.toList := by
  unfold declarations
  rw [toList_lines]
  simp only [List.flatMap_cons, List.flatMap_nil, List.append_nil]
  rw [toList_of_eq rfl, toList_of_eq rfl]
  decide

/-- The declarations that a search begins with. -/
def searchLead : List Char :=
  declarations.toList ++ "PREFIX rdfs: <http://www.w3.org/2000/01/rdf-schema#>".toList ++ ['\n']

/-- The variables that a search selects. -/
def searchSelected : List Char :=
  " ?persona ?nombre ?descripcion ?fechaNacimiento ?fechaFallecimiento".toList ++ '\n' ::
    "       ?lugarNacimiento ?lugarFallecimiento ?nacionalidad ?ocupacion ?imagenReferencia".toList

/-- What a search says behind its patterns up to the last space before its filter. -/
def searchBody : List Char := '\n' :: ((Text.lines searchPatterns).toList ++ [' '])

/-- The arguments of the first test of a search in front of its term. -/
def searchArguments : List Char :=
  "REPLACE(LCASE(?".toList ++ "nombre".toList ++
    "), \x22[\\\\u0300-\\\\u036f]\x22, \x22\x22), ".toList

/-- What stands behind the first test of a search. -/
def searchRest (term : List Char) : List Char :=
  " ||".toList ++ '\n' :: ("    ".toList ++ (clauseStart "descripcion" ++ '\x22' :: (term ++
    '\x22' :: ')' :: '\n' :: ("  )".toList ++ '\n' :: ("\x7d".toList ++ '\n' ::
      ("ORDER BY ?nombre".toList ++ '\n' :: "LIMIT 50".toList))))))

/-- The text of a search in which a term is written, in front of what follows its first test. -/
def searchText (term rest : List Char) : List Char :=
  searchLead ++ '\n' :: ("SELECT".toList ++ (searchSelected ++ '\n' :: ("WHERE".toList ++ ' ' ::
    '\x7b' :: (searchBody ++ ' ' :: ("FILTER".toList ++ '(' :: (['\n', ' ', ' ', ' '] ++ ' ' ::
      ("CONTAINS".toList ++ '(' :: (searchArguments ++ '\x22' :: (term ++ '\x22' :: ')' ::
        rest)))))))))

/-- A search asks of the name first. -/
theorem clauseStart_nombre :
    clauseStart "nombre" = "CONTAINS".toList ++ '(' :: searchArguments := by
  have call : "CONTAINS(REPLACE(LCASE(?".toList =
      "CONTAINS".toList ++ '(' :: "REPLACE(LCASE(?".toList := by
    rw [toList_of_eq rfl, toList_of_eq rfl, toList_of_eq rfl]
    rfl
  unfold clauseStart searchArguments
  rw [call]
  simp only [List.append_assoc, List.cons_append]

/-- **The text of a search**, up to the line feed at its end. -/
theorem toList_searchQuery (term : String) : (searchQuery term).toList =
    searchText term.toList (searchRest term.toList) ++ ['\n'] := by
  have selects :
      "SELECT ?persona ?nombre ?descripcion ?fechaNacimiento ?fechaFallecimiento".toList =
        "SELECT".toList ++
          " ?persona ?nombre ?descripcion ?fechaNacimiento ?fechaFallecimiento".toList := by
    rw [toList_of_eq rfl, toList_of_eq rfl, toList_of_eq rfl]
    rfl
  have opens : "WHERE \x7b".toList = "WHERE".toList ++ [' ', '\x7b'] := by
    rw [toList_of_eq rfl, toList_of_eq rfl]
    rfl
  have filters : "  FILTER(".toList = ' ' :: ' ' :: ("FILTER".toList ++ ['(']) := by
    rw [toList_of_eq rfl, toList_of_eq rfl]
    rfl
  have indent : "    ".toList = [' ', ' ', ' ', ' '] := toList_of_eq rfl
  have empty : "".toList = [] := toList_of_eq rfl
  rw [searchQuery_eq, String.toList_append, toList_lines]
  unfold searchFront searchBack searchText searchRest searchLead searchSelected searchBody
  rw [toList_lines]
  simp only [List.flatMap_append, List.flatMap_cons, List.flatMap_nil, String.toList_append,
    toList_containsClause, clauseStart_nombre, selects, opens, filters, indent, empty,
    List.append_assoc, List.cons_append, List.nil_append, List.append_nil]

/-- The line feed at its end is all that is cut off a search. -/
theorem trim_searchQuery (term : String) :
    Unicode.trim (searchQuery term).toList = searchText term.toList (searchRest term.toList) := by
  have first : ∃ behind, searchText term.toList (searchRest term.toList) = 'P' :: behind := by
    obtain ⟨behind, starts⟩ := exists_declarations
    unfold searchText searchLead
    rw [starts]
    exact ⟨_, rfl⟩
  have last : ∃ before, searchText term.toList (searchRest term.toList) = before ++ ['0'] := by
    have limits : "LIMIT 50".toList = "LIMIT 5".toList ++ ['0'] := by
      rw [toList_of_eq rfl, toList_of_eq rfl]
      rfl
    unfold searchText searchRest
    simp only [limits, ← List.append_assoc, ← List.cons_append]
    exact ⟨_, rfl⟩
  obtain ⟨behind, first⟩ := first
  obtain ⟨before, last⟩ := last
  have cut := Query.trim_append (.of [] rfl) (.of ['\n'] rfl) first last (by decide) (by decide)
  rw [List.nil_append] at cut
  rw [toList_searchQuery, cut]

/-! ### The words of a search -/

/-- The texts of a search between its declarations and its filter. -/
def searchTexts : List String := [
  "SELECT", "WHERE",
  " ?persona ?nombre ?descripcion ?fechaNacimiento ?fechaFallecimiento",
  "       ?lugarNacimiento ?lugarFallecimiento ?nacionalidad ?ocupacion ?imagenReferencia",
  "  ?persona rdf:type phb:PersonaHistoricaBoliviana .", "  ?persona phb:nombre ?nombre .", "",
  "  ", "OPTIONAL \x7b ", " \x7d"] ++ searchOptions

section Lacks

variable {word : List Char}

theorem lacksWord_lines {texts : List String} (feed : lacksWord word ['\n'] = true)
    (each : ∀ text ∈ texts, lacksWord word text.toList = true) :
    lacksWord word (Text.lines texts).toList = true := by
  rw [toList_lines]
  exact Text.lacksWord_flatMap fun text member => lacksWord_append (each text member) feed

/-- The declarations of a query do not mention a word. -/
theorem lacksWord_declarations (feed : lacksWord word ['\n'] = true)
    (each : ∀ text ∈ ["PREFIX rdf: <http://www.w3.org/1999/02/22-rdf-syntax-ns#>",
      "PREFIX phb: <http://example.org/personasHistoricasBolivianas#>"],
        lacksWord word text.toList = true) : lacksWord word declarations.toList = true :=
  lacksWord_lines feed each

/-- The declarations of a search do not mention a word. -/
theorem lacksWord_searchLead (feed : lacksWord word ['\n'] = true)
    (each : ∀ text ∈ ["PREFIX rdf: <http://www.w3.org/1999/02/22-rdf-syntax-ns#>",
      "PREFIX phb: <http://example.org/personasHistoricasBolivianas#>",
      "PREFIX rdfs: <http://www.w3.org/2000/01/rdf-schema#>"], lacksWord word text.toList = true) :
    lacksWord word searchLead = true := by
  rw [List.forall_mem_cons, List.forall_mem_cons] at each
  obtain ⟨first, second, third⟩ := each
  unfold searchLead
  refine lacksWord_append (lacksWord_append (lacksWord_declarations feed ?_) ?_) feed
  · exact List.forall_mem_cons.mpr ⟨first, List.forall_mem_cons.mpr
      ⟨second, fun _ member => absurd member List.not_mem_nil⟩⟩
  · exact third _ List.mem_cons_self

/-- The patterns of a search do not mention a word. -/
theorem lacksWord_searchPatterns (each : ∀ text ∈ searchTexts, lacksWord word text.toList = true) :
    ∀ text ∈ searchPatterns, lacksWord word text.toList = true := by
  unfold searchTexts at each
  simp only [List.cons_append, List.nil_append, List.forall_mem_cons] at each
  obtain ⟨_, _, _, _, typed, named, empty, indent, opens, closes, options⟩ := each
  unfold searchPatterns
  simp only [List.cons_append, List.nil_append, List.forall_mem_cons, List.forall_mem_append,
    List.forall_mem_map]
  refine ⟨typed, named, fun pattern member => ?_, empty,
    fun _ member => absurd member List.not_mem_nil⟩
  rw [Text.optionalClause, String.toList_append, String.toList_append, String.toList_append]
  exact lacksWord_append indent
    (lacksWord_append (lacksWord_append opens (options pattern member)) closes)

/-- **What stands between the declarations and the filter of a search does not mention a word** that
none of its texts mentions. -/
theorem lacksWord_searchTexts (marks : ['\n', ' ', '\x7b'].all (fun c => lacksWord word [c]) = true)
    (each : ∀ text ∈ searchTexts, lacksWord word text.toList = true) {later : List Char}
    (behind : lacksWord word later = true) :
    lacksWord word ("SELECT".toList ++ (searchSelected ++ '\n' :: ("WHERE".toList ++ ' ' ::
      '\x7b' :: (searchBody ++ later)))) = true := by
  have patterns := lacksWord_searchPatterns each
  rw [List.all_eq_true] at marks
  unfold searchTexts at each
  simp only [List.cons_append, List.nil_append, List.forall_mem_cons] at each marks
  obtain ⟨select, where_, first, second, _⟩ := each
  obtain ⟨feed, space, brace, _⟩ := marks
  unfold searchSelected searchBody
  refine lacksWord_append select (lacksWord_append ?_ (lacksWord_cons feed
    (lacksWord_append where_ (lacksWord_cons space (lacksWord_cons brace
      (lacksWord_append ?_ behind))))))
  · exact lacksWord_append first (lacksWord_cons feed second)
  · exact lacksWord_cons feed (lacksWord_append (lacksWord_lines feed patterns) space)

end Lacks

/-- No word that selects is among the declarations of a query. -/
theorem lacksWord_select_declarations :
    lacksWord "select".toList (declarations.toList ++ ['\n']) = true := by
  rw [toList_of_eq rfl]
  refine lacksWord_append (lacksWord_declarations (by decide) ?_) (by decide)
  simp only [List.forall_mem_cons, List.not_mem_nil, false_imp_iff, implies_true, and_true]
  refine ⟨?_, ?_⟩ <;> exact lacksWord_of_eq rfl (by decide)

/-- No word that selects comes before that of a search. -/
theorem lacksWord_select : lacksWord "select".toList (searchLead ++ ['\n']) = true := by
  rw [toList_of_eq rfl]
  refine lacksWord_append (lacksWord_searchLead (by decide) ?_) (by decide)
  simp only [List.forall_mem_cons, List.not_mem_nil, false_imp_iff, implies_true, and_true]
  refine ⟨?_, ?_, ?_⟩ <;> exact lacksWord_of_eq rfl (by decide)

/-- The variables of a search do not mention where it looks. -/
theorem lacksWord_where : lacksWord "where".toList (searchSelected ++ ['\n']) = true := by
  unfold searchSelected
  rw [toList_of_eq rfl, toList_of_eq rfl, toList_of_eq rfl]
  decide

/-- No filter comes before that of a search. -/
theorem lacksWord_filter : lacksWord "filter".toList
    (searchLead ++ '\n' :: ("SELECT".toList ++ (searchSelected ++ '\n' :: ("WHERE".toList ++ ' ' ::
      '\x7b' :: (searchBody ++ [' ']))))) = true := by
  rw [(toList_of_eq rfl : "filter".toList = _)]
  refine lacksWord_append (lacksWord_searchLead (by decide) ?_) (lacksWord_cons (by decide)
    (lacksWord_searchTexts (by decide) ?_ (by decide)))
  · simp only [List.forall_mem_cons, List.not_mem_nil, false_imp_iff, implies_true, and_true]
    refine ⟨?_, ?_, ?_⟩ <;> exact lacksWord_of_eq rfl (by decide)
  · unfold searchTexts searchOptions
    simp only [List.cons_append, List.nil_append, List.forall_mem_cons, List.not_mem_nil,
      false_imp_iff, implies_true, and_true]
    refine ⟨?_, ?_, ?_, ?_, ?_, ?_, ?_, ?_, ?_, ?_, ?_, ?_, ?_, ?_, ?_, ?_, ?_, ?_⟩ <;>
      exact lacksWord_of_eq rfl (by decide)

/-! ### What a search asks for -/

/-- The variables of a figure are selected. -/
theorem projectedVariables_searchSelected :
    Query.projectedVariables (searchSelected ++ ['\n']) = figureVariables := by
  unfold searchSelected
  rw [toList_of_eq rfl, toList_of_eq rfl]
  decide

/-- The arguments of the first test, taken apart at their quotes. -/
theorem searchArguments_eq : searchArguments =
    "REPLACE(LCASE(?nombre), ".toList ++ '\x22' :: ("[\\\\u0300-\\\\u036f]".toList ++ '\x22' ::
      (", ".toList ++ '\x22' :: '\x22' :: "), ".toList)) := by
  unfold searchArguments
  rw [toList_of_eq rfl, toList_of_eq rfl, toList_of_eq rfl, toList_of_eq rfl, toList_of_eq rfl,
    toList_of_eq rfl, toList_of_eq rfl]
  rfl

/-- The parentheses of the arguments are closed. -/
theorem passed_searchArguments : passed .outside 0 searchArguments = some (.outside, 0) := by
  rw [searchArguments_eq, toList_of_eq rfl, toList_of_eq rfl, toList_of_eq rfl, toList_of_eq rfl]
  decide

/-- The arguments hold two strings: the diacritics, and nothing that takes their place. -/
theorem findAll_searchArguments (later : List Char) :
    Text.findAll quotedText (searchArguments ++ later) =
      ["[\\\\u0300-\\\\u036f]".toList, []] ++ Text.findAll quotedText later := by
  have unquoted : '\x22' ∉ "REPLACE(LCASE(?nombre), ".toList ∧ '\x22' ∉ ", ".toList ∧
      '\x22' ∉ "), ".toList := by
    rw [toList_of_eq rfl, toList_of_eq rfl, toList_of_eq rfl]
    decide
  have marks : ∀ rest, Query.upToQuote? ("[\\\\u0300-\\\\u036f]".toList ++ '\x22' :: rest) =
      some "[\\\\u0300-\\\\u036f]".toList := by
    intro rest
    rw [toList_of_eq rfl]
    rfl
  have nothing : ∀ rest, Text.findAll quotedText ('\x22' :: '\x22' :: rest) =
      [] :: Text.findAll quotedText rest := fun rest =>
    @Query.findAll_quotedText [] rest rfl
  rw [searchArguments_eq]
  simp only [List.append_assoc, List.cons_append]
  rw [Text.findAll_append_of_misses Query.looksAhead_quotedText
      (Query.misses_quotedText unquoted.1 _),
    Query.findAll_quotedText (marks _),
    Text.findAll_append_of_misses Query.looksAhead_quotedText
      (Query.misses_quotedText unquoted.2.1 _),
    nothing, Text.findAll_append_of_misses Query.looksAhead_quotedText
      (Query.misses_quotedText unquoted.2.2 _)]
  rfl

/-- **The term of a search is found again on one line**, whatever it is. -/
theorem rawTerm_searchText (term : String) (rest : List Char) :
    Query.rawTerm (searchText (Literal.escapeLiteral term).toList rest) =
      (Literal.unbroken term).toList := by
  have whole : searchText (Literal.escapeLiteral term).toList rest =
      (searchLead ++ '\n' :: ("SELECT".toList ++ (searchSelected ++ '\n' :: ("WHERE".toList ++ ' ' ::
        '\x7b' :: searchBody)))) ++ ' ' :: ("FILTER".toList ++ '(' :: (['\n', ' ', ' ', ' '] ++
          ' ' :: containsTest searchArguments (Literal.unbroken term).toList rest)) := by
    unfold searchText containsTest
    rw [Literal.toList_escapeLiteral]
    simp only [List.append_assoc, List.cons_append]
  have quiet : lacksWord "filter".toList ((searchLead ++ '\n' :: ("SELECT".toList ++
      (searchSelected ++ '\n' :: ("WHERE".toList ++ ' ' :: '\x7b' :: searchBody)))) ++ [' ']) =
        true := by
    simp only [List.append_assoc, List.cons_append]
    exact lacksWord_filter
  have gap : lacksWord "contains".toList (['\n', ' ', ' ', ' '] ++ [' ']) = true := by
    decide
  have found := Query.filterTerm?_containsTest passed_searchArguments gap (by decide)
    findAll_searchArguments (Literal.unbroken term).toList rest
  rw [whole, Query.rawTerm_append quiet found,
    Query.dropBackslashes_formatStringChars Literal.plain_of_mem_unbroken]

/-- **A search asks for the figures that its term is about**, whatever quotes, backslashes or
parentheses it has. -/
theorem parse_searchQuery {term : String}
    (told : Query.classify (searchQuery (Literal.escapeLiteral term)) = .ok .select)
    (undescribed : Text.findFirst Query.describedSubject
      (Unicode.trim (searchQuery (Literal.escapeLiteral term)).toList) = none) :
    ∃ namespaces, Query.parse (searchQuery (Literal.escapeLiteral term)) = .ok ⟨namespaces,
      .select figureVariables (Literal.searchForm (Literal.unbroken term)) none⟩ := by
  have cut := trim_searchQuery (Literal.escapeLiteral term)
  have ends : (searchSelected ++ ['\n']).head?.any Unicode.isWord = false := by
    unfold searchSelected
    rw [toList_of_eq rfl]
    exact Query.isWord_space
  have projects : Query.projection? (Unicode.trim
      (searchQuery (Literal.escapeLiteral term)).toList) = some (searchSelected ++ ['\n']) := by
    rw [cut]
    unfold searchText
    exact Query.projection?_append lacksWord_select ends lacksWord_where _
  have parsed := Query.parse_of_projection told projects
  have raw : String.ofList (Query.rawTerm (Unicode.trim
      (searchQuery (Literal.escapeLiteral term)).toList)) = Literal.unbroken term := by
    rw [cut, rawTerm_searchText, String.ofList_toList]
  rw [projectedVariables_searchSelected, raw, undescribed] at parsed
  exact ⟨_, parsed⟩

/-! ### Searches that are selections -/

/-- **A search is told to be a selection** unless its term mentions a change. -/
theorem classify_searchQuery {term : String} (quiet : ¬ MentionsUpdate term) :
    Query.classify (searchQuery term) = .ok .select := by
  have selects : "SELECT".toList <:+:
      Unicode.uppercase (Unicode.trim (searchQuery term).toList) := by
    have own : Unicode.uppercase "SELECT".toList = "SELECT".toList := by decide
    rw [← own, trim_searchQuery]
    unfold searchText
    exact Query.isInfix_uppercase ((List.prefix_append _ _).isInfix.trans
      ((List.suffix_cons _ _).trans (List.suffix_append _ _)).isInfix)
  exact Query.classify_of_selects (fun mentions => quiet (mentionsUpdate_of_searchQuery mentions))
    selects

/-- The declarations of a query describe nothing. -/
theorem findFirst_declarations (rest : List Char) :
    Text.findFirst Query.describedSubject (declarations.toList ++ '\n' :: ("SELECT".toList ++ rest)) =
      Text.findFirstFrom Query.describedSubject (some '\n') ("SELECT".toList ++ rest) := by
  unfold declarations
  rw [toList_lines]
  simp only [List.flatMap_cons, List.flatMap_nil, List.append_nil]
  rw [toList_of_eq rfl, toList_of_eq rfl, toList_of_eq rfl]
  rfl

/-- The declarations of a search describe nothing. -/
theorem findFirst_searchLead (rest : List Char) :
    Text.findFirst Query.describedSubject (searchLead ++ '\n' :: ("SELECT".toList ++ rest)) =
      Text.findFirstFrom Query.describedSubject (some '\n') ("SELECT".toList ++ rest) := by
  unfold searchLead declarations
  rw [toList_lines]
  simp only [List.flatMap_cons, List.flatMap_nil, List.append_nil]
  rw [toList_of_eq rfl, toList_of_eq rfl, toList_of_eq rfl, toList_of_eq rfl]
  rfl

/-- **A search describes nothing** unless its term has an angle bracket. -/
theorem findFirst_describedSubject_searchQuery {term : String} (plain : '<' ∉ term.toList) :
    Text.findFirst Query.describedSubject (Unicode.trim (searchQuery term).toList) = none := by
  have texts : ∀ text ∈ searchTexts, lacksWord ['<'] text.toList = true := by
    unfold searchTexts searchOptions
    simp only [List.cons_append, List.nil_append, List.forall_mem_cons, List.not_mem_nil,
      false_imp_iff, implies_true, and_true]
    refine ⟨?_, ?_, ?_, ?_, ?_, ?_, ?_, ?_, ?_, ?_, ?_, ?_, ?_, ?_, ?_, ?_, ?_, ?_⟩ <;>
      exact lacksWord_of_eq rfl (by decide)
  have inTerm : lacksWord ['<'] term.toList = true := by
    refine Text.lacksWord_singleton fun c member => ?_
    simp [Text.sameLetter, ne_of_mem_of_not_mem member plain]
  have spliced : ∀ {later}, lacksWord ['<'] later = true →
      lacksWord ['<'] ('\x22' :: (term.toList ++ '\x22' :: ')' :: later)) = true := fun behind =>
    lacksWord_cons (by decide) (lacksWord_append inTerm
      (lacksWord_cons (by decide) (lacksWord_cons (by decide) behind)))
  have arguments : lacksWord ['<'] searchArguments = true := by
    rw [searchArguments_eq, toList_of_eq rfl, toList_of_eq rfl, toList_of_eq rfl, toList_of_eq rfl]
    decide
  have second : lacksWord ['<'] (clauseStart "descripcion") = true := by
    unfold clauseStart
    rw [toList_of_eq rfl, toList_of_eq rfl, toList_of_eq rfl]
    decide
  have last : lacksWord ['<'] ('\n' :: ("  )".toList ++ '\n' :: ("\x7d".toList ++ '\n' ::
      ("ORDER BY ?nombre".toList ++ '\n' :: "LIMIT 50".toList)))) = true := by
    rw [toList_of_eq rfl, toList_of_eq rfl, toList_of_eq rfl, toList_of_eq rfl]
    decide
  have rest : lacksWord ['<'] (searchRest term.toList) = true := by
    unfold searchRest
    exact lacksWord_append (lacksWord_of_eq rfl (by decide)) (lacksWord_cons (by decide)
      (lacksWord_append (lacksWord_of_eq rfl (by decide))
        (lacksWord_append second (spliced last))))
  have filter : lacksWord ['<'] (' ' :: ("FILTER".toList ++ '(' :: (['\n', ' ', ' ', ' '] ++ ' ' ::
      ("CONTAINS".toList ++ '(' :: (searchArguments ++ '\x22' :: (term.toList ++ '\x22' :: ')' ::
        searchRest term.toList)))))) = true := by
    have opens : lacksWord ['<'] (' ' :: ("FILTER".toList ++ '(' :: (['\n', ' ', ' ', ' '] ++ ' ' ::
        ("CONTAINS".toList ++ ['('])))) = true := by decide
    have whole := lacksWord_append opens (lacksWord_append arguments (spliced rest))
    simpa only [List.append_assoc, List.cons_append, List.nil_append] using whole
  rw [trim_searchQuery]
  unfold searchText
  rw [findFirst_searchLead]
  exact Text.findFirstFrom_of_lacksWord Query.needsWord_describedSubject
    (lacksWord_searchTexts (by decide) texts filter) _

/-! ### What a search gives -/

/-- The figures of the rows of a selection of their variables. -/
theorem exists_ofSubjects (store : Store) (term : String) :
    ∃ rows subjects,
      rowsOf (Query.select figureVariables term none store).toJson = .ok rows ∧
      (∃ figures, rows.mapM (ofRow .asTheyAre) = .ok figures ∧
        distinct figures = subjects.map (ofSubject store)) ∧
      IsFirstOfEach (IsMentioned store term)
        (store.subjectsOfType Rdf.figureClass Rdf.typePredicate) subjects := by
  have all : Query.candidates store none =
      store.subjectsOfType Rdf.figureClass Rdf.typePredicate :=
    List.filter_eq_self.mpr fun _ _ => rfl
  have plain : ¬ (Query.Body.select figureVariables term none).describes = true := by
    rw [Query.Body.describes]
    decide
  obtain ⟨subjects, same, first⟩ := @exists_distinct (ofSubject store) (fun _ => rfl)
    (Query.fitsTerm store term) _
    (Rdf.Store.nodup_subjectsOfType store Rdf.figureClass Rdf.typePredicate)
  simp only [fitsTerm_iff] at first
  refine ⟨_, subjects, rowsOf_toJson _, ⟨_, ?_, same⟩, first⟩
  rw [Query.select, if_neg plain, all, List.map_map]
  exact mapM_map_eq_ok fun subject _ => ofRow_namedRow store subject

/-- **What a search gives**: the figures of the ontology, in its order, whose first name or first
summary has the term, without those whose identifier came before. The term is searched for on one
line and in search form; nothing else in it matters. -/
theorem run_search {σ : Type} {engine : Dataset.Engine σ} {state loaded : σ} {store : Store}
    (loads : engine.load.run state = (.ok store, loaded)) {term : String}
    (selects : Query.classify (searchQuery (Literal.escapeLiteral (Literal.searchForm term))) =
      .ok .select)
    (undescribed : Text.findFirst Query.describedSubject (Unicode.trim
      (searchQuery (Literal.escapeLiteral (Literal.searchForm term))).toList) = none) :
    ∃ subjects, (search engine.execute term).run state =
        (.ok (subjects.map (ofSubject store)), loaded) ∧
      IsFirstOfEach
        (IsMentioned store (Literal.searchForm (Literal.unbroken (Literal.searchForm term))))
        (store.subjectsOfType Rdf.figureClass Rdf.typePredicate) subjects := by
  obtain ⟨namespaces, parsed⟩ := parse_searchQuery selects undescribed
  have accepts : engine.accepted (searchQuery (Literal.escapeLiteral (Literal.searchForm term))) =
      .ok ⟨namespaces, .select figureVariables
        (Literal.searchForm (Literal.unbroken (Literal.searchForm term))) none⟩ := by
    rw [Dataset.Engine.accepted, Query.not_blank_of_classify selects, if_neg Bool.false_ne_true,
      selects, parsed]
    rfl
  obtain ⟨rows, subjects, given, ⟨figures, each, same⟩, first⟩ := exists_ofSubjects store
    (Literal.searchForm (Literal.unbroken (Literal.searchForm term)))
  have executes : (engine.execute (searchQuery
      (Literal.escapeLiteral (Literal.searchForm term)))).run state =
        (.ok (Query.select figureVariables (Literal.searchForm
          (Literal.unbroken (Literal.searchForm term))) none store).toJson, loaded) := by
    rw [Dataset.Engine.run_execute, accepts]
    exact Dataset.Engine.run_run loads
  refine ⟨subjects, ?_, first⟩
  rw [search, Action.run_bind_ok executes, Action.shaped, given]
  change (Action.shaped (rows.mapM (ofRow .asTheyAre)) >>= fun figures =>
    pure (distinct figures)).run loaded = _
  rw [Action.shaped, each, ← same]
  rfl

/-- Two figures with one identifier, whose names have a backslash, a quote and a parenthesis. -/
def namesakes : Store where
  statements := [⟨"http://a/x", Rdf.typePredicate, .uri Rdf.figureClass⟩,
    ⟨"http://a/x", Rdf.ontologyNamespace ++ "nombre", .plain "A\\\x22(b"⟩,
    ⟨"http://b/x", Rdf.typePredicate, .uri Rdf.figureClass⟩,
    ⟨"http://b/x", Rdf.ontologyNamespace ++ "nombre", .plain "A\\\x22(b"⟩]
  nodup := by decide
  complete := by decide

/-- The disk with the file of those figures. -/
def namesakesFile : Disk :=
  Disk.ofFiles [("onto.ttl", .file (Utf8.encode (Dataset.written namesakes)))]

theorem load_namesakesFile :
    (Dataset.Engine.onDisk (Path.ofText "onto.ttl")).load.run namesakesFile =
      (.ok namesakes, namesakesFile) := by
  refine Dataset.load_of_written ?_ (by decide) rfl
  intro statement member
  simp only [namesakes, List.mem_cons, List.not_mem_nil, or_false] at member
  rcases member with rfl | rfl | rfl | rfl
  · exact .uri _
  · exact .plain _
  · exact .uri _
  · exact .plain _

/-- A backslash, a quote and a parenthesis that are searched for are found in the first of the
figures, and the other one is left out. -/
theorem run_search_of_namesakes : ∃ subjects : List String,
    (search (Dataset.Engine.onDisk (Path.ofText "onto.ttl")).execute "\\\x22(B").run namesakesFile =
        (.ok (subjects.map (ofSubject namesakes)), namesakesFile) ∧
      "http://a/x" ∈ subjects ∧ "http://b/x" ∉ subjects := by
  have written : Literal.escapeLiteral (Literal.searchForm "\\\x22(B") = "\\\\\\\x22(b" := by
    decide
  have quiet : ¬ MentionsUpdate "\\\\\\\x22(b" := by
    rintro ⟨phrase, tells, inside⟩
    exact (isQuiet_of_isPlainlyQuiet (by decide)).not_isInfix tells inside
  have selects : Query.classify (searchQuery
      (Literal.escapeLiteral (Literal.searchForm "\\\x22(B"))) = .ok .select := by
    rw [written]
    exact classify_searchQuery quiet
  have undescribed : Text.findFirst Query.describedSubject (Unicode.trim (searchQuery
      (Literal.escapeLiteral (Literal.searchForm "\\\x22(B"))).toList) = none := by
    rw [written]
    exact findFirst_describedSubject_searchQuery (by decide)
  obtain ⟨subjects, runs, _, told⟩ := run_search load_namesakesFile selects undescribed
  have all : namesakes.subjectsOfType Rdf.figureClass Rdf.typePredicate =
      [] ++ "http://a/x" :: ["http://b/x"] := by decide
  have mentioned : ∀ subject ∈ ["http://a/x", "http://b/x"], IsMentioned namesakes
      (Literal.searchForm (Literal.unbroken (Literal.searchForm "\\\x22(B"))) subject := by
    simp only [← fitsTerm_iff]
    decide
  refine ⟨subjects, runs, ?_, fun second => ?_⟩
  · exact (told _ _ _ all).mpr
      ⟨mentioned _ List.mem_cons_self, fun _ before => absurd before List.not_mem_nil⟩
  · have other := ((told ["http://a/x"] "http://b/x" [] all).mp second).2
    exact other _ List.mem_cons_self (mentioned _ List.mem_cons_self) (by decide)

end HistoricalFigures.Figure
