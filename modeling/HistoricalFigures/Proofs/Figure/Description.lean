import HistoricalFigures.Proofs.Dataset.Runs
import HistoricalFigures.Proofs.Figure.Search
import HistoricalFigures.Proofs.Query.Contributions

/-!
**What a description of a resource gives.** The name of the resource is written into a query between
angle brackets. As long as it has none of the characters that need an escape there, the query asks for
that resource, whatever words the name has.

* `describeText`, `toList_describeQuery`: the text of a description, taken apart at its words.
* `describedSubject_append`: the resource that it asks for.
* `parse_describeQuery`: the query that it writes.
* `propertiesOf`: the statements about a figure, without those that tell its class.
* `run_describe`: the properties that a description gives.
-/
namespace HistoricalFigures.Figure

open Rdf (Statement Store)
open Text (lacksWord lacksWord_append lacksWord_cons lacksWord_of_eq toList_of_eq)

/-! ### The text of a description -/

/-- The variables that a description selects. -/
def describeSelected : List Char := " ?predicado ?valor".toList

/-- What a description says of its resource. -/
def describeRest : List Char := " ?predicado ?valor .".toList ++ ['\n', '\x7d']

/-- The text of the description of a resource. -/
def describeText (uri : List Char) : List Char :=
  declarations.toList ++ '\n' :: ("SELECT".toList ++ (describeSelected ++ '\n' :: ("WHERE".toList ++
    ' ' :: '\x7b' :: ('\n' :: ' ' :: ' ' :: '<' :: (uri ++ '>' :: describeRest)))))

/-- **The text of a description**, up to the line feed at its end. -/
theorem toList_describeQuery (uri : String) :
    (describeQuery uri).toList = describeText uri.toList ++ ['\n'] := by
  have selects : "SELECT ?predicado ?valor".toList = "SELECT".toList ++ describeSelected := by
    unfold describeSelected
    rw [toList_of_eq rfl, toList_of_eq rfl, toList_of_eq rfl]
    rfl
  have opens : "WHERE \x7b".toList = "WHERE".toList ++ [' ', '\x7b'] := by
    rw [toList_of_eq rfl, toList_of_eq rfl]
    rfl
  have bracket : "  <".toList = [' ', ' ', '<'] := toList_of_eq rfl
  have pattern : "> ?predicado ?valor .".toList = '>' :: " ?predicado ?valor .".toList := by
    rw [toList_of_eq rfl, toList_of_eq rfl]
  have closes : "\x7d".toList = ['\x7d'] := toList_of_eq rfl
  have empty : "".toList = [] := toList_of_eq rfl
  rw [describeQuery, String.toList_append, toList_lines]
  unfold describeText describeRest
  simp only [List.flatMap_cons, List.flatMap_nil, String.toList_append, selects, opens, bracket, pattern,
    closes, empty, List.append_assoc, List.cons_append, List.nil_append]

/-- The line feed at its end is all that is cut off a description. -/
theorem trim_describeQuery (uri : String) :
    Unicode.trim (describeQuery uri).toList = describeText uri.toList := by
  have first : ∃ behind, describeText uri.toList = 'P' :: behind := by
    obtain ⟨behind, starts⟩ := exists_declarations
    unfold describeText
    rw [starts]
    exact ⟨_, rfl⟩
  have last : ∃ before, describeText uri.toList = before ++ ['\x7d'] := by
    have ends : describeRest = (" ?predicado ?valor .".toList ++ ['\n']) ++ ['\x7d'] := by
      unfold describeRest
      exact (List.append_assoc _ ['\n'] ['\x7d']).symm
    unfold describeText
    simp only [ends, ← List.append_assoc, ← List.cons_append]
    exact ⟨_, rfl⟩
  obtain ⟨behind, first⟩ := first
  obtain ⟨before, last⟩ := last
  have cut := Query.trim_append (.of [] rfl) (.of ['\n'] rfl) first last (by decide) (by decide)
  rw [List.nil_append] at cut
  rw [toList_describeQuery, cut]

/-! ### What a description asks for -/

/-- What stands between angle brackets in front of the two variables of a description is the resource
that is described. -/
theorem describedSubject_append {uri : List Char} (given : uri ≠ []) (open_ : '>' ∉ uri)
    (before : Option Char) : ∃ extent, Query.describedSubject before
      ('<' :: (uri ++ '>' :: describeRest)) = some (String.ofList uri, extent) := by
  have variables_ : (Query.afterVariable? "predicado" describeRest).bind
      (Query.afterVariable? "valor") = some [' ', '.', '\n', '\x7d'] := by
    unfold describeRest
    rw [toList_of_eq rfl]
    decide
  obtain ⟨afterFirst, first, second⟩ := Option.bind_eq_some_iff.mp variables_
  simp only [Query.describedSubject, Query.upToMark?_append open_, Option.bind_eq_bind,
    Option.bind_some, first, second, if_neg given]
  exact ⟨_, rfl⟩

/-- No resource is named in front of the one that a description is about. -/
theorem findFirst_describeText {uri : List Char} (given : uri ≠ []) (open_ : '>' ∉ uri) :
    Text.findFirst Query.describedSubject (describeText uri) = some (String.ofList uri) := by
  have between : lacksWord ['<'] (("SELECT".toList ++ (describeSelected ++ '\n' :: ("WHERE".toList ++
      [' ', '\x7b', '\n', ' ']))) ++ [' ']) = true := by
    unfold describeSelected
    rw [toList_of_eq rfl, toList_of_eq rfl, toList_of_eq rfl]
    decide
  have names := Text.findFirstFrom_append_of_lacksWord Query.needsWord_describedSubject between
    (some '\n') ('<' :: (uri ++ '>' :: describeRest))
  simp only [List.append_assoc, List.cons_append, List.nil_append] at names
  obtain ⟨extent, found⟩ := describedSubject_append given open_ (some ' ')
  unfold describeText
  rw [findFirst_declarations, names]
  exact Text.findFirstFrom_of_found (List.cons_ne_nil '<' _) found

/-- The two variables of a description are selected. -/
theorem projection?_describeText (uri : List Char) :
    Query.projection? (describeText uri) = some (describeSelected ++ ['\n']) := by
  have ends : (describeSelected ++ ['\n']).head?.any Unicode.isWord = false := by
    unfold describeSelected
    rw [toList_of_eq rfl]
    exact Query.isWord_space
  have plain : lacksWord "where".toList (describeSelected ++ ['\n']) = true := by
    unfold describeSelected
    rw [toList_of_eq rfl, toList_of_eq rfl]
    decide
  unfold describeText
  exact Query.projection?_append lacksWord_select_declarations ends plain _

/-- A description has no double quotes but those of the name of its resource. -/
theorem unquoted_describeText {uri : List Char} (unquoted : '\x22' ∉ uri) :
    '\x22' ∉ describeText uri := by
  have rest : '\x22' ∉ describeRest := by
    unfold describeRest
    rw [toList_of_eq rfl]
    decide
  have words : '\x22' ∉ "SELECT".toList ∧ '\x22' ∉ describeSelected ∧ '\x22' ∉ "WHERE".toList := by
    unfold describeSelected
    rw [toList_of_eq rfl, toList_of_eq rfl, toList_of_eq rfl]
    decide
  unfold describeText
  simp [quote_notMem_declarations, rest, words, unquoted]

/-- **A description is told to be a selection** if the name of its resource has no blanks. -/
theorem classify_describeQuery {uri : String}
    (unbroken : ∀ c ∈ uri.toList, Unicode.isBlank c = false) :
    Query.classify (describeQuery uri) = .ok .select := by
  have own : Unicode.uppercase "SELECT".toList = "SELECT".toList := by decide
  have selects : "SELECT".toList <:+:
      Unicode.uppercase (Unicode.trim (describeQuery uri).toList) := by
    rw [← own, trim_describeQuery]
    unfold describeText
    exact Query.isInfix_uppercase ((List.prefix_append _ _).isInfix.trans
      ((List.suffix_cons _ _).trans (List.suffix_append _ _)).isInfix)
  have quiet : ¬ Query.MentionsUpdate (describeQuery uri) := fun mentions =>
    Query.not_mentionsUpdate_of_unbroken unbroken (mentionsUpdate_of_describeQuery mentions)
  exact Query.classify_of_selects quiet selects

/-- What stands for itself between angle brackets neither closes them nor opens a string, and is no
blank. -/
theorem plain_of_isIriChar {c : Char} (safe : Turtle.isIriChar c = true) :
    c ≠ '>' ∧ c ≠ '\x22' ∧ Unicode.isBlank c = false := by
  simp only [Turtle.isIriChar, Bool.not_eq_true', Bool.or_eq_false_iff,
    decide_eq_false_iff_not] at safe
  exact ⟨safe.1.1.1.1.1.1.1.1.2, safe.1.1.1.1.1.1.1.2, safe.2⟩

/-- **A description asks for its resource alone**: whatever the name of the resource is, it is a
selection of the predicates and values of that resource, without a search term. -/
theorem parse_describeQuery {uri : String} (given : uri ≠ "")
    (safe : ∀ c ∈ uri.toList, Turtle.isIriChar c = true) :
    ∃ namespaces, Query.parse (describeQuery uri) =
      .ok ⟨namespaces, .select Query.describingVariables "" (some uri)⟩ := by
  have told := classify_describeQuery fun c member => (plain_of_isIriChar (safe c member)).2.2
  have open_ : '>' ∉ uri.toList := fun member => (plain_of_isIriChar (safe _ member)).1 rfl
  have unquoted : '\x22' ∉ uri.toList := fun member => (plain_of_isIriChar (safe _ member)).2.1 rfl
  have nonempty : uri.toList ≠ [] := mt String.toList_eq_nil_iff.mp given
  have projects := projection?_describeText uri.toList
  rw [← trim_describeQuery] at projects
  have variables_ : Query.projectedVariables (describeSelected ++ ['\n']) =
      Query.describingVariables := by
    unfold describeSelected
    rw [toList_of_eq rfl]
    decide
  have nothing : Literal.searchForm (String.ofList []) = "" := by decide
  have parsed := Query.parse_of_projection told projects
  rw [variables_, trim_describeQuery, Query.rawTerm_of_unquoted (unquoted_describeText unquoted),
    findFirst_describeText nonempty open_, String.ofList_toList, nothing] at parsed
  exact ⟨_, parsed⟩

/-! ### What a description gives -/

/-- A statement as a property. -/
def Property.ofStatement (statement : Statement) : Property :=
  ⟨.str statement.predicate, .str statement.object.value⟩

/-- The properties of a figure, in the order of a store: its statements without those that tell its
class. What is no figure has none. -/
def propertiesOf (store : Store) (uri : String) : List Property :=
  if uri ∈ store.subjectsOfType Rdf.figureClass Rdf.typePredicate then
    (store.statements.filter fun statement =>
      statement.subject = uri ∧ statement.predicate ≠ Rdf.typePredicate).map Property.ofStatement
  else []

/-- The row of a statement tells its predicate and its value. -/
theorem ofRow_describedRow (statement : Statement) :
    Property.ofRow (Query.rowJson [("predicado", .uri statement.predicate),
      ("valor", statement.object)]) = .ok (some (.ofStatement statement)) := rfl

/-- A figure is the only candidate of its description, and what is no figure has none. -/
theorem candidates_describe (store : Store) (uri : String) :
    Query.candidates store (some uri) =
      if uri ∈ store.subjectsOfType Rdf.figureClass Rdf.typePredicate then [uri] else [] := by
  split
  · rename_i isFigure
    have among : uri ∈ Query.candidates store none := List.mem_filter.mpr ⟨isFigure, rfl⟩
    exact Query.candidates_some among
  · rename_i other
    refine List.filter_eq_nil_iff.mpr fun candidate member same => ?_
    have equal : candidate = uri := by simpa using same
    exact other (equal ▸ member)

/-- The rows of a description give the properties of its resource. -/
theorem rows_describe (store : Store) (uri : String) :
    ∃ rows, rowsOf (Query.select Query.describingVariables "" (some uri) store).toJson = .ok rows ∧
      rows.mapM Property.ofRow = .ok ((propertiesOf store uri).map some) := by
  refine ⟨_, rowsOf_toJson _, ?_⟩
  have everything : (Query.candidates store (some uri)).filter (Query.fitsTerm store "") =
      Query.candidates store (some uri) :=
    List.filter_eq_self.mpr fun candidate _ => rfl
  have described : Query.rowsFor Query.describingVariables "" (some uri) store =
      Query.describedRows store := rfl
  rw [Query.rows_select_eq, everything, candidates_describe, described, propertiesOf]
  split
  · have same : store.statements.filter (fun statement =>
        statement.subject = uri ∧ statement.predicate ≠ Rdf.typePredicate) =
          (store.matching ⟨some uri, none, .any⟩).filter fun statement =>
            statement.predicate ≠ Rdf.typePredicate := by
      rw [Store.matching, List.filter_filter]
      refine List.filter_congr fun statement _ => ?_
      simp [Rdf.Pattern.fits, Rdf.ObjectPattern.fits, Bool.and_comm]
    rw [List.flatMap_singleton, Query.describedRows, List.map_map, same, List.map_map]
    exact mapM_map_eq_ok fun statement _ => ofRow_describedRow statement
  · rfl

/-- **What a description gives**: the predicates and values of the statements about its resource, in
the order of the ontology and without those that tell its class, if the resource is a figure, and
nothing else. No words in the name of the resource make the query another one. -/
theorem run_describe {σ : Type} {engine : Dataset.Engine σ} {state loaded : σ} {store : Store}
    (loads : engine.load.run state = (.ok store, loaded)) {uri : String} (given : uri ≠ "")
    (safe : ∀ c ∈ uri.toList, Turtle.isIriChar c = true) :
    (describe engine.execute uri).run state = (.ok (propertiesOf store uri), loaded) ∧
      ∃ namespaces, Query.parse (describeQuery uri) =
        .ok ⟨namespaces, .select Query.describingVariables "" (some uri)⟩ := by
  obtain ⟨namespaces, parsed⟩ := parse_describeQuery given safe
  have executes := Dataset.Engine.run_execute_select parsed loads
  obtain ⟨rows, gives, each⟩ := rows_describe store uri
  have properties : ((propertiesOf store uri).map some).filterMap (fun property => property) =
      propertiesOf store uri := by
    rw [List.filterMap_map]
    exact List.filterMap_some
  refine ⟨?_, namespaces, parsed⟩
  rw [describe, Action.run_bind_ok executes, Action.shaped, gives]
  change (Action.shaped (rows.mapM Property.ofRow) >>= fun found =>
    pure (found.filterMap fun property => property)).run loaded = _
  rw [Action.shaped, each]
  exact congrArg (fun given => (Except.ok given, loaded)) properties

/-- A resource whose name has the words of a query. -/
def wordyName : String := "http://a/SELECT/WHERE/FILTER(CONTAINS(LCASE(?s)),"

/-- A figure of that name, and one of another name. -/
def wordyFigure : Store where
  statements := [⟨wordyName, Rdf.ontologyNamespace ++ "nombre", .plain "Ana"⟩,
    ⟨"http://b/x", Rdf.typePredicate, .uri Rdf.figureClass⟩,
    ⟨wordyName, Rdf.typePredicate, .uri Rdf.figureClass⟩,
    ⟨"http://b/x", Rdf.ontologyNamespace ++ "nombre", .plain "Luis"⟩,
    ⟨wordyName, Rdf.ontologyNamespace ++ "nombre", .plain "Anita"⟩]
  nodup := by decide
  complete := by decide

/-- The disk with the file of those figures. -/
def wordyFile : Disk :=
  Disk.ofFiles [("onto.ttl", .file (Utf8.encode (Dataset.written wordyFigure)))]

theorem load_wordyFile : (Dataset.Engine.onDisk (Path.ofText "onto.ttl")).load.run wordyFile =
    (.ok wordyFigure, wordyFile) := by
  refine Dataset.load_of_written ?_ (by decide) rfl
  intro statement member
  simp only [wordyFigure, List.mem_cons, List.not_mem_nil, or_false] at member
  rcases member with rfl | rfl | rfl | rfl | rfl
  · exact .plain _
  · exact .uri _
  · exact .uri _
  · exact .plain _
  · exact .plain _

/-- A figure whose name has the words of a query is described like any other. -/
theorem run_describe_of_wordyName : wordyName ≠ "" ∧
    (∀ c ∈ wordyName.toList, Turtle.isIriChar c = true) ∧
    (describe (Dataset.Engine.onDisk (Path.ofText "onto.ttl")).execute wordyName).run wordyFile =
      (.ok [⟨.str (Rdf.ontologyNamespace ++ "nombre"), .str "Ana"⟩,
        ⟨.str (Rdf.ontologyNamespace ++ "nombre"), .str "Anita"⟩], wordyFile) ∧
    ∃ namespaces, Query.parse (describeQuery wordyName) =
      .ok ⟨namespaces, .select Query.describingVariables "" (some wordyName)⟩ := by
  have given : wordyName ≠ "" := by decide
  have safe : ∀ c ∈ wordyName.toList, Turtle.isIriChar c = true :=
    List.all_eq_true.mp (by decide)
  have told : propertiesOf wordyFigure wordyName =
      [⟨.str (Rdf.ontologyNamespace ++ "nombre"), .str "Ana"⟩,
        ⟨.str (Rdf.ontologyNamespace ++ "nombre"), .str "Anita"⟩] := by
    have isFigure : wordyName ∈
        wordyFigure.subjectsOfType Rdf.figureClass Rdf.typePredicate := by decide
    rw [propertiesOf, if_pos isFigure]
    rfl
  have described := run_describe load_wordyFile given safe
  rw [told] at described
  exact ⟨given, safe, described⟩

end HistoricalFigures.Figure
