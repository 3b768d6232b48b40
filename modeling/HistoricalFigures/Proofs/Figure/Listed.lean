import HistoricalFigures.Proofs.Dataset.Listing
import HistoricalFigures.Proofs.Rdf.Instances

/-!
**The figures that are listed** are the instances of the class, one figure for each of them and in the
order of the ontology, whatever is told of them.

* `listText`, `toList_listQuery`: the query of all figures, taken apart at its words.
* `parse_listQuery`: the query that it writes.
* `exists_ofRow`: every row of a selection gives a figure.
* `exists_run_list`: the figures that are listed.
-/
namespace HistoricalFigures.Figure

open Rdf (Store Term)
open Text (lacksWord lacksWord_append lacksWord_cons lacksWord_of_eq toList_of_eq)

/-! ### The query of all figures -/

/-- The variables that the query of all figures selects. -/
def listSelected : List Char :=
  " DISTINCT ?persona ?nombre ?resumen ?fechaNacimiento ?fechaFallecimiento".toList ++ '\n' ::
    "       ?lugarNacimiento ?lugarFallecimiento ?nacionalidad ?ocupacion ?imagenReferencia".toList

/-- The patterns of the query of all figures. -/
def listPatterns : List String :=
  "  ?persona rdf:type phb:PersonaHistoricaBoliviana ." ::
    listOptions.map fun pattern => "  " ++ Text.optionalClause pattern

/-- What the query of all figures asks of a figure. -/
def listRest : List Char := '\n' :: ((Text.lines listPatterns).toList ++ ['\x7d'])

/-- The text of the query of all figures. -/
def listText : List Char :=
  declarations.toList ++ '\n' :: ("SELECT".toList ++ (listSelected ++ '\n' :: ("WHERE".toList ++
    ' ' :: '\x7b' :: listRest)))

/-- **The text of the query of all figures**, up to the line feed at its end. -/
theorem toList_listQuery : listQuery.toList = listText ++ ['\n'] := by
  have selects :
      "SELECT DISTINCT ?persona ?nombre ?resumen ?fechaNacimiento ?fechaFallecimiento".toList =
        "SELECT".toList ++
          " DISTINCT ?persona ?nombre ?resumen ?fechaNacimiento ?fechaFallecimiento".toList := by
    rw [toList_of_eq rfl, toList_of_eq rfl, toList_of_eq rfl]
    rfl
  have opens : "WHERE \x7b".toList = "WHERE".toList ++ [' ', '\x7b'] := by
    rw [toList_of_eq rfl, toList_of_eq rfl]
    rfl
  have closes : "\x7d".toList = ['\x7d'] := toList_of_eq rfl
  have empty : "".toList = [] := toList_of_eq rfl
  rw [listQuery_eq, String.toList_append, toList_lines]
  unfold listBack listText listSelected listRest listPatterns
  rw [toList_lines]
  simp only [List.flatMap_append, List.flatMap_cons, List.flatMap_nil, selects, opens, closes, empty,
    List.append_assoc, List.cons_append, List.nil_append]

/-- The line feed at its end is all that is cut off the query of all figures. -/
theorem trim_listQuery : Unicode.trim listQuery.toList = listText := by
  obtain ⟨behind, first⟩ : ∃ behind, listText = 'P' :: behind := by
    obtain ⟨behind, starts⟩ := exists_declarations
    unfold listText
    rw [starts]
    exact ⟨_, rfl⟩
  obtain ⟨before, last⟩ : ∃ before, listText = before ++ ['\x7d'] := by
    have ends : listRest = ('\n' :: (Text.lines listPatterns).toList) ++ ['\x7d'] :=
      (List.cons_append).symm
    unfold listText
    simp only [ends, ← List.append_assoc, ← List.cons_append]
    exact ⟨_, rfl⟩
  have cut := Query.trim_append (.of [] rfl) (.of ['\n'] rfl) first last (by decide) (by decide)
  rw [List.nil_append] at cut
  rw [toList_listQuery, cut]

/-- The variables of the query of all figures. -/
def listVariables : List String :=
  ["persona", "nombre", "resumen", "fechaNacimiento", "fechaFallecimiento", "lugarNacimiento",
    "lugarFallecimiento", "nacionalidad", "ocupacion", "imagenReferencia"]

theorem projectedVariables_listSelected :
    Query.projectedVariables (listSelected ++ ['\n']) = listVariables := by
  unfold listSelected
  rw [toList_of_eq rfl, toList_of_eq rfl]
  decide

theorem projection?_listText : Query.projection? listText = some (listSelected ++ ['\n']) := by
  have ends : (listSelected ++ ['\n']).head?.any Unicode.isWord = false := by
    unfold listSelected
    rw [toList_of_eq rfl]
    exact Query.isWord_space
  have plain : lacksWord "where".toList (listSelected ++ ['\n']) = true := by
    unfold listSelected
    rw [toList_of_eq rfl, toList_of_eq rfl, toList_of_eq rfl]
    decide
  unfold listText
  exact Query.projection?_append lacksWord_select_declarations ends plain _

/-- A word that no pattern of the query of all figures mentions is not mentioned behind its variables. -/
theorem lacksWord_listRest {word : List Char}
    (marks : ['\n', '\x7d'].all (fun c => lacksWord word [c]) = true)
    (each : ∀ text ∈ ["  ?persona rdf:type phb:PersonaHistoricaBoliviana .", "  ", "OPTIONAL \x7b ",
      " \x7d"] ++ listOptions, lacksWord word text.toList = true) : lacksWord word listRest = true := by
  rw [List.all_eq_true] at marks
  simp only [List.forall_mem_append, List.forall_mem_cons] at each marks
  obtain ⟨⟨typed, indent, opens, closes, _⟩, options⟩ := each
  obtain ⟨feed, brace, _⟩ := marks
  have patterns : ∀ text ∈ listPatterns, lacksWord word text.toList = true := by
    refine List.forall_mem_cons.mpr ⟨typed, List.forall_mem_map.mpr fun pattern member => ?_⟩
    rw [Text.optionalClause, String.toList_append, String.toList_append, String.toList_append]
    exact lacksWord_append indent
      (lacksWord_append (lacksWord_append opens (options pattern member)) closes)
  exact lacksWord_cons feed (lacksWord_append (lacksWord_lines feed patterns) brace)

theorem findFirst_listText : Text.findFirst Query.describedSubject listText = none := by
  have rest : lacksWord ['<'] listRest = true := by
    refine lacksWord_listRest (by decide) ?_
    unfold listOptions
    simp only [List.cons_append, List.nil_append, List.forall_mem_cons, List.not_mem_nil,
      false_imp_iff, implies_true, and_true]
    refine ⟨?_, ?_, ?_, ?_, ?_, ?_, ?_, ?_, ?_, ?_, ?_, ?_, ?_⟩ <;>
      exact lacksWord_of_eq rfl (by decide)
  have between : lacksWord ['<'] ("SELECT".toList ++ (listSelected ++ '\n' :: ("WHERE".toList ++
      ' ' :: '\x7b' :: listRest))) = true := by
    have words : lacksWord ['<'] ("SELECT".toList ++ (listSelected ++ '\n' :: ("WHERE".toList ++
        [' ', '\x7b']))) = true := by
      unfold listSelected
      rw [toList_of_eq rfl, toList_of_eq rfl, toList_of_eq rfl, toList_of_eq rfl]
      decide
    have whole := lacksWord_append words rest
    simpa only [List.append_assoc, List.cons_append, List.nil_append] using whole
  unfold listText
  rw [findFirst_declarations]
  exact Text.findFirstFrom_of_lacksWord Query.needsWord_describedSubject between _

/-- The query of all figures has no double quotes. -/
theorem unquoted_listText : '\x22' ∉ listText := by
  have patterns : ∀ text ∈ listPatterns, '\x22' ∉ text.toList := by
    have typed : '\x22' ∉ "  ?persona rdf:type phb:PersonaHistoricaBoliviana .".toList := by
      rw [toList_of_eq rfl]
      decide
    have options : ∀ text ∈ listOptions, '\x22' ∉ text.toList := by
      unfold listOptions
      simp only [List.forall_mem_cons, List.not_mem_nil, false_imp_iff, implies_true, and_true]
      refine ⟨?_, ?_, ?_, ?_, ?_, ?_, ?_, ?_, ?_⟩ <;>
      · rw [toList_of_eq rfl]
        decide
    refine List.forall_mem_cons.mpr ⟨typed, List.forall_mem_map.mpr fun pattern member => ?_⟩
    simp [Text.optionalClause, options pattern member]
  have lines : '\x22' ∉ (Text.lines listPatterns).toList := by
    rw [toList_lines, List.mem_flatMap]
    rintro ⟨text, member, quote⟩
    rw [List.mem_append, List.mem_singleton] at quote
    exact quote.elim (patterns text member) (by decide)
  have words : '\x22' ∉ "SELECT".toList ∧ '\x22' ∉ listSelected ∧ '\x22' ∉ "WHERE".toList := by
    unfold listSelected
    rw [toList_of_eq rfl, toList_of_eq rfl, toList_of_eq rfl, toList_of_eq rfl]
    decide
  unfold listText listRest
  simp [quote_notMem_declarations, lines, words]

/-- **The query of all figures asks for all figures**, without a search term. -/
theorem parse_listQuery :
    ∃ namespaces, Query.parse listQuery = .ok ⟨namespaces, .select listVariables "" none⟩ := by
  have projects : Query.projection? (Unicode.trim listQuery.toList) = some (listSelected ++ ['\n']) := by
    rw [trim_listQuery, projection?_listText]
  have parsed := Query.parse_of_projection classify_listQuery projects
  have nothing : Literal.searchForm (String.ofList []) = "" := by decide
  rw [trim_listQuery, projectedVariables_listSelected, Query.rawTerm_of_unquoted unquoted_listText,
    nothing, findFirst_listText] at parsed
  exact ⟨_, parsed⟩

/-! ### The figures of rows -/

theorem decodeValue_str (text : String) : ∃ decoded, decodeValue (.str text) = .ok (.str decoded) := by
  unfold decodeValue
  split
  · exact ⟨text, rfl⟩
  · exact ⟨Literal.decodeIfEncoded text, rfl⟩

/-- Every variable of a row is a text, or the empty one, and it is decoded to another. -/
theorem exists_rowValue (name : String) (row : Assoc Term) :
    ∃ text, rowValue .decoded name (Query.rowJson row) = .ok (.str text) := by
  obtain ⟨decoded, decodes⟩ := decodeValue_str (((row.get? name).map Term.value).getD "")
  rw [rowValue, boundValue_rowJson, ok_bind]
  exact ⟨decoded, decodes⟩

theorem exists_summaryOf (row : Assoc Term) :
    ∃ text, summaryOf .decoded (Query.rowJson row) = .ok (.str text) := by
  obtain ⟨description, told⟩ := exists_rowValue "descripcion" row
  rw [summaryOf, told, ok_bind]
  split
  · exact ⟨description, rfl⟩
  · exact exists_rowValue "resumen" row

/-- **Every row of a selection gives a figure**, at the address that the row tells. -/
theorem exists_ofRow (row : Assoc Term) : ∃ figure, ofRow .decoded (Query.rowJson row) = .ok figure ∧
    figure.uri = .str (((row.get? "persona").map Term.value).getD "") := by
  obtain ⟨summary, describes⟩ := exists_summaryOf row
  obtain ⟨name, named⟩ := exists_rowValue "nombre" row
  obtain ⟨birthDate, born⟩ := exists_rowValue "fechaNacimiento" row
  obtain ⟨deathDate, died⟩ := exists_rowValue "fechaFallecimiento" row
  obtain ⟨birthPlace, bornAt⟩ := exists_rowValue "lugarNacimiento" row
  obtain ⟨deathPlace, diedAt⟩ := exists_rowValue "lugarFallecimiento" row
  obtain ⟨nationality, belongs⟩ := exists_rowValue "nacionalidad" row
  obtain ⟨occupation, works⟩ := exists_rowValue "ocupacion" row
  simp only [ofRow, boundValue_rowJson, describes, named, born, died, bornAt, diedAt, belongs, works,
    localIdOf_str, ok_bind]
  exact ⟨_, rfl, rfl⟩

/-! ### The figures that are listed -/

/-- The rows of the selection of all figures give one figure for each of them. -/
theorem exists_figures (store : Store) : ∃ figures,
    ((Query.select listVariables "" none store).rows.map Query.rowJson).mapM (ofRow .decoded) =
      .ok figures ∧ figures.map Figure.uri = (Rdf.instances store.statements).map .str := by
  choose figureOf gives address using exists_ofRow
  have plain : ¬ (Query.Body.select listVariables "" none).describes = true := by
    rw [Query.Body.describes]
    decide
  have all : (Query.candidates store none).filter (Query.fitsTerm store "") =
      Rdf.instances store.statements := by
    rw [Query.candidates, List.filter_filter, ← Rdf.subjectsOfType_figureClass]
    exact List.filter_eq_self.mpr fun _ _ => rfl
  refine ⟨_, mapM_map_eq_ok fun row _ => gives row, ?_⟩
  rw [Query.select, if_neg plain, all, List.map_map, List.map_map]
  refine List.map_congr_left fun subject _ => ?_
  rw [Function.comp_apply, Function.comp_apply, address, Query.namedRow, get?_filterMap,
    if_pos (by decide), Query.variableValue?, if_pos rfl]
  rfl

/-- **Listing the figures gives one for each instance of the class**, in the order of the store that is
loaded. -/
theorem exists_run_list {σ : Type} {engine : Dataset.Engine σ} {state loaded : σ} {store : Store}
    (loads : engine.load.run state = (.ok store, loaded)) :
    ∃ figures, (list engine.execute).run state = (.ok figures, loaded) ∧
      figures.map Figure.uri = (Rdf.instances store.statements).map .str := by
  obtain ⟨namespaces, parsed⟩ := parse_listQuery
  obtain ⟨figures, given, addresses⟩ := exists_figures store
  refine ⟨figures, ?_, addresses⟩
  rw [list, Action.run_bind_ok (Dataset.Engine.run_execute_select parsed loads), Action.shaped,
    Action.run_bind_ok (Action.run_ofExcept_ok .shape (rowsOf_toJson _) loaded)]
  exact Action.run_ofExcept_ok .shape given loaded

end HistoricalFigures.Figure
