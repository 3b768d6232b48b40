import HistoricalFigures.Proofs.Query.Splitting
import HistoricalFigures.Proofs.Turtle.Separation

/-!
**Splitting agrees with the grammar.** A plain block may do without its last point: it is read with a
point behind it, and so are its triples.

* `readOn_of_blanks`: the blanks before the last point do not count.
* `stretchesFrom_append`: the stretches of a text with more behind a blank.
* `pieces_eq_map_pointed`: the triples of a block with a point behind it are those of the block, the
  last one with a point.
* `parse_splitTriples`: the statements of a block are those of its triples.
-/
namespace HistoricalFigures

namespace Turtle

open Rdf (Namespaces Statement)

section Respacing

variable {known : Namespaces} {last : Reading} {blanks : List Char}

/-- Before blanks and a last point a token ends. -/
theorem IsLexeme.exists_of_append {kind : TokenKind} {lexeme rest front : List Char}
    (isLexeme : IsLexeme kind lexeme rest) (isShort : kind ≠ .longString)
    (areBlanks : ∀ c ∈ blanks, Unicode.isBlank c = true)
    (whole : lexeme ++ rest = front ++ (blanks ++ [' ', '.'])) :
    ∃ behind, front = lexeme ++ behind ∧ rest = behind ++ (blanks ++ [' ', '.']) := by
  rcases List.append_eq_append_iff.mp whole with ⟨behind, same, follows⟩ | ⟨across, same, follows⟩
  · exact ⟨behind, same, follows⟩
  cases across with
  | nil => exact ⟨[], by simpa using same.symm, by simpa using follows.symm⟩
  | cons c later =>
    -- A token across the blanks has a blank in it, and does not end with a quote.
    have inside : ∀ d ∈ c :: later, Unicode.isBlank d = true ∨ d = '.' := by
      intro d member
      have among : d ∈ blanks ++ [' ', '.'] := follows ▸ List.mem_append_left rest member
      rcases List.mem_append.mp among with blank | tail
      · exact .inl (areBlanks d blank)
      · rcases List.mem_cons.mp tail with rfl | point
        · exact .inl (by decide)
        · exact .inr (List.mem_singleton.mp point)
    have first : Unicode.isBlank c = true := by
      cases blanks with
      | nil =>
        rw [← (List.cons.inj follows).1]
        decide
      | cons d more =>
        rw [← (List.cons.inj follows).1]
        exact areBlanks d List.mem_cons_self
    cases isString : kind.isString with
    | false =>
      have other := (isLexeme.forall_mem isString c (same ▸ List.mem_append_right front (by simp))).1
      cases other.symm.trans first
    | true =>
      obtain ⟨quote, body, shape, reach⟩ := isLexeme
      have isQuote := (isString_of_extent? reach).mp isString
      rw [extent?_quote isQuote] at reach
      obtain ⟨⟨kind, count⟩, reaches, told⟩ := Option.map_eq_some_iff.mp reach
      cases told
      obtain ⟨_, closes, _⟩ := (stringExtent?_cases reaches).resolve_left isShort
      have ends : lexeme.getLast? = some quote := by
        rw [shape, List.getLast?_cons, getLast?_of_shortExtent? closes, Option.getD_some]
      rw [same, List.getLast?_append, List.getLast?_cons, Option.some_or,
        ← List.getLast?_cons] at ends
      rcases inside quote (List.mem_of_getLast? ends) with blank | point
      · rcases isQuote with rfl | rfl <;> cases blank
      · rcases isQuote with rfl | rfl <;> cases point

theorem breaks_blanks (areBlanks : ∀ c ∈ blanks, Unicode.isBlank c = true) :
    Breaks (blanks ++ [' ', '.']) := by
  intro c first
  cases blanks with
  | nil =>
    cases first
    decide
  | cons d more =>
    cases first
    exact areBlanks c List.mem_cons_self

/-- A point is taken in the same way behind any blanks. -/
theorem readOn_point_of_blanks (areBlanks : ∀ c ∈ blanks, Unicode.isBlank c = true)
    {expecting : Expecting} (isStatement : expecting.IsStatement) {done : List Statement} {line : Nat}
    (reads : readOn ⟨known, done, expecting⟩ line (blanks ++ [' ', '.']) = .ok last) :
    ∀ line, readOn ⟨known, done, expecting⟩ line [' ', '.'] = .ok last := by
  intro line'
  rw [Reads.blanks _ areBlanks _ line, ← List.singleton_append, Reads.blank _ (by decide) _ _] at reads
  obtain ⟨added, after, _, _, steps, goesOn⟩ := exists_of_readOn_token isStatement (isLexeme_point [])
    (fun begins => begins.elim nofun fun word => nomatch word.1) reads
  have takes := Reads.lexeme (isLexeme_point []) (steps done)
  rw [← List.singleton_append, Reads.blank _ (by decide) _ _, ← List.append_nil ['.'], takes]
  exact goesOn

theorem isPlainText_point : IsPlainText [' ', '.'] :=
  .blank (by decide) (.token (isLexeme_point []) nofun
    (fun begins => begins.elim nofun fun word => nomatch word.1) .nil)

/-- **Blanks before a last point do not count**: a plain text that is read is plain and read in the same
way with a single space there. -/
theorem readOn_of_blanks {text : List Char} (plain : IsPlainText text)
    (areBlanks : ∀ c ∈ blanks, Unicode.isBlank c = true) {front : List Char}
    (ends : ∀ c ∈ front.getLast?, Unicode.isBlank c = false)
    (whole : text = front ++ (blanks ++ [' ', '.'])) {expecting : Expecting}
    (isStatement : expecting.IsStatement) {done : List Statement} {line : Nat}
    (reads : readOn ⟨known, done, expecting⟩ line text = .ok last) :
    IsPlainText (front ++ [' ', '.']) ∧
      ∀ line, readOn ⟨known, done, expecting⟩ line (front ++ [' ', '.']) = .ok last := by
  -- A token keeps its extent where the text behind it changes behind its next blank.
  induction plain generalizing front expecting done line with
  | nil => simp at whole
  | @blank c rest isBlank _ found =>
    cases front with
    | nil =>
      rw [whole] at reads
      exact ⟨isPlainText_point, readOn_point_of_blanks areBlanks isStatement reads⟩
    | cons d front =>
      obtain ⟨rfl, rfl⟩ := List.cons.inj whole
      have later : ∀ c ∈ front.getLast?, Unicode.isBlank c = false := by
        intro e last
        refine ends e ?_
        rw [Option.mem_def] at last ⊢
        rw [List.getLast?_cons, last, Option.getD_some]
      have here := Reads.blank ⟨known, done, expecting⟩ isBlank
      rw [← List.singleton_append, here] at reads
      obtain ⟨plain, again⟩ := found later rfl isStatement reads
      refine ⟨.blank isBlank plain, fun line => ?_⟩
      rw [List.cons_append, ← List.singleton_append, here]
      exact again _
  | @token kind lexeme rest isLexeme isShort noDeclaration _ found =>
    obtain ⟨behind, rfl, rfl⟩ := isLexeme.exists_of_append isShort areBlanks whole
    obtain ⟨added, after, isStatement', _, steps, goesOn⟩ :=
      exists_of_readOn_token isStatement isLexeme noDeclaration reads
    have later : ∀ c ∈ behind.getLast?, Unicode.isBlank c = false := by
      intro c last
      refine ends c ?_
      rw [Option.mem_def] at last ⊢
      rw [List.getLast?_append, last, Option.some_or]
    have breaks : Breaks [' ', '.'] := @breaks_blanks [] (by simp)
    have moved : IsLexeme kind lexeme (behind ++ [' ', '.']) := by
      cases isString : kind.isString with
      | false =>
        exact isLexeme.transfer isString (breaks_blanks areBlanks).isEdged breaks.isEdged
      | true =>
        have follows := mayFollow_of_readOn isString (steps done line) goesOn
        refine (isLexeme.alone isString).string_append isString (isLexeme.head?_ne isString ?_)
        cases behind with
        | nil =>
          rintro c ⟨⟩
          decide
        | cons c more => exact follows
    obtain ⟨plain, again⟩ := found later rfl isStatement' goesOn
    rw [List.append_assoc]
    refine ⟨.token moved isShort noDeclaration plain, fun line => ?_⟩
    rw [Reads.lexeme moved (steps done) line]
    exact again _

end Respacing

end Turtle

namespace Query

open Rdf (Namespaces Statement)
open Turtle (Breaks IsPlainText)

/-- **The stretches of a text with more behind a blank.** -/
theorem stretchesFrom_append (place : Place) (text : List Char) :
    ∃ front last, ∀ rest, Breaks rest → stretchesFrom place (text ++ rest) =
      front ++ (stretchesFrom (text.foldl Place.next place) rest).modifyHead (last ++ ·) := by
  induction text generalizing place with
  | nil =>
    refine ⟨[], [], fun rest _ => ?_⟩
    cases parts : stretchesFrom place rest <;> simp [parts]
  | cons c later found =>
    obtain ⟨front, last, cut⟩ := found (place.next c)
    have whether : ∀ rest, Breaks rest →
        place.endsTriple c (later ++ rest) = place.endsTriple c later := by
      intro rest breaks
      cases later with
      | cons d more => rfl
      | nil =>
        rw [List.nil_append, Place.endsTriple, Place.endsTriple, breaks.all_head?]
        rfl
    cases ends : place.endsTriple c later with
    | true =>
      refine ⟨[c] :: front, last, fun rest breaks => ?_⟩
      rw [List.cons_append, stretchesFrom, whether rest breaks, ends, cut rest breaks]
      rfl
    | false =>
      have goesOn : ∀ rest, Breaks rest → stretchesFrom place (c :: later ++ rest) =
          (stretchesFrom (place.next c) (later ++ rest)).modifyHead (c :: ·) := by
        intro rest breaks
        rw [List.cons_append, stretchesFrom, whether rest breaks, ends]
        cases parts : stretchesFrom (place.next c) (later ++ rest) with
        | nil => exact absurd parts (stretchesFrom_ne_nil _ _)
        | cons first more => rfl
      cases front with
      | nil =>
        refine ⟨[], c :: last, fun rest breaks => ?_⟩
        rw [goesOn rest breaks, cut rest breaks, List.nil_append, List.nil_append,
          List.modifyHead_modifyHead]
        rfl
      | cons first more =>
        refine ⟨(c :: first) :: more, last, fun rest breaks => ?_⟩
        rw [goesOn rest breaks, cut rest breaks]
        rfl

/-- Blanks are not cut, wherever they stand. -/
theorem stretchesFrom_blanks (place : Place) {blanks : List Char}
    (areBlanks : ∀ c ∈ blanks, Unicode.isBlank c = true) : stretchesFrom place blanks = [blanks] := by
  induction blanks generalizing place with
  | nil => rfl
  | cons c later found =>
    obtain ⟨isBlank, others⟩ := List.forall_mem_cons.mp areBlanks
    have goesOn : place.endsTriple c later = false := by
      rw [Place.endsTriple, decide_eq_false (Unicode.ne_of_isBlank isBlank '.' (by decide)),
        Bool.and_false, Bool.false_and]
    rw [stretchesFrom, goesOn, found _ others]
    rfl

/-- What is kept of some stretches. -/
def trimmed (parts : List (List Char)) : List (List Char) :=
  (parts.map Unicode.trim).filter fun piece => !piece.isEmpty

theorem trimmed_append (first second : List (List Char)) :
    trimmed (first ++ second) = trimmed first ++ trimmed second := by
  rw [trimmed, List.map_append, List.filter_append]
  rfl

/-- A stretch with another character than blanks is kept. -/
theorem trimmed_singleton {part : List Char} (nonempty : Unicode.trim part ≠ []) :
    trimmed [part] = [Unicode.trim part] :=
  List.filter_cons_of_pos (by simpa using nonempty)

/-- A point behind a space is cut off or is not; what is kept is the same. -/
theorem trimmed_point (place : Place) (last : List Char) :
    trimmed ((stretchesFrom place [' ', '.']).modifyHead (last ++ ·)) = trimmed [last ++ [' ', '.']] := by
  have nothing : trimmed [[]] = [] := by decide
  have space : decide (' ' = '.') = false := by decide
  have notHere : place.endsTriple ' ' ['.'] = false := by
    rw [Place.endsTriple, space, Bool.and_false, Bool.false_and]
  rw [stretchesFrom, notHere, stretchesFrom]
  cases (place.next ' ').endsTriple '.' [] with
  | false => rfl
  | true =>
    show trimmed ([last ++ [' ', '.']] ++ [[]]) = _
    rw [trimmed_append, nothing, List.append_nil]

/-- A triple with a point of its own, or with one behind it. -/
def pointed (piece : List Char) : List Char := (withPoint (String.ofList piece)).toList

theorem pointed_of_getLast? {piece : List Char} (ends : piece.getLast? = some '.') :
    pointed piece = piece := by
  obtain ⟨before, rfl⟩ := List.getLast?_eq_some_iff.mp ends
  rw [pointed, withPoint_eq String.toList_ofList, String.toList_ofList]

theorem pointed_of_ne {piece : List Char} {last : Char} (ends : piece.getLast? = some last)
    (other : Unicode.isBlank last = false) (noPoint : last ≠ '.') :
    pointed piece = piece ++ [' ', '.'] := by
  have whole : Unicode.trimEnd piece = piece := by
    have nothing : ∀ c ∈ ([] : List Char), Unicode.isBlank c = true := by simp
    have cut := Unicode.trimEnd_append_blanks ends other nothing
    rwa [List.append_nil] at cut
  rw [pointed, withPoint, String.toList_ofList, whole, ends,
    if_neg (fun same => noPoint (Option.some.inj same)), String.toList_append, String.toList_ofList]
  rfl

/-- A last triple with a point behind a space is kept as the last triple is, with a point. -/
theorem trimmed_eq_map_pointed {part blanks : List Char} {last : Char}
    (ends : part.getLast? = some last) (other : Unicode.isBlank last = false) (noPoint : last ≠ '.')
    (areBlanks : ∀ c ∈ blanks, Unicode.isBlank c = true) :
    trimmed [part ++ [' ', '.']] = (trimmed [part ++ blanks]).map pointed := by
  obtain ⟨_, trimEnds⟩ := Unicode.trim_of_getLast? ends other
  have nonempty : Unicode.trimStart part ≠ [] := by
    intro nothing
    rw [nothing] at trimEnds
    cases trimEnds
  have closed : Unicode.trim (part ++ [' ', '.']) = Unicode.trimStart part ++ [' ', '.'] := by
    have ownPoint : (part ++ [' ', '.']).getLast? = some '.' := by
      rw [List.getLast?_append]
      rfl
    rw [(Unicode.trim_of_getLast? ownPoint (by decide)).1, Unicode.trimStart_append nonempty]
  have cutOff : Unicode.trim (part ++ blanks) = Unicode.trimStart part := by
    rw [Unicode.trim, Unicode.trimStart_append nonempty,
      Unicode.trimEnd_append_blanks trimEnds other areBlanks]
  rw [trimmed_singleton (by rw [closed]; simp), trimmed_singleton (cutOff.symm ▸ nonempty), closed,
    cutOff, List.map_singleton, pointed_of_ne trimEnds other noPoint]

/-- A point alone is no document. -/
theorem parse_point_ne_ok (known : Namespaces) (statements : List Statement) :
    Turtle.parse known (String.ofList ['.']) ≠ .ok statements := by
  intro parsed
  obtain ⟨_, reads, _⟩ := eq_ok_of_map parsed
  rw [Turtle.read_eq_readOn, String.toList_ofList] at reads
  obtain ⟨_, run, _⟩ := eq_ok_of_bind reads
  obtain ⟨_, step, _⟩ := Turtle.exists_of_readOn_lexeme (Turtle.isLexeme_point []) run
  cases step

/-- **The triples of a block with a point behind it** are those of the block, the last one with a
point. -/
theorem pieces_eq_map_pointed {known : Namespaces} {front blanks : List Char}
    (ends : ∀ c ∈ front.getLast?, Unicode.isBlank c = false ∧ c ≠ '.')
    (areBlanks : ∀ c ∈ blanks, Unicode.isBlank c = true)
    (plain : IsPlainText (front ++ [' ', '.'])) {statements : List Statement}
    (parsed : Turtle.parse known (String.ofList (front ++ [' ', '.'])) = .ok statements) :
    pieces (front ++ [' ', '.']) = (pieces (front ++ blanks)).map pointed := by
  obtain ⟨pointEnds, tolds, _, read⟩ := parse_pieces plain parsed
  obtain ⟨cut, last, stretched⟩ := stretchesFrom_append .outside front
  have here : pieces (front ++ [' ', '.']) = trimmed cut ++ trimmed [last ++ [' ', '.']] := by
    have breaks : Breaks [' ', '.'] := by
      rintro c ⟨⟩
      decide
    rw [← trimmed_point, ← trimmed_append, ← stretched _ breaks]
    rfl
  have there : pieces (front ++ blanks) = trimmed cut ++ trimmed [last ++ blanks] := by
    have breaks : Breaks blanks := fun c first => areBlanks c (List.mem_of_head? first)
    rw [← trimmed_append, pieces, stretches, stretched _ breaks, stretchesFrom_blanks _ areBlanks]
    rfl
  have whole : front = cut.flatten ++ last := by
    have flat := flatten_stretchesFrom .outside (front ++ [])
    rw [stretched [] Turtle.breaks_nil, stretchesFrom] at flat
    simpa using flat.symm
  have kept : (trimmed cut).map pointed = trimmed cut := by
    have each : ∀ piece ∈ trimmed cut, pointed piece = piece := fun piece member =>
      pointed_of_getLast? (pointEnds piece (here ▸ List.mem_append_left _ member))
    rw [List.map_congr_left each, List.map_id']
  -- The last triple is not empty, since a point alone could not be read.
  cases lastEnds : last.getLast? with
  | none =>
    rw [List.getLast?_eq_none_iff] at lastEnds
    subst lastEnds
    have alone : trimmed [[] ++ [' ', '.']] = [['.']] := by decide
    have member : ['.'] ∈ pieces (front ++ [' ', '.']) := by
      rw [here, alone]
      exact List.mem_append_right _ List.mem_cons_self
    obtain ⟨told, _, point⟩ := (mem_of_mapM_eq_ok read).1 _ member
    exact absurd point (parse_point_ne_ok known told)
  | some c =>
    obtain ⟨other, noPoint⟩ := ends c (by
      rw [Option.mem_def, whole, List.getLast?_append, lastEnds, Option.some_or])
    rw [here, there, List.map_append, kept,
      trimmed_eq_map_pointed lastEnds other noPoint areBlanks]

/-- A plain document may have a single space before its last point. -/
theorem parse_of_blanks {known : Namespaces} {text front blanks : List Char}
    (plain : IsPlainText text) (areBlanks : ∀ c ∈ blanks, Unicode.isBlank c = true)
    (ends : ∀ c ∈ front.getLast?, Unicode.isBlank c = false)
    (whole : text = front ++ (blanks ++ [' ', '.'])) {statements : List Statement}
    (parsed : Turtle.parse known (String.ofList text) = .ok statements) :
    IsPlainText (front ++ [' ', '.']) ∧
      Turtle.parse known (String.ofList (front ++ [' ', '.'])) = .ok statements := by
  obtain ⟨told, reads, rfl⟩ := eq_ok_of_map parsed
  rw [Turtle.read_eq_readOn, String.toList_ofList] at reads
  obtain ⟨last, run, finished⟩ := eq_ok_of_bind reads
  have start : Turtle.Expecting.IsStatement .sentence := trivial
  obtain ⟨plain, again⟩ := Turtle.readOn_of_blanks plain areBlanks ends whole start run
  refine ⟨plain, ?_⟩
  rw [Turtle.parse, Turtle.read_eq_readOn, String.toList_ofList, again]
  exact congrArg (Except.map Prod.snd) finished

/-- **Splitting agrees with the grammar.** A plain block, with a point behind it unless it ends with one,
has the statements of its triples one after the other, each with a point behind it unless it ends with
one. -/
theorem parse_splitTriples {known : Namespaces} {block : String} {statements : List Statement}
    (plain : IsPlainText (withPoint block).toList)
    (parsed : Turtle.parse known (withPoint block) = .ok statements)
    (triples : ∀ piece ∈ pieces block.toList, isDeclaration piece = false) :
    ∃ tolds, (splitTriples block).mapM (fun piece => Turtle.parse known (withPoint piece)) = .ok tolds ∧
      tolds.flatten = statements := by
  have all : splitTriples block = (pieces block.toList).map String.ofList := by
    rw [splitTriples, List.filter_eq_self.mpr fun piece member => by rw [triples piece member]; rfl]
  have read_eq : (splitTriples block).mapM (fun piece => Turtle.parse known (withPoint piece)) =
      ((pieces block.toList).map pointed).mapM fun piece =>
        Turtle.parse known (String.ofList piece) := by
    rw [all, List.mapM_map, List.mapM_map]
    have same : ∀ piece : List Char, withPoint (String.ofList piece) = String.ofList (pointed piece) :=
      fun _ => String.ofList_toList.symm
    simp only [Function.comp_def, same]
  rw [read_eq]
  have written : String.ofList (withPoint block).toList = withPoint block := String.ofList_toList
  rw [← written] at parsed
  by_cases hasPoint : (Unicode.trimEnd block.toList).getLast? = some '.'
  · rw [withPoint, if_pos hasPoint] at plain parsed
    obtain ⟨ends, tolds, rfl, read⟩ := parse_pieces plain parsed
    rw [List.map_congr_left fun piece member => pointed_of_getLast? (ends piece member), List.map_id']
    exact ⟨tolds, read, rfl⟩
  · obtain ⟨blanks, whole, areBlanks⟩ := Unicode.exists_trimEnd_append block.toList
    have text : (withPoint block).toList = Unicode.trimEnd block.toList ++ (blanks ++ [' ', '.']) := by
      rw [withPoint, if_neg hasPoint, String.toList_append, ← List.append_assoc, ← whole]
      rfl
    have ends : ∀ c ∈ (Unicode.trimEnd block.toList).getLast?, Unicode.isBlank c = false ∧ c ≠ '.' := by
      intro c last
      have nonempty : Unicode.trimEnd block.toList ≠ [] := by
        intro nothing
        rw [nothing] at last
        cases last
      obtain ⟨front, d, same, other⟩ := Unicode.exists_of_trimEnd_ne_nil nonempty
      rw [same, List.getLast?_concat, Option.mem_some_iff] at last
      rw [same, List.getLast?_concat] at hasPoint
      exact ⟨last ▸ other, fun point => hasPoint (by rw [last, point])⟩
    obtain ⟨plain, parsed⟩ := parse_of_blanks plain areBlanks (fun c last => (ends c last).1) text parsed
    obtain ⟨_, tolds, rfl, read⟩ := parse_pieces plain parsed
    rw [pieces_eq_map_pointed ends areBlanks plain parsed, ← whole] at read
    exact ⟨tolds, read, rfl⟩

/-- Of a block with points in a string and in a number, which ends without one. -/
theorem parse_splitTriples_of_points : ∃ statements tolds,
    IsPlainText (withPoint "<a> <b> \x27x. y\x27 ; <c> 1.5 . <d> <e> \x22z\x22@en ").toList ∧
      Turtle.parse [] (withPoint "<a> <b> \x27x. y\x27 ; <c> 1.5 . <d> <e> \x22z\x22@en ") =
        .ok statements ∧
      (∀ piece ∈ pieces "<a> <b> \x27x. y\x27 ; <c> 1.5 . <d> <e> \x22z\x22@en ".toList,
        isDeclaration piece = false) ∧
      (splitTriples "<a> <b> \x27x. y\x27 ; <c> 1.5 . <d> <e> \x22z\x22@en ").mapM
        (fun piece => Turtle.parse [] (withPoint piece)) = .ok tolds ∧
      tolds.flatten = statements := by
  have plain := Turtle.isPlainText_of_isPlainFrom (by decide +kernel : Turtle.isPlainFrom 0
    (withPoint "<a> <b> \x27x. y\x27 ; <c> 1.5 . <d> <e> \x22z\x22@en ").toList = true)
  have parsed : Turtle.parse [] (withPoint "<a> <b> \x27x. y\x27 ; <c> 1.5 . <d> <e> \x22z\x22@en ") =
      .ok [⟨"a", "b", .plain "x. y"⟩, ⟨"a", "c", .typed "1.5" Rdf.decimalDatatype⟩,
        ⟨"d", "e", .tagged "z" "en"⟩] := by rfl
  have triples : ∀ piece ∈ pieces "<a> <b> \x27x. y\x27 ; <c> 1.5 . <d> <e> \x22z\x22@en ".toList,
      isDeclaration piece = false := by decide +kernel
  obtain ⟨tolds, read, same⟩ := parse_splitTriples plain.2 parsed triples
  exact ⟨_, tolds, plain.2, parsed, triples, read, same⟩

end Query

end HistoricalFigures
