import HistoricalFigures.Proofs.Query.Insertion
import HistoricalFigures.Query.Evaluation
import HistoricalFigures.Turtle.Printing

/-!
**A block of lines is cut into its lines.** Points within angle brackets and quotes end no triple.

* `Passes`: a part of a block that is not cut.
* `passes_bracketed`, `passes_formatString`: a resource and a written string are not cut.
* `stretches_lines`, `splitTriples_lines`: lines with blanks between them.
* `readTriple_eq`: a triple with a point at its end.
-/
namespace HistoricalFigures.Query

open Rdf (Namespaces Statement)

/-! ### Parts that are not cut -/

/-- A part of a block leads from one place to another and is not cut, whatever follows. -/
def Passes (place : Place) (part : List Char) (next : Place) : Prop :=
  ∀ rest, stretchesFrom place (part ++ rest) = (stretchesFrom next rest).modifyHead (part ++ ·)

namespace Passes

theorem nil (place : Place) : Passes place [] place := fun rest => by
  cases found : stretchesFrom place rest <;> simp [found]

theorem append {place middle next : Place} {first second : List Char}
    (before : Passes place first middle) (behind : Passes middle second next) :
    Passes place (first ++ second) next := fun rest => by
  rw [List.append_assoc, before, behind, List.modifyHead_modifyHead]
  congr 1
  funext text
  exact (List.append_assoc first second text).symm

/-- Only a point outside can end a triple. -/
theorem char {place : Place} {c : Char} (free : place = .outside → c ≠ '.') :
    Passes place [c] (place.next c) := fun rest => by
  have goesOn : place.endsTriple c rest = false := by
    unfold Place.endsTriple
    by_cases outside : place = .outside
    · rw [decide_eq_false (free outside), Bool.and_false, Bool.false_and]
    · rw [decide_eq_false outside, Bool.false_and, Bool.false_and]
  rw [List.singleton_append, stretchesFrom, goesOn]
  cases found : stretchesFrom (place.next c) rest with
  | nil => exact absurd found (stretchesFrom_ne_nil _ rest)
  | cons first more => rfl

/-- A part that stays at a place. -/
theorem of_forall {place : Place} {part : List Char}
    (each : ∀ c ∈ part, (place = .outside → c ≠ '.') ∧ place.next c = place) :
    Passes place part place := by
  induction part with
  | nil => exact Passes.nil place
  | cons c later found =>
    obtain ⟨free, stays⟩ := each c List.mem_cons_self
    have here := Passes.char free
    rw [stays] at here
    exact here.append (found fun d member => each d (List.mem_cons_of_mem c member))

/-- **A resource is not cut.** -/
theorem bracketed {inner : List Char} (absent : '>' ∉ inner) :
    Passes .outside ('<' :: inner ++ ['>']) .outside := by
  have opens : Passes .outside ['<'] .insideIri := Passes.char fun _ => by decide
  have closes : Passes .insideIri ['>'] .outside := Passes.char fun _ => by decide
  have within : Passes .insideIri inner .insideIri := by
    refine Passes.of_forall fun c member => ⟨fun outside => (nomatch outside), ?_⟩
    exact if_neg (ne_of_mem_of_not_mem member absent)
  exact (opens.append within).append closes

theorem formatStringChar (c : Char) :
    Passes (.insideQuotes '\x22') (Turtle.formatStringChar c) (.insideQuotes '\x22') := by
  rcases Turtle.formatStringChar_cases c with ⟨written, backslash, quote, _⟩ | ⟨letter, written, _⟩
  · have stays : Place.next (.insideQuotes '\x22') c = .insideQuotes '\x22' := by
      rw [Place.next, if_neg backslash, if_neg quote]
    have here : Passes (.insideQuotes '\x22') [c] (Place.next (.insideQuotes '\x22') c) :=
      Passes.char fun outside => nomatch outside
    rwa [stays, ← written] at here
  · have escapes : Passes (.insideQuotes '\x22') ['\\'] (.behindBackslash '\x22') :=
      Passes.char fun outside => nomatch outside
    have escaped : Passes (.behindBackslash '\x22') [letter] (.insideQuotes '\x22') :=
      Passes.char fun outside => nomatch outside
    rw [written]
    exact escapes.append escaped

/-- **A written string is not cut.** -/
theorem formatString (value : String) :
    Passes .outside (Turtle.formatString value) .outside := by
  have opens : Passes .outside ['\x22'] (.insideQuotes '\x22') := Passes.char fun _ => by decide
  have closes : Passes (.insideQuotes '\x22') ['\x22'] .outside := Passes.char fun _ => by decide
  have within : Passes (.insideQuotes '\x22') (value.toList.flatMap Turtle.formatStringChar)
      (.insideQuotes '\x22') := by
    induction value.toList with
    | nil => exact Passes.nil _
    | cons c later found =>
      rw [List.flatMap_cons]
      exact (Passes.formatStringChar c).append found
  exact (opens.append within).append closes

end Passes

/-! ### Lines -/

/-- The line of a triple: a subject between angle brackets and what follows, up to its point. -/
def IsTripleLine (line : List Char) : Prop :=
  ∃ body, line = '<' :: (body ++ ['.']) ∧ Passes .outside ('<' :: body) .outside

theorem passes_blanks (blanks : Blanks) : Passes .outside blanks.val .outside := by
  refine Passes.of_forall fun c member => ?_
  have other : ∀ d : Char, Unicode.isBlank d = false → c ≠ d := by
    rintro d unlike rfl
    rw [blanks.property c member] at unlike
    cases unlike
  refine ⟨fun _ => other '.' (by decide), ?_⟩
  rw [Place.next, if_neg (not_or.mpr ⟨other '\x22' (by decide), other '\x27' (by decide)⟩),
    if_neg (other '<' (by decide))]

/-- A triple ends with its line. -/
theorem stretchesFrom_line {body rest : List Char} {c : Char}
    (passes : Passes .outside body .outside) (blank : Unicode.isBlank c = true) :
    stretchesFrom .outside (body ++ ['.'] ++ c :: rest) =
      (body ++ ['.']) :: stretchesFrom .outside (c :: rest) := by
  have ends : Place.endsTriple .outside '.' (c :: rest) = true := by
    simp [Place.endsTriple, blank]
  rw [List.append_assoc, passes, List.singleton_append, stretchesFrom, if_pos ends,
    List.modifyHead_cons]
  rfl

/-- **Lines with blanks between them are cut into the lines.** -/
theorem stretches_lines {lines : List (List Char)} (each : ∀ line ∈ lines, IsTripleLine line)
    {gap last : Blanks} (hasGap : gap.val ≠ []) (hasLast : last.val ≠ []) :
    stretches (lines.flatMap (gap.val ++ ·) ++ last.val) =
      lines.map (gap.val ++ ·) ++ [last.val] := by
  unfold stretches
  induction lines with
  | nil =>
    have whole := passes_blanks last []
    rwa [List.append_nil, stretchesFrom, List.modifyHead_cons, List.append_nil] at whole
  | cons line later found =>
    obtain ⟨here, others⟩ := List.forall_mem_cons.mp each
    obtain ⟨body, rfl, passes⟩ := here
    obtain ⟨c, rest, blank, follows⟩ : ∃ c rest, Unicode.isBlank c = true ∧
        later.flatMap (gap.val ++ ·) ++ last.val = c :: rest := by
      cases later with
      | nil =>
        obtain ⟨c, rest, follows⟩ := List.exists_cons_of_ne_nil hasLast
        exact ⟨c, rest, last.property c (follows ▸ List.mem_cons_self), follows⟩
      | cons next more =>
        obtain ⟨c, rest, follows⟩ := List.exists_cons_of_ne_nil hasGap
        refine ⟨c, rest ++ next ++ more.flatMap (gap.val ++ ·) ++ last.val,
          gap.property c (follows ▸ List.mem_cons_self), ?_⟩
        rw [List.flatMap_cons, follows]
        simp only [List.cons_append, List.append_assoc]
    have cut := @stretchesFrom_line _ rest c ((passes_blanks gap).append passes) blank
    have whole : (gap.val ++ '<' :: body) ++ ['.'] = gap.val ++ '<' :: (body ++ ['.']) := by
      rw [List.append_assoc, List.cons_append]
    rw [whole] at cut
    rw [List.flatMap_cons, List.append_assoc, follows, cut, ← follows, found others]
    rfl

/-- **The triples of a block of lines are its lines.** -/
theorem splitTriples_lines {lines : List (List Char)} (each : ∀ line ∈ lines, IsTripleLine line)
    {gap last : Blanks} (hasGap : gap.val ≠ []) (hasLast : last.val ≠ []) :
    splitTriples (String.ofList (lines.flatMap (gap.val ++ ·) ++ last.val)) =
      lines.map String.ofList := by
  have cutLine : ∀ line ∈ lines, Unicode.trim (gap.val ++ line) = line := by
    intro line member
    obtain ⟨body, same, _⟩ := each line member
    have ends : line = ('<' :: body) ++ ['.'] := by rw [same, List.cons_append]
    have trimmed := trim_append gap (Blanks.of [] rfl) same ends (by decide) (by decide)
    rwa [List.append_nil] at trimmed
  have cutLast : Unicode.trim last.val = [] := by
    have start : Unicode.trimStart last.val = [] := List.dropWhile_eq_nil_iff.mpr last.property
    rw [Unicode.trim, start]
    rfl
  have kept : ∀ line ∈ lines, (!line.isEmpty) = true ∧ (!isDeclaration line) = true := by
    intro line member
    obtain ⟨body, rfl, _⟩ := each line member
    refine ⟨rfl, ?_⟩
    have begins : Unicode.uppercase ('<' :: (body ++ ['.'])) =
        '<' :: Unicode.uppercase (body ++ ['.']) := by
      rw [Unicode.uppercase, List.flatMap_cons, show Unicode.uppercaseChar '<' = ['<'] by decide]
      rfl
    rw [isDeclaration, begins]
    rfl
  have trimmed : (lines.map (gap.val ++ ·)).map Unicode.trim = lines := by
    rw [List.map_map]
    exact (List.map_congr_left cutLine).trans (List.map_id lines)
  have pieces_ : pieces (lines.flatMap (gap.val ++ ·) ++ last.val) = lines := by
    rw [pieces, stretches_lines each hasGap hasLast, List.map_append, trimmed, List.map_singleton,
      cutLast, List.filter_append, List.filter_eq_self.mpr fun line member => (kept line member).1]
    exact List.append_nil lines
  rw [splitTriples, String.toList_ofList, pieces_,
    List.filter_eq_self.mpr fun line member => (kept line member).2]

/-! ### Triples with their points -/

/-- A line with a point at its end is given none. -/
theorem withPoint_eq {triple : String} {before : List Char} (ends : triple.toList = before ++ ['.']) :
    withPoint triple = triple := by
  have reversed : triple.toList.reverse = '.' :: before.reverse := by
    rw [ends, List.reverse_append, List.reverse_singleton, List.singleton_append]
  have trimmed : Unicode.trimEnd triple.toList = triple.toList := by
    rw [Unicode.trimEnd, Unicode.dropEndWhile, reversed, List.dropWhile_cons_of_neg (by decide),
      ← reversed, List.reverse_reverse]
  rw [withPoint, trimmed, ends, List.getLast?_concat, if_pos rfl]

/-- A triple that has a point at its end behind the decoding is read as a document; it must have a
statement. -/
theorem readTriple_of_decoded {known : Namespaces} {triple : String} {before : List Char}
    (ends : (Literal.decodeQuotedSegments triple).toList = before ++ ['.'])
    {statements : List Statement}
    (parsed : Turtle.parse known (Literal.decodeQuotedSegments triple) = .ok statements) :
    readTriple known triple =
      if statements = [] then .error (.query (.triple triple .noStatement)) else .ok statements := by
  have read : Turtle.parseTriple known (Literal.decodeQuotedSegments triple) = .ok statements := by
    unfold Turtle.parseTriple
    simp only [parsed]
  unfold readTriple
  rw [withPoint_eq ends, read]
  cases statements with
  | nil => rfl
  | cons first later => rfl

/-- A triple with a point at its end is read as a document, unless a text of it reads as an encoded
one. -/
theorem readTriple_eq {known : Namespaces} {triple : String} {before : List Char}
    (ends : triple.toList = before ++ ['.'])
    (plain : Literal.decodeQuotedSegments triple = triple) {statements : List Statement}
    (parsed : Turtle.parse known triple = .ok statements) :
    readTriple known triple =
      if statements = [] then .error (.query (.triple triple .noStatement)) else .ok statements :=
  readTriple_of_decoded (plain.symm ▸ ends) (plain.symm ▸ parsed)

end HistoricalFigures.Query
