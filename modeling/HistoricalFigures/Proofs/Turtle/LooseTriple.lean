import HistoricalFigures.Proofs.Turtle.Codes
import HistoricalFigures.Turtle.Triple

/-!
**A triple between angle brackets and quotes is read, whatever stands between the quotes.** What does not
fit the grammar is read a second way, up to its last quote.

* `bracketed?_append`, `splitLastQuote?_append`: the parts of a loose triple.
* `looseParts?_bracketedTriple`: the last quote of such a triple is the one before its point.
* `codes_bracketedTriple_subset`: its escapes are those between its quotes.
* `parseTriple_bracketedTriple`: it is read by the grammar, or all that stands between its quotes is its
  object.
-/
namespace HistoricalFigures.Turtle

open Rdf (Namespaces)

/-! ### The parts of a loose triple -/

/-- What reaches up to a character outside of a class. -/
theorem takeWhile_append_cons {p : Char → Bool} {front : List Char} {stop : Char}
    (belongs : ∀ c ∈ front, p c = true) (stops : p stop = false) (rest : List Char) :
    (front ++ stop :: rest).takeWhile p = front := by
  rw [List.takeWhile_append_of_pos belongs,
    List.takeWhile_cons_of_neg (by rw [stops]; exact Bool.false_ne_true), List.append_nil]

/-- What stands between angle brackets. -/
theorem bracketed?_append {inner : List Char} (plain : ∀ c ∈ inner, isLooseStop c = false)
    (rest : List Char) :
    bracketed? ('<' :: (inner ++ '>' :: rest)) = if inner = [] then none else some (inner, rest) := by
  have reach : (inner ++ '>' :: rest).takeWhile (fun c => !isLooseStop c) = inner :=
    takeWhile_append_cons (fun c member => by rw [plain c member]; rfl) rfl rest
  simp only [bracketed?, reach, List.drop_left]

/-- A text is parted at its last quote. -/
theorem splitLastQuote?_append {tail : List Char} (quoteless : '\x22' ∉ tail) (front : List Char) :
    splitLastQuote? (front ++ '\x22' :: tail) = some (front, tail) := by
  have reversed : (front ++ '\x22' :: tail).reverse = tail.reverse ++ '\x22' :: front.reverse := by
    simp
  have behind : (front ++ '\x22' :: tail).reverse.takeWhile (· ≠ '\x22') = tail.reverse := by
    rw [reversed]
    refine takeWhile_append_cons (fun c member => ?_) (by decide) _
    exact decide_eq_true fun same => quoteless (same ▸ List.mem_reverse.mp member)
  have upToQuote : (front ++ '\x22' :: tail).take ((front ++ '\x22' :: tail).length - tail.length) =
      front ++ ['\x22'] := by
    have length : (front ++ '\x22' :: tail).length - tail.length = (front ++ ['\x22']).length := by
      simp only [List.length_append, List.length_cons, List.length_nil]
      omega
    have whole : front ++ '\x22' :: tail = (front ++ ['\x22']) ++ tail := by simp
    rw [length, whole, List.take_left]
  unfold splitLastQuote?
  simp only [behind, List.reverse_reverse, upToQuote]
  rw [if_neg (by simp), List.dropLast_concat]

/-- What may stand between angle brackets in a triple that is read either way. -/
def IsBracketed (inner : List Char) : Prop :=
  inner ≠ [] ∧ ∀ c ∈ inner, isLooseStop c = false ∧ c ≠ '\\'

/-- A triple between angle brackets and quotes. -/
def bracketedTriple (subject predicate object : List Char) : List Char :=
  '<' :: subject ++ "> <".toList ++ predicate ++ "> \"".toList ++ object ++ "\" .".toList

theorem bracketedTriple_eq (subject predicate object : List Char) :
    bracketedTriple subject predicate object = '<' :: (subject ++ '>' :: ' ' :: '<' ::
      (predicate ++ '>' :: ' ' :: '\x22' :: (object ++ '\x22' :: [' ', '.']))) := by
  simp [bracketedTriple]

/-- Behind a space there is what begins with no blank. -/
theorem afterBlanks?_space {c : Char} (other : Unicode.isBlank c = false) (rest : List Char) :
    afterBlanks? (' ' :: c :: rest) = some (c :: rest) := by
  have blank : Unicode.isBlank ' ' = true := by decide
  rw [afterBlanks?, List.head?_cons, Option.any_some, if_pos blank, Unicode.trimStart,
    List.dropWhile_cons_of_pos blank,
    List.dropWhile_cons_of_neg (by rw [other]; exact Bool.false_ne_true)]

/-- **The parts of a triple between angle brackets and quotes**, whatever stands between the quotes. -/
theorem looseParts?_bracketedTriple {subject predicate : List Char} (names : IsBracketed subject)
    (tells : IsBracketed predicate) (object : List Char) :
    looseParts? (bracketedTriple subject predicate object) =
      some (subject, .iri predicate, object) := by
  have bracketed : ∀ {inner}, IsBracketed inner → ∀ rest,
      bracketed? ('<' :: (inner ++ '>' :: rest)) = some (inner, rest) := fun fits rest => by
    rw [bracketed?_append (fun c member => (fits.2 c member).1), if_neg fits.1]
  have start : ∀ rest, Unicode.trimStart ('<' :: rest) = '<' :: rest := fun rest =>
    List.dropWhile_cons_of_neg (by decide)
  have bracket : Unicode.isBlank '<' = false := by decide
  have quote : Unicode.isBlank '\x22' = false := by decide
  have quoteless : '\x22' ∉ [' ', '.'] := by decide
  rw [bracketedTriple_eq, looseParts?, start, bracketed names]
  simp only [Option.bind_eq_bind, Option.bind_some, afterBlanks?_space bracket, loosePredicate?,
    bracketed tells, afterBlanks?_space quote, splitLastQuote?_append quoteless]
  rw [if_pos (by decide)]

/-- The escapes of such a triple are those between its quotes. -/
theorem codes_bracketedTriple_subset {subject predicate : List Char} (names : IsBracketed subject)
    (tells : IsBracketed predicate) (object : List Char) :
    codes (bracketedTriple subject predicate object) ⊆ codes object := by
  have plain : ∀ {inner}, IsBracketed inner → '\\' ∉ inner := fun fits member =>
    (fits.2 _ member).2 rfl
  have front : '\\' ∉ '<' :: subject ++ "> <".toList ++ predicate ++ "> \"".toList := by
    simp [plain names, plain tells]
  rw [bracketedTriple, List.append_assoc _ object, codes_append front]
  exact codes_append_subset (Unicode.forall_mem_of_all (by decide)) object

/-- **A triple between angle brackets and quotes is read, whatever stands between the quotes**, if no
escape there has a number beyond all characters: as the grammar reads it, or else as one statement whose
object is all that stands between the first quote and the last one. -/
theorem parseTriple_bracketedTriple (known : Namespaces) {subject predicate object : List Char}
    (names : IsBracketed subject) (tells : IsBracketed predicate)
    (within : ∀ code ∈ codes object, code < Unicode.codeBound) :
    let text := String.ofList (bracketedTriple subject predicate object)
    (∃ statements, parse known text = .ok statements ∧ parseTriple known text = .ok statements) ∨
      (∃ cause, parse known text = .error cause ∧ cause.isGrammar = true) ∧
        ∃ value, StandsFor object value ∧ parseTriple known text =
          .ok [⟨String.ofList subject, String.ofList predicate, .plain (String.ofList value)⟩] := by
  intro text
  unfold parseTriple
  cases parsed : parse known text with
  | ok statements => exact .inl ⟨statements, rfl, rfl⟩
  | error cause =>
    have grammar : cause.isGrammar = true := by
      cases cause with
      | beyondUnicode code =>
        obtain ⟨named, beyond⟩ := mem_codes_of_parse parsed
        rw [String.toList_ofList] at named
        have small := within code (codes_bracketedTriple_subset names tells object named)
        exact absurd small (Nat.not_lt.mpr beyond)
      | _ => rfl
    obtain ⟨value, stands⟩ := exists_standsFor within
    refine .inr ⟨⟨cause, rfl, grammar⟩, value, stands, ?_⟩
    have loose : looseTriple? known text =
        some (String.ofList subject, String.ofList predicate, object) := by
      rw [looseTriple?, String.toList_ofList, looseParts?_bracketedTriple names tells]
      rfl
    simp only [if_pos grammar, loose, stands.unescape_eq]
    rfl

/-- What stands between the quotes of a triple: quotes, points and a line break, an escape and one that
is not known. -/
def innerQuotes : List Char := "la \x22Juana\x22 .\n<x> <y> \\u00e9\\q".toList

theorem parseTriple_of_innerQuotes :
    IsBracketed "x:ana".toList ∧ IsBracketed "x:resumen".toList ∧
      (∀ code ∈ codes innerQuotes, code < Unicode.codeBound) ∧
        parseTriple [] (String.ofList (bracketedTriple "x:ana".toList "x:resumen".toList innerQuotes)) =
          .ok [⟨"x:ana", "x:resumen", .plain "la \x22Juana\x22 .\n<x> <y> é\\q"⟩] := by
  have names : IsBracketed "x:ana".toList := ⟨by decide, Unicode.forall_mem_of_all (by decide)⟩
  have tells : IsBracketed "x:resumen".toList :=
    ⟨by decide, Unicode.forall_mem_of_all (by decide)⟩
  have within : ∀ code ∈ codes innerQuotes, code < Unicode.codeBound := by decide +kernel
  refine ⟨names, tells, within, ?_⟩
  rcases parseTriple_bracketedTriple [] names tells within with ⟨statements, parsed, _⟩ |
    ⟨_, value, stands, falls⟩
  · have faulty : (parse [] (String.ofList
        (bracketedTriple "x:ana".toList "x:resumen".toList innerQuotes))).isOk = false := by rfl
    rw [parsed] at faulty
    cases faulty
  · have resolved : unescape .kept innerQuotes = .ok "la \x22Juana\x22 .\n<x> <y> é\\q".toList := by rfl
    cases stands.unescape_eq.symm.trans resolved
    exact falls

end HistoricalFigures.Turtle
