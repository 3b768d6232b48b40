import HistoricalFigures.Proofs.Query.Triples
import HistoricalFigures.Proofs.Turtle.TokenShape

/-!
**Only a point of its own ends a triple.** The points within the tokens of a document stand between
quotes or angle brackets, or before a character of the same token.

* `Passes.dotted`, `Passes.short`: points before another character, and strings.
* `passes_token`: a token that is no point is not cut.
-/
namespace HistoricalFigures.Query

open Turtle (IsDotted TokenKind extent? standsOutside)

theorem ne_of_standsOutside {c : Char} (outside : standsOutside c = true) :
    Unicode.isBlank c = false ∧ c ≠ '.' ∧ Place.next .outside c = .outside := by
  rw [standsOutside, Bool.and_eq_true, Bool.not_eq_true', decide_eq_true_eq] at outside
  simp only [List.mem_cons, List.not_mem_nil, or_false, not_or] at outside
  obtain ⟨notBlank, point, double, single, opens, _⟩ := outside
  refine ⟨notBlank, point, ?_⟩
  rw [Place.next, if_neg (not_or.mpr ⟨double, single⟩), if_neg opens]

namespace Passes

/-- **A point before another character of the same token ends no triple.** -/
theorem dotted {text : List Char} (dotted : IsDotted '.' standsOutside text) :
    Passes .outside text .outside := by
  induction dotted with
  | nil => exact Passes.nil _
  | char c later belongs _ found =>
    obtain ⟨_, point, stays⟩ := ne_of_standsOutside belongs
    have here : Passes .outside [c] (Place.next .outside c) := Passes.char fun _ => point
    rw [stays] at here
    exact here.append found
  | separator c later belongs _ found =>
    obtain ⟨notBlank, _, _⟩ := ne_of_standsOutside belongs
    intro rest
    have goesOn : Place.endsTriple .outside '.' (c :: later ++ rest) = false := by
      rw [Place.endsTriple, List.cons_append, List.head?_cons, Option.all_some, notBlank,
        Bool.and_false]
    rw [List.cons_append, stretchesFrom, goesOn]
    have stays : Place.next .outside '.' = .outside := by decide
    simp only [stays, found rest, Bool.false_eq_true, if_false]
    cases parts : stretchesFrom .outside rest with
    | nil => exact absurd parts (stretchesFrom_ne_nil _ rest)
    | cons first more => rfl

/-- **A string is not cut** before its closing quote. -/
theorem short {quote : Char} {body rest : List Char} :
    (Turtle.shortExtent? quote 0 (body ++ rest) = some body.length →
      Passes (.insideQuotes quote) body .outside) ∧
    (Turtle.shortExtent? quote 1 (body ++ rest) = some body.length →
      Passes (.behindBackslash quote) body .outside) := by
  induction body with
  | nil =>
    exact ⟨fun found => absurd (Turtle.pos_of_shortExtent? found) (Nat.lt_irrefl 0),
      fun found => absurd (Turtle.pos_of_shortExtent? found) (Nat.lt_irrefl 0)⟩
  | cons c later shorter =>
    obtain ⟨between, behind⟩ := shorter
    have step : ∀ {place : Place}, place ≠ .outside → Passes (place.next c) later .outside →
        Passes place (c :: later) .outside := fun inside passes =>
      (Passes.char fun outside => absurd outside inside).append passes
    have inner : ∀ {skipped : Nat}, (Turtle.shortExtent? quote skipped (later ++ rest)).map (· + 1) =
        some (c :: later).length →
          Turtle.shortExtent? quote skipped (later ++ rest) = some later.length := by
      intro skipped found
      obtain ⟨count, there, same⟩ := Option.map_eq_some_iff.mp found
      rw [there, Nat.succ.inj same]
    constructor
    · intro found
      rw [List.cons_append, Turtle.shortExtent?] at found
      split at found
      · rename_i backslash
        refine step (by simp) ?_
        rw [Place.next, if_pos backslash]
        exact behind (inner found)
      · rename_i plain
        split at found
        · rename_i closes
          have nothing : later = [] := by simpa using found.symm
          refine step (by simp) ?_
          rw [Place.next, if_neg plain, if_pos closes, nothing]
          exact Passes.nil _
        · rename_i other
          split at found
          · cases found
          · refine step (by simp) ?_
            rw [Place.next, if_neg plain, if_neg other]
            exact between (inner found)
    · exact fun found => step (by simp) (between (inner found))

end Passes

/-- **A token that is no point of its own is not cut**, unless it is a string between triple
quotes. -/
theorem passes_token {c : Char} {body rest : List Char} {kind : TokenKind}
    (found : extent? c (body ++ rest) = some (some kind, body.length)) (isShort : kind ≠ .longString)
    (notPoint : c :: body ≠ ['.']) : Passes .outside (c :: body) .outside := by
  by_cases iri : c = '<'
  · subst iri
    obtain ⟨_, raw, isRaw, rfl⟩ := Turtle.exists_rawIri_of_extent? found
    have absent : '>' ∉ raw := fun member =>
      (isRaw.forall_mem '>' member).elim (by decide) (by decide)
    exact Passes.bracketed absent
  by_cases isQuote : c = '\x22' ∨ c = '\x27'
  · rw [Turtle.extent?_quote isQuote] at found
    obtain ⟨⟨kind, count⟩, reaches, same⟩ := Option.map_eq_some_iff.mp found
    cases same
    obtain ⟨_, closes, _⟩ := (Turtle.stringExtent?_cases reaches).resolve_left isShort
    have opens : Passes .outside [c] (.insideQuotes c) := by
      rcases isQuote with rfl | rfl <;> exact Passes.char fun _ => by decide
    exact opens.append (Passes.short.1 closes)
  by_cases comment : c = '#'
  · subst comment
    cases found
  by_cases point : c = '.'
  · subst point
    obtain ⟨_, _, same, extent⟩ := Turtle.isLexeme_point (body ++ rest)
    obtain ⟨rfl, rfl⟩ := List.cons.inj same
    rw [List.nil_append] at extent
    rw [extent] at found
    obtain rfl := List.length_eq_zero_iff.mp (Prod.mk.inj (Option.some.inj found)).2.symm
    exact absurd rfl notPoint
  · have other : Turtle.opensText c = false := by
      simpa [Turtle.opensText, iri, comment] using isQuote
    exact Passes.dotted (Turtle.isDotted_of_extent? found other point)

end HistoricalFigures.Query
