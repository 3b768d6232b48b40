import Mathlib.Data.List.TakeWhile
import HistoricalFigures.Proofs.Outcome
import HistoricalFigures.Proofs.Text.Search
import HistoricalFigures.Proofs.Unicode.Blank
import HistoricalFigures.Query.Parsing

/-!
**Which texts are changes.** The kind of a query is told by phrases that may stand anywhere in its
text, in whatever case.

* `IsUpdatePhrase`, `MentionsUpdate`: the phrases that tell a change, and the texts with one.
* `mentionsUpdate_of_parse`: a text that is read as a change mentions one.
* `not_mentionsUpdate_of_unbroken`: a text without blanks mentions none.
* `classify_of_selects`: a text that mentions no change but selects is a selection.
-/
namespace HistoricalFigures

namespace Query

/-! ### Phrases -/

/-- The phrases that tell a change: two words with one space, or two words with blanks, between
them. -/
def IsUpdatePhrase (phrase : List Char) : Prop :=
  phrase = "INSERT DATA".toList ∨
    ∃ blanks, blanks ≠ [] ∧ (∀ c ∈ blanks, Unicode.isBlank c = true) ∧
      phrase = "DELETE".toList ++ (blanks ++ "WHERE".toList)

/-- A phrase that tells a change occurs in a text, in whatever case. -/
def MentionsUpdate (text : String) : Prop :=
  ∃ phrase, IsUpdatePhrase phrase ∧ phrase <:+: Unicode.uppercase text.toList

/-- What stands at the start of a text where two words are found. -/
theorem prefix_of_wordPair {first second : String} {before : Option Char} {text : List Char}
    (found : (wordPair first second before text).isSome = true) :
    ∃ blanks, blanks ≠ [] ∧ (∀ c ∈ blanks, Unicode.isBlank c = true) ∧
      first.toList ++ (blanks ++ second.toList) <+: text := by
  obtain ⟨result, pair⟩ := Option.isSome_iff_exists.mp found
  obtain ⟨_, isFirst, pair⟩ := Option.bind_eq_some_iff.mp pair
  obtain ⟨later, areBlanks, pair⟩ := Option.bind_eq_some_iff.mp pair
  obtain ⟨behind, isSecond, _⟩ := Option.map_eq_some_iff.mp pair
  simp only [afterWord?, Option.ite_none_right_eq_some, Option.some.injEq,
    List.isPrefixOf_iff_prefix] at isFirst isSecond
  obtain ⟨⟨rest, rfl⟩, rfl⟩ := isFirst
  rw [List.drop_left] at areBlanks
  simp only [afterBlanks?, Option.ite_none_right_eq_some, Option.some.injEq] at areBlanks
  obtain ⟨blank, rfl⟩ := areBlanks
  refine ⟨rest.takeWhile Unicode.isBlank, ?_, List.all_eq_true.mp List.all_takeWhile, ?_⟩
  · cases rest with
    | nil => cases blank
    | cons c rest =>
      rw [List.head?_cons, Option.any_some] at blank
      rw [List.takeWhile_cons_of_pos blank]
      exact List.cons_ne_nil c _
  · have whole : rest.takeWhile Unicode.isBlank ++ Unicode.trimStart rest = rest :=
      List.takeWhile_append_dropWhile
    have start : first.toList ++ (rest.takeWhile Unicode.isBlank ++ second.toList) <+:
        first.toList ++ (rest.takeWhile Unicode.isBlank ++ Unicode.trimStart rest) := by
      rw [List.prefix_append_right_inj, List.prefix_append_right_inj]
      exact isSecond.1
    rwa [whole] at start

/-- The upper case of a stretch of a text is a stretch of its upper case. -/
theorem isInfix_uppercase {stretch text : List Char} (inside : stretch <:+: text) :
    Unicode.uppercase stretch <:+: Unicode.uppercase text := by
  obtain ⟨before, behind, rfl⟩ := inside
  exact ⟨Unicode.uppercase before, Unicode.uppercase behind, by
    simp only [Unicode.uppercase, List.flatMap_append]⟩

theorem mentionsUpdate_of_classify {text : String} {kind : Kind}
    (told : classify text = .ok kind) (changes : kind ≠ .select) : MentionsUpdate text := by
  have whole := isInfix_uppercase (Unicode.isInfix_trim text.toList)
  unfold classify at told
  dsimp only at told
  split at told
  · rename_i inserts
    exact ⟨_, .inl rfl, (Text.infix_of_contains inserts).trans whole⟩
  · split at told
    · rename_i deletes
      obtain ⟨before, rest, behind, here⟩ := Text.exists_of_findFirst deletes
      obtain ⟨blanks, nonempty, areBlanks, start⟩ := prefix_of_wordPair here
      exact ⟨_, .inr ⟨blanks, nonempty, areBlanks, rfl⟩,
        (start.isInfix.trans behind.isInfix).trans whole⟩
    · split at told
      · cases told
        exact absurd rfl changes
      · cases told

theorem classify_of_parse {text : String} {query : Query} (parsed : parse text = .ok query) :
    classify text = .ok query.body.kind := by
  obtain ⟨kind, told, parsed⟩ := eq_ok_of_bind parsed
  obtain ⟨body, reads, same⟩ := eq_ok_of_bind parsed
  cases same
  rw [told]
  cases kind with
  | insert =>
    unfold parseBody at reads
    dsimp only at reads
    split at reads <;> cases reads
    rfl
  | delete =>
    unfold parseBody at reads
    dsimp only at reads
    split at reads
    · unfold deletePattern at reads
      dsimp only at reads
      split at reads
      · obtain ⟨subject, _, reads⟩ := eq_ok_of_bind reads
        obtain ⟨predicate, _, reads⟩ := eq_ok_of_bind reads
        obtain ⟨object, _, reads⟩ := eq_ok_of_bind reads
        cases reads
        rfl
      · cases reads
    · cases reads
  | select =>
    unfold parseBody parseSelect at reads
    dsimp only at reads
    split at reads <;> cases reads
    rfl

theorem not_blank_of_classify {text : String} {kind : Kind} (told : classify text = .ok kind) :
    text.toList.all Unicode.isBlank = false := by
  refine Bool.eq_false_iff.mpr fun blank => ?_
  have nothing : Unicode.trim text.toList = [] := by
    have start : Unicode.trimStart text.toList = [] :=
      List.dropWhile_eq_nil_iff.mpr (List.all_eq_true.mp blank)
    rw [Unicode.trim, start]
    rfl
  unfold classify at told
  rw [nothing] at told
  cases told

theorem parse_of_classify {text : String} {kind : Kind} {body : Body}
    (told : classify text = .ok kind)
    (reads : parseBody kind (declaredNamespaces (Unicode.trim text.toList))
      (Unicode.trim text.toList) = .ok body) :
    parse text = .ok ⟨declaredNamespaces (Unicode.trim text.toList), body⟩ := by
  unfold parse
  rw [told]
  change (parseBody kind _ _ >>= fun _ => _) = _
  rw [reads]
  rfl

/-- **A text that is read as a change mentions one.** -/
theorem mentionsUpdate_of_parse {text : String} {query : Query} (parsed : parse text = .ok query)
    (changes : query.body.kind ≠ .select) : MentionsUpdate text :=
  mentionsUpdate_of_classify (classify_of_parse parsed) changes

/-- Every phrase that tells a change has a blank. -/
theorem exists_blank_of_isUpdatePhrase {phrase : List Char} (tells : IsUpdatePhrase phrase) :
    ∃ c ∈ phrase, Unicode.isBlank c = true := by
  rcases tells with rfl | ⟨blanks, nonempty, areBlanks, rfl⟩
  · exact ⟨' ', by decide, by decide⟩
  · obtain ⟨c, later, rfl⟩ := List.exists_cons_of_ne_nil nonempty
    have here : c ∈ c :: later := List.mem_cons_self
    exact ⟨c, List.mem_append_right _ (List.mem_append_left _ here), areBlanks c here⟩

/-- **A text without blanks mentions no change**: upper case does not make a blank. -/
theorem not_mentionsUpdate_of_unbroken {text : String}
    (unbroken : ∀ c ∈ text.toList, Unicode.isBlank c = false) : ¬ MentionsUpdate text := by
  rintro ⟨phrase, tells, inside⟩
  obtain ⟨c, member, blank⟩ := exists_blank_of_isUpdatePhrase tells
  rw [Unicode.isBlank_of_mem_uppercase unbroken c (inside.subset member)] at blank
  cases blank

/-- **A text that mentions no change but selects is a selection.** -/
theorem classify_of_selects {text : String} (quiet : ¬ MentionsUpdate text)
    (selects : "SELECT".toList <:+: Unicode.uppercase (Unicode.trim text.toList)) :
    classify text = .ok .select := by
  cases told : classify text with
  | ok kind =>
    by_cases same : kind = .select
    · rw [same]
    · exact absurd (mentionsUpdate_of_classify told same) quiet
  | error cause =>
    unfold classify at told
    dsimp only at told
    rw [Text.contains_of_infix selects] at told
    split at told
    · cases told
    · split at told <;> cases told

end Query

end HistoricalFigures
