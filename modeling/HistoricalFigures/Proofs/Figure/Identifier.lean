import HistoricalFigures.Figure.Entity
import HistoricalFigures.Proofs.Text.Runs
import HistoricalFigures.Proofs.Text.Search
import HistoricalFigures.Proofs.Unicode.Lowercase
import Mathlib.Computability.Language
import Mathlib.Data.List.DropRight

/-!
**Identifiers made from names are in canonical form.** Every character that no identifier has becomes a
low line, low lines that follow each other become one, and those at the ends are taken away. What is left
are the runs of small letters and digits of the name in lower case, with a low line between them.

* `slugRuns_eq_maximalRuns`: the runs that an identifier is made of.
* `masked`, `merged`, `stripped`, `stripped_merged_masked`: the identifier step by step.
* `slugForm`, `mem_slugForm_iff`: the form of an identifier, and the runs of a text in this form.
* `slug_eq_self_iff`: a name that is its own identifier.
* `localId_entityUri`: the identifier is read back from the address of its entity.
* `slug_canonical`: the whole.
-/
namespace HistoricalFigures.Figure

open Text (AreRuns IsRun maximalRuns maximalRuns_append maximalRuns_cons run_induction)

variable {c : Char} {run rest text : List Char} {runs : List (List Char)}

/-! ### Runs -/

theorem isSlugChar_iff : isSlugChar c = true ↔ 'a' ≤ c ∧ c ≤ 'z' ∨ '0' ≤ c ∧ c ≤ '9' := by
  have within : ∀ low high : Char,
      (decide (low.val ≤ c.val) && decide (c.val ≤ high.val)) = true ↔ low ≤ c ∧ c ≤ high := fun _ _ =>
    Bool.and_eq_true_iff.trans (and_congr decide_eq_true_iff decide_eq_true_iff)
  rw [isSlugChar, Bool.or_eq_true]
  exact or_congr (within 'a' 'z') (within '0' '9')

theorem slugRuns_append (isRun : IsRun isSlugChar run rest) :
    slugRuns (run ++ rest) = run :: slugRuns rest := by
  obtain ⟨c, body, rfl⟩ := List.exists_cons_of_ne_nil isRun.nonempty
  obtain ⟨-, inside, ends⟩ := isRun
  induction body generalizing c with
  | nil =>
    have single : IsRun isSlugChar [c] rest := ⟨List.cons_ne_nil c [], inside, ends⟩
    rw [List.singleton_append, slugRuns, if_pos (inside c List.mem_cons_self), single.head?_any]
  | cons d body found =>
    obtain ⟨here, behind⟩ := List.forall_mem_cons.mp inside
    have next : ((d :: body) ++ rest).head?.any isSlugChar = true := behind d List.mem_cons_self
    rw [List.cons_append, slugRuns, if_pos here, next, found d behind]

/-- **The runs that an identifier is made of** are the maximal ones. -/
theorem slugRuns_eq_maximalRuns (text : List Char) : slugRuns text = maximalRuns isSlugChar text := by
  induction text using run_induction (p := isSlugChar) with
  | nil => rfl
  | other c rest other found =>
    rw [slugRuns, if_neg (Bool.eq_false_iff.mp other), maximalRuns_cons other, found]
  | run run rest isRun found => rw [slugRuns_append isRun, maximalRuns_append isRun, found]

theorem slugChars_eq (name : List Char) :
    slugChars name = ['_'].intercalate (maximalRuns isSlugChar (Unicode.lowercase name)) := by
  rw [slugChars, slugRuns_eq_maximalRuns]

/-- **The characters of an identifier** are small letters, digits and low lines. -/
theorem forall_mem_slug (name : String) :
    ∀ c ∈ (slug name).toList, isSlugChar c = true ∨ c = '_' := by
  intro c member
  rw [slug, String.toList_ofList, slugChars_eq] at member
  exact Text.mem_intercalate (Text.areRuns_maximalRuns _ _) member

/-! ### Step by step -/

/-- Whether a character is a low line. -/
def isLowLine (c : Char) : Bool := c = '_'

/-- A text with a low line in place of every character that no identifier has. -/
def masked (text : List Char) : List Char := text.map fun c => if isSlugChar c then c else '_'

/-- The finder of low lines. All that follow each other are one find, for which a single one stands. -/
def lowLines : Text.Finder (List Char)
  | _, [] => none
  | _, c :: rest => if isLowLine c then some (['_'], (rest.takeWhile isLowLine).length) else none

/-- A text in which low lines that follow each other are one. -/
def merged (text : List Char) : List Char := Text.replaceAll lowLines text

/-- A text without the low lines at its ends. -/
def stripped (text : List Char) : List Char :=
  Unicode.dropEndWhile isLowLine (text.dropWhile isLowLine)

theorem isLowLine_of_isSlugChar (inside : isSlugChar c = true) : isLowLine c = false := by
  refine decide_eq_false ?_
  rintro rfl
  exact absurd inside (by decide)

theorem masked_cons (other : isSlugChar c = false) (rest : List Char) :
    masked (c :: rest) = '_' :: masked rest := by
  rw [masked, List.map_cons, other]
  rfl

theorem masked_append (inside : ∀ c ∈ run, isSlugChar c = true) (rest : List Char) :
    masked (run ++ rest) = run ++ masked rest := by
  have same : masked run = run :=
    (List.map_congr_left fun c member => if_pos (inside c member)).trans run.map_id'
  rw [masked, List.map_append]
  exact congrArg (· ++ masked rest) same

theorem looksAhead_lowLines : Text.LooksAhead lowLines
  | _, [] => rfl
  | _, _ :: _ => rfl

theorem merged_cons (other : isLowLine c = false) (rest : List Char) :
    merged (c :: rest) = c :: merged rest :=
  Text.replaceAll_cons_of_none looksAhead_lowLines (if_neg (Bool.eq_false_iff.mp other))

theorem merged_append (bare : ∀ c ∈ run, isLowLine c = false) (rest : List Char) :
    merged (run ++ rest) = run ++ merged rest := by
  induction run with
  | nil => rfl
  | cons c body found =>
    obtain ⟨other, others⟩ := List.forall_mem_cons.mp bare
    rw [List.cons_append, merged_cons other, found others]
    rfl

/-- All low lines that follow the first one are passed over with it. -/
theorem merged_lowLines (rest : List Char) :
    merged ('_' :: rest) = '_' :: merged (rest.dropWhile isLowLine) := by
  have whole : rest.takeWhile isLowLine ++ rest.dropWhile isLowLine = rest :=
    List.takeWhile_append_dropWhile
  have found : lowLines none ('_' :: (rest.takeWhile isLowLine ++ rest.dropWhile isLowLine)) =
      some (['_'], (rest.takeWhile isLowLine).length) := by
    rw [whole]
    rfl
  have replaced := Text.replaceAll_of_found looksAhead_lowLines found
  rwa [whole] at replaced

theorem merged_dropWhile (text : List Char) :
    merged (text.dropWhile isLowLine) = (merged text).dropWhile isLowLine := by
  induction text with
  | nil => rfl
  | cons c rest found =>
    cases low : isLowLine c with
    | true =>
      obtain rfl : c = '_' := of_decide_eq_true low
      rw [List.dropWhile_cons_of_pos low, found, merged_lowLines, found, List.dropWhile_cons_of_pos low,
        List.dropWhile_idempotent]
    | false =>
      have stops : ¬ isLowLine c = true := Bool.eq_false_iff.mp low
      rw [List.dropWhile_cons_of_neg stops, merged_cons low, List.dropWhile_cons_of_neg stops]

/-- **A low line stands for all that follow it.** -/
theorem merged_lowLine (rest : List Char) :
    merged ('_' :: rest) = '_' :: (merged rest).dropWhile isLowLine := by
  rw [merged_lowLines, merged_dropWhile]

theorem dropWhile_merged_masked_cons (other : isSlugChar c = false) (rest : List Char) :
    (merged (masked (c :: rest))).dropWhile isLowLine = (merged (masked rest)).dropWhile isLowLine := by
  rw [masked_cons other, merged_lowLine, List.dropWhile_cons_of_pos rfl, List.dropWhile_idempotent]

/-- What is left of a text behind its first low lines are its runs with a low line between them, and
maybe one more at the end. -/
theorem exists_dropWhile_merged_masked (text : List Char) :
    ∃ tail : List Char, (∀ c ∈ tail, isLowLine c = true) ∧
      (merged (masked text)).dropWhile isLowLine =
        ['_'].intercalate (maximalRuns isSlugChar text) ++ tail := by
  induction text using run_induction (p := isSlugChar) with
  | nil => exact ⟨[], fun _ absent => absurd absent List.not_mem_nil, rfl⟩
  | other c rest other found =>
    rw [dropWhile_merged_masked_cons other, maximalRuns_cons other]
    exact found
  | run run rest isRun found =>
    have bare : ∀ c ∈ run, isLowLine c = false := fun c member =>
      isLowLine_of_isSlugChar (isRun.inside c member)
    have starts : (run ++ merged (masked rest)).dropWhile isLowLine = run ++ merged (masked rest) := by
      obtain ⟨c, body, rfl⟩ := List.exists_cons_of_ne_nil isRun.nonempty
      exact List.dropWhile_cons_of_neg (Bool.eq_false_iff.mp (bare c List.mem_cons_self))
    rw [masked_append isRun.inside, merged_append bare, starts, maximalRuns_append isRun]
    cases rest with
    | nil =>
      refine ⟨[], fun _ absent => absurd absent List.not_mem_nil, ?_⟩
      rw [Text.maximalRuns_nil, List.intercalate_singleton]
      rfl
    | cons d later =>
      -- The rest begins with one low line, which goes between this run and the next one, if there is one.
      have other : isSlugChar d = false := isRun.ends d rfl
      obtain ⟨tail, low, whole⟩ := found
      rw [dropWhile_merged_masked_cons other] at whole
      rw [masked_cons other, merged_lowLine, whole]
      cases maximalRuns isSlugChar (d :: later) with
      | nil =>
        refine ⟨'_' :: tail, List.forall_mem_cons.mpr ⟨rfl, low⟩, ?_⟩
        rw [List.intercalate_singleton]
        rfl
      | cons next more =>
        refine ⟨tail, low, ?_⟩
        rw [List.intercalate_cons_cons, List.append_assoc, List.append_assoc]
        rfl

/-- **The identifier step by step**: the runs of a text with a low line between them are what is left once
other characters have become low lines, these have become single ones, and none is left at the ends. -/
theorem stripped_merged_masked (text : List Char) :
    stripped (merged (masked text)) = ['_'].intercalate (maximalRuns isSlugChar text) := by
  obtain ⟨tail, low, whole⟩ := exists_dropWhile_merged_masked text
  rw [stripped, whole]
  refine Unicode.dropEndWhile_append (fun c last => isLowLine_of_isSlugChar ?_) low
  exact Text.getLast?_intercalate (Text.areRuns_maximalRuns _ _) last

/-! ### The form of an identifier -/

section Form

open scoped Computability

/-- One small letter or digit. -/
def slugLetter : Language Char := {text | ∃ c, ('a' ≤ c ∧ c ≤ 'z' ∨ '0' ≤ c ∧ c ≤ '9') ∧ text = [c]}

/-- Small letters and digits, at least one: `[a-z0-9]+`. -/
def slugWord : Language Char := slugLetter * slugLetter∗

/-- Words of small letters and digits with single low lines between them, `[a-z0-9]+(_[a-z0-9]+)*`. -/
def slugForm : Language Char := slugWord * ({['_']} * slugWord)∗

theorem mem_slugLetter_iff : text ∈ slugLetter ↔ ∃ c, isSlugChar c = true ∧ text = [c] :=
  exists_congr fun _ => and_congr_left' isSlugChar_iff.symm

theorem mem_slugWord_iff : text ∈ slugWord ↔ text ≠ [] ∧ ∀ c ∈ text, isSlugChar c = true := by
  constructor
  · rintro ⟨first, here, behind, later, rfl⟩
    obtain ⟨c, inside, rfl⟩ := mem_slugLetter_iff.mp here
    obtain ⟨letters, rfl, each⟩ := Language.mem_kstar.mp later
    refine ⟨List.cons_ne_nil c _, List.forall_mem_cons.mpr ⟨inside, fun d member => ?_⟩⟩
    obtain ⟨letter, among, within⟩ := List.mem_flatten.mp member
    obtain ⟨d, inside, rfl⟩ := mem_slugLetter_iff.mp (each letter among)
    exact List.mem_singleton.mp within ▸ inside
  · rintro ⟨nonempty, inside⟩
    obtain ⟨c, body, rfl⟩ := List.exists_cons_of_ne_nil nonempty
    obtain ⟨here, behind⟩ := List.forall_mem_cons.mp inside
    refine Language.append_mem_mul (a := [c]) (mem_slugLetter_iff.mpr ⟨c, here, rfl⟩) ?_
    refine Language.mem_kstar.mpr ⟨body.map fun d => [d], ?_, fun letter among => ?_⟩
    · rw [← List.flatMap_def, List.flatMap_singleton']
    · obtain ⟨d, member, rfl⟩ := List.mem_map.mp among
      exact mem_slugLetter_iff.mpr ⟨d, behind d member, rfl⟩

/-- Texts that begin with a low line and go on with a word are made of runs. -/
theorem exists_map_of_forall_mem {parts : List (List Char)}
    (each : ∀ part ∈ parts, part ∈ ({['_']} : Language Char) * slugWord) :
    ∃ more, AreRuns isSlugChar more ∧ parts = more.map (['_'] ++ ·) := by
  induction parts with
  | nil => exact ⟨[], fun _ absent => absurd absent List.not_mem_nil, rfl⟩
  | cons part parts found =>
    obtain ⟨⟨mark, isMark, run, isRun, rfl⟩, others⟩ := List.forall_mem_cons.mp each
    obtain ⟨more, areRuns, rfl⟩ := found others
    obtain rfl : mark = ['_'] := isMark
    exact ⟨run :: more, List.forall_mem_cons.mpr ⟨mem_slugWord_iff.mp isRun, areRuns⟩, rfl⟩

/-- **The form of an identifier**: runs of small letters and digits, at least one, with a low line between
them. -/
theorem mem_slugForm_iff : text ∈ slugForm ↔
    ∃ runs, runs ≠ [] ∧ AreRuns isSlugChar runs ∧ text = ['_'].intercalate runs := by
  constructor
  · rintro ⟨first, here, behind, later, rfl⟩
    obtain ⟨parts, rfl, each⟩ := Language.mem_kstar.mp later
    obtain ⟨more, areRuns, rfl⟩ := exists_map_of_forall_mem each
    refine ⟨first :: more, List.cons_ne_nil _ _,
      List.forall_mem_cons.mpr ⟨mem_slugWord_iff.mp here, areRuns⟩, ?_⟩
    rw [Text.intercalate_cons, List.flatMap_def]
  · rintro ⟨runs, nonempty, areRuns, rfl⟩
    obtain ⟨run, more, rfl⟩ := List.exists_cons_of_ne_nil nonempty
    obtain ⟨here, others⟩ := List.forall_mem_cons.mp areRuns
    rw [Text.intercalate_cons, List.flatMap_def]
    refine Language.append_mem_mul (mem_slugWord_iff.mpr here) (Language.join_mem_kstar fun part among => ?_)
    obtain ⟨next, member, rfl⟩ := List.mem_map.mp among
    exact Language.append_mem_mul rfl (mem_slugWord_iff.mpr (others next member))

end Form

/-! ### Names that are their own identifiers -/

/-- The characters of an identifier are their own lower case. -/
theorem isSmall_of_isSlugChar (belongs : isSlugChar c = true ∨ c = '_') : Unicode.IsSmall c := by
  rcases belongs with inside | rfl
  · have here := Unicode.eq_true_of_isAlphanum (p := fun d => !isSlugChar d || decide (Unicode.IsSmall d))
      (by decide +kernel) (Unicode.isAlphanum_of_isLower_or_isDigit inside)
    simpa [inside] using here
  · decide +kernel

/-- **Runs with low lines between them** are the identifier that they make. -/
theorem slugChars_intercalate (areRuns : AreRuns isSlugChar runs) :
    slugChars (['_'].intercalate runs) = ['_'].intercalate runs := by
  have small : Unicode.lowercase (['_'].intercalate runs) = ['_'].intercalate runs :=
    Unicode.lowercase_of_isSmall fun c member => isSmall_of_isSlugChar (Text.mem_intercalate areRuns member)
  rw [slugChars_eq, small, Text.maximalRuns_intercalate areRuns (by decide)]

/-- An identifier is empty, or it has the form of one. -/
theorem slug_cases (name : String) :
    maximalRuns isSlugChar (Unicode.lowercase name.toList) = [] ∧ slug name = "" ∨
      maximalRuns isSlugChar (Unicode.lowercase name.toList) ≠ [] ∧ (slug name).toList ∈ slugForm := by
  rw [slug, String.toList_ofList, slugChars_eq]
  by_cases empty : maximalRuns isSlugChar (Unicode.lowercase name.toList) = []
  · rw [empty]
    exact .inl ⟨rfl, rfl⟩
  · exact .inr ⟨empty, mem_slugForm_iff.mpr ⟨_, empty, Text.areRuns_maximalRuns _ _, rfl⟩⟩

theorem nil_notMem_slugForm : [] ∉ slugForm := by
  rintro ⟨first, here, behind, -, nothing⟩
  exact (mem_slugWord_iff.mp here).1 (List.append_eq_nil_iff.mp nothing).1

/-- **A name is its own identifier** exactly if it is empty or has the form of one. -/
theorem slug_eq_self_iff (name : String) : slug name = name ↔ name = "" ∨ name.toList ∈ slugForm := by
  constructor
  · intro same
    rcases slug_cases name with ⟨-, empty⟩ | ⟨-, form⟩
    · exact .inl (same.symm.trans empty)
    · exact .inr (same ▸ form)
  · rintro (rfl | form)
    · decide
    · obtain ⟨runs, -, areRuns, text⟩ := mem_slugForm_iff.mp form
      rw [slug, text, slugChars_intercalate areRuns, ← text, String.ofList_toList]

/-! ### Addresses -/

theorem afterLast_append {mark : Char} {after : List Char} (bare : mark ∉ after) (before : List Char) :
    afterLast mark (before ++ mark :: after) = after := by
  have reversed : (before ++ mark :: after).reverse = after.reverse ++ mark :: before.reverse := by
    rw [List.reverse_append, List.reverse_cons, List.append_assoc, List.singleton_append]
  have others : ∀ c ∈ after.reverse, decide (c ≠ mark) = true := fun c member =>
    decide_eq_true fun same => bare (same ▸ List.mem_reverse.mp member)
  rw [afterLast, reversed, List.takeWhile_append_of_pos others, List.takeWhile_cons_of_neg (by simp),
    List.append_nil, List.reverse_reverse]

/-- **The identifier of an entity is read back from its address** if it holds no number sign. -/
theorem localId_entityUri {id : String} (bare : '#' ∉ id.toList) : localId (entityUri id) = id := by
  have sign : Rdf.ontologyNamespace.toList = Rdf.ontologyNamespace.toList.dropLast ++ ['#'] := by decide
  have whole : (entityUri id).toList = Rdf.ontologyNamespace.toList.dropLast ++ '#' :: id.toList := by
    rw [entityUri, String.toList_append, sign, List.append_assoc, List.singleton_append, ← sign]
  have marked : '#' ∈ (entityUri id).toList := by
    rw [whole]
    exact List.mem_append_right _ List.mem_cons_self
  rw [localId, localIdChars, if_pos marked, whole, afterLast_append bare, String.ofList_toList]

/-! ### Identifiers -/

/-- **The identifier that a name makes is canonical.** It is what is left of the name in lower case once
other characters have become low lines, these have become single ones, and none is left at the ends. It is
empty or consists of words with single low lines between them, empty exactly if the name in lower case has
neither small letters nor digits, its words are the runs of the name in lower case, in order, it is its own
identifier, and it is read back from the address that is built from it. -/
theorem slug_canonical (name : String) :
    slug name = String.ofList (stripped (merged (masked (Unicode.lowercase name.toList)))) ∧
      (slug name = "" ∨ (slug name).toList ∈ slugForm) ∧
      (slug name = "" ↔ ∀ c ∈ Unicode.lowercase name.toList, isSlugChar c = false) ∧
      maximalRuns isSlugChar (slug name).toList =
        maximalRuns isSlugChar (Unicode.lowercase name.toList) ∧
      slug (slug name) = slug name ∧
      localId (entityUri (slug name)) = slug name := by
  have form := slug_cases name
  have canonical : slug name = "" ∨ (slug name).toList ∈ slugForm := form.imp And.right And.right
  refine ⟨?_, canonical, ?_, ?_, (slug_eq_self_iff _).mpr canonical, localId_entityUri fun sign => ?_⟩
  · rw [stripped_merged_masked, ← slugChars_eq, slug]
  · rw [← Text.maximalRuns_eq_nil_iff]
    rcases form with ⟨nothing, empty⟩ | ⟨something, inForm⟩
    · exact iff_of_true empty nothing
    · refine iff_of_false (fun empty => nil_notMem_slugForm ?_) something
      rwa [empty] at inForm
  · rw [slug, String.toList_ofList, slugChars_eq,
      Text.maximalRuns_intercalate (Text.areRuns_maximalRuns _ _) (by decide)]
  · exact absurd (forall_mem_slug name '#' sign) (by decide)

/-- The identifier that a name with accents and blanks makes. -/
example : slug "  Andr\u00E9s de  Santa Cruz " = "andr_s_de_santa_cruz" := by decide +kernel

end HistoricalFigures.Figure
