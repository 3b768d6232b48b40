import HistoricalFigures.Proofs.Literal.Escaping
import HistoricalFigures.Proofs.Query.PatternTerms
import HistoricalFigures.Query.Evaluation

/-!
**What a deletion takes away that names a literal.** Its text escapes the value, its block ends at the
first closing brace, even at one between quotes, and what stands between the quotes is compared as
it is written, with the values of literals and of resources.

* `Removes`: a text is a deletion of certain statements.
* `deletionText`: the deletion of a literal by its subject, its predicate and its value.
* `comparedValue?`: the text that such a deletion compares with values.
* `findAll_stringPart`: the terms of the string that its block ends in.
* `exists_parse_deletionText_iff`: what such a text is read as.
* `removes_literal_iff`: when the literals that are named are taken away, and nothing else.
-/
namespace HistoricalFigures.Query

open Rdf (Namespaces Statement Store)
open Turtle (formatStringChar)

/-! ### Deletions of literals -/

/-- A text is a deletion that takes the doomed statements from a store, tells how many they were, and
leaves the others in order. -/
def Removes (text : String) (store : Store) (doomed : Statement → Prop) [DecidablePred doomed] :
    Prop :=
  ∃ query subject predicate object, parse text = .ok query ∧
    query.body = .delete subject predicate object ∧
      (deleteMatching subject predicate object store).1.statements =
        store.statements.filter (fun statement => ¬ doomed statement) ∧
      (deleteMatching subject predicate object store).2 =
        (store.statements.filter fun statement => doomed statement).length

/-- A statement has a subject, a predicate and, as its object, a literal of a value. -/
def NamesLiteral (subject predicate value : String) (statement : Statement) : Prop :=
  statement.subject = subject ∧ statement.predicate = predicate ∧
    statement.object.kind = .literal ∧ statement.object.value = value

instance (subject predicate value : String) : DecidablePred (NamesLiteral subject predicate value) :=
  fun _ => inferInstanceAs (Decidable (_ ∧ _))

/-- The deletion of a literal. -/
def deletionText (subject predicate value : String) : String :=
  "DELETE WHERE \x7b <" ++ subject ++ "> <" ++ predicate ++ "> \x22" ++
    Literal.escapeLiteral value ++ "\x22 \x7d"

/-- A text mentions an insertion, in whatever case. -/
def MentionsInsertion (text : String) : Prop :=
  "INSERT DATA".toList <:+: Unicode.uppercase text.toList

/-- What is left of a string that a block ends in: it loses the blanks at its end, then the points,
and then the blanks again. -/
def openPart (text : List Char) : List Char :=
  Unicode.trimEnd (Unicode.dropEndWhile (· = '.') (Unicode.trimEnd text))

/-- **The text that a deletion of a literal compares with values**: the escaped value. Where that has
a closing brace it is what stands before the brace without its last character, if it has no blank. -/
def comparedValue? (value : String) : Option String :=
  let written := (Literal.escapeLiteral value).toList
  let left := openPart (written.takeWhile (· ≠ '\x7d'))
  if '\x7d' ∉ written then some (Literal.escapeLiteral value)
  else if left.all fun c => !Unicode.isBlank c then some (String.ofList left.dropLast)
  else none

/-- A value without marks that are escaped, and without a closing brace, is compared as it is. -/
theorem comparedValue?_eq_self {value : String}
    (plain : ∀ c ∈ value.toList, c ∉ ['\\', '\x22', '\x7d', '\r', '\n', '\t']) :
    comparedValue? value = some value := by
  have kept : ∀ text : List Char,
      (∀ c ∈ text, c ∉ ['\\', '\x22', '\x7d', '\r', '\n', '\t']) →
        Literal.escapeFrom false text = text := by
    intro text each
    induction text with
    | nil => rfl
    | cons c rest found =>
      obtain ⟨here, others⟩ := List.forall_mem_cons.mp each
      simp only [List.mem_cons, List.not_mem_nil, or_false, not_or] at here
      obtain ⟨backslash, quote, _, carriage, feed, tab⟩ := here
      have notBreak : ¬ Literal.isBreak c = true := by
        simp only [Literal.isBreak, Bool.or_eq_true, decide_eq_true_eq]
        exact not_or.mpr ⟨carriage, feed⟩
      rw [Literal.escapeFrom, if_neg notBreak, Literal.escapeChar,
        if_neg (not_or.mpr ⟨backslash, quote⟩), if_neg tab, found others]
      rfl
  have written : Literal.escapeLiteral value = value := by
    rw [Literal.escapeLiteral, Literal.escapeChars, kept _ plain, String.ofList_toList]
  have noBrace : '\x7d' ∉ value.toList := fun member =>
    plain _ member (by decide)
  unfold comparedValue?
  rw [written]
  exact if_pos noBrace

/-! ### What the pattern is read as -/

/-- The block of a deletion of a literal from its string on, up to the first closing brace. -/
def stringPart (written : List Char) : List Char :=
  (written ++ ['\x22', ' ', '\x7d']).takeWhile (· ≠ '\x7d')

theorem stringPart_of_notMem {written : List Char} (absent : '\x7d' ∉ written) :
    stringPart written = written ++ ['\x22', ' '] := by
  rw [stringPart, List.takeWhile_append_of_pos]
  · rfl
  · intro c member
    simpa using ne_of_mem_of_not_mem member absent

theorem stringPart_of_mem {written : List Char} (brace : '\x7d' ∈ written) :
    stringPart written = written.takeWhile (· ≠ '\x7d') := by
  rw [stringPart, List.takeWhile_append, if_neg]
  intro length
  have all_ := List.takeWhile_eq_self_iff.mp ((List.takeWhile_prefix _).eq_of_length length)
  simpa using all_ _ brace

/-- The terms behind a subject and a predicate. -/
theorem findAll_named {subject predicate : List Char} (noClose : '>' ∉ subject)
    (noClose' : '>' ∉ predicate) (rest : List Char) :
    Text.findAll patternTerm
        ('<' :: (subject ++ '>' :: ' ' :: '<' :: (predicate ++ '>' :: ' ' :: rest))) =
      ('<' :: subject ++ ['>']) :: ('<' :: predicate ++ ['>']) ::
        Text.findAll patternTerm rest := by
  rw [findAll_bracketed noClose]
  refine congrArg _ ((findAll_blanks (.of [' '] rfl) _).trans ?_)
  rw [findAll_bracketed noClose']
  exact congrArg _ (findAll_blanks (.of [' '] rfl) rest)

/-- A string at the end of a block loses only what follows its quote. -/
theorem trim_block (front tail : List Char) :
    Unicode.trim (Unicode.dropEndWhile (· = '.')
        (Unicode.trim (' ' :: '<' :: (front ++ '\x22' :: tail)))) =
      '<' :: (front ++ '\x22' :: openPart tail) := by
  have start : ∀ text, Unicode.trimStart ('<' :: text) = '<' :: text := fun text =>
    trimStart_cons (by decide) text
  have first : Unicode.trimStart (' ' :: '<' :: (front ++ '\x22' :: tail)) =
      '<' :: (front ++ '\x22' :: tail) :=
    (trimStart_append (.of [' '] rfl) _).trans (start _)
  have stays : ∀ (p : Char → Bool) (tail : List Char), p '\x22' = false →
      Unicode.dropEndWhile p ('<' :: (front ++ '\x22' :: tail)) =
        '<' :: (front ++ '\x22' :: Unicode.dropEndWhile p tail) := fun p tail quote =>
    Unicode.dropEndWhile_append_cons quote ('<' :: front) tail
  have cut : Unicode.trim (' ' :: '<' :: (front ++ '\x22' :: tail)) =
      '<' :: (front ++ '\x22' :: Unicode.trimEnd tail) := by
    rw [Unicode.trim, first]
    exact stays _ tail (by decide)
  rw [cut, stays _ _ (by decide), Unicode.trim, start]
  exact stays _ _ (by decide)

theorem isPrefix_openPart (text : List Char) : openPart text <+: text :=
  ((Unicode.isPrefix_dropEndWhile _ _).trans (Unicode.isPrefix_dropEndWhile _ _)).trans (Unicode.isPrefix_dropEndWhile _ _)

/-- A closed string loses the blank behind it. -/
theorem openPart_closed (text : List Char) :
    openPart (text ++ ['\x22', ' ']) = text ++ ['\x22'] := by
  have stays : ∀ (p : Char → Bool) (tail : List Char), p '\x22' = false →
      Unicode.dropEndWhile p (text ++ '\x22' :: tail) = text ++ '\x22' :: Unicode.dropEndWhile p tail :=
    fun p tail quote => Unicode.dropEndWhile_append_cons quote text tail
  have cut : Unicode.trimEnd (text ++ ['\x22', ' ']) = text ++ ['\x22'] := stays _ [' '] (by decide)
  rw [openPart, cut, stays _ [] (by decide)]
  exact stays _ [] (by decide)

/-- An open string with a blank has another term behind it. -/
theorem findAll_ne_nil_of_openPart {text : List Char}
    (blank : ∃ c ∈ openPart text, Unicode.isBlank c = true) :
    Text.findAll patternTerm ((openPart text).dropWhile fun c => !Unicode.isBlank c) ≠ [] := by
  obtain ⟨c, member, isBlank⟩ := blank
  obtain ⟨front, last, whole, other⟩ := Unicode.exists_of_trimEnd_ne_nil (List.ne_nil_of_mem member)
  change openPart text = front ++ [last] at whole
  have left : (openPart text).dropWhile (fun c => !Unicode.isBlank c) ≠ [] := by
    intro nothing
    have all := List.dropWhile_eq_nil_iff.mp nothing c member
    rw [isBlank] at all
    cases all
  have ends : ((openPart text).dropWhile fun c => !Unicode.isBlank c).getLast left = last := by
    rw [(List.dropWhile_suffix _).getLast left]
    simp only [whole, List.getLast_concat]
  exact findAll_ne_nil (ends ▸ List.getLast_mem left) other

/-- **The terms of a string at the end of a block**: one, which holds what is compared, or several. -/
theorem findAll_stringPart (value : String) :
    (∃ last, comparedValue? value = some (String.ofList last.dropLast) ∧
      Text.findAll patternTerm ('\x22' :: openPart (stringPart (Literal.escapeLiteral value).toList)) =
        ['\x22' :: last]) ∨
      comparedValue? value = none ∧ 2 ≤ (Text.findAll patternTerm
        ('\x22' :: openPart (stringPart (Literal.escapeLiteral value).toList))).length := by
  have escaped := Literal.toList_escapeLiteral value
  unfold comparedValue?
  by_cases brace : '\x7d' ∈ (Literal.escapeLiteral value).toList
  · have start : openPart ((Literal.escapeLiteral value).toList.takeWhile (· ≠ '\x7d')) <+:
        (Literal.unbroken value).toList.flatMap formatStringChar := by
      rw [← escaped]
      exact (isPrefix_openPart _).trans (List.takeWhile_prefix _)
    rw [stringPart_of_mem brace, findAll_openText (quotedTerm?_of_isPrefix start)]
    dsimp only
    rw [if_neg (not_not.mpr brace)]
    generalize (Literal.escapeLiteral value).toList.takeWhile (· ≠ '\x7d') = cut
    cases whole : (openPart cut).all fun c => !Unicode.isBlank c with
    | true =>
      have none_ : (openPart cut).dropWhile (fun c => !Unicode.isBlank c) = [] :=
        List.dropWhile_eq_nil_iff.mpr (List.all_eq_true.mp whole)
      have all_ : (openPart cut).takeWhile (fun c => !Unicode.isBlank c) = openPart cut :=
        List.takeWhile_eq_self_iff.mpr (List.all_eq_true.mp whole)
      rw [none_, all_]
      exact .inl ⟨openPart cut, rfl, rfl⟩
    | false =>
      obtain ⟨c, member, blank⟩ := List.all_eq_false.mp whole
      have others := findAll_ne_nil_of_openPart ⟨c, member, by simpa using blank⟩
      refine .inr ⟨rfl, ?_⟩
      have count := List.length_pos_iff.mpr others
      rw [List.length_cons]
      omega
  · refine .inl ⟨(Literal.escapeLiteral value).toList ++ ['\x22'], ?_, ?_⟩
    · rw [if_pos brace, List.dropLast_concat, String.ofList_toList]
    · rw [stringPart_of_notMem brace, openPart_closed, escaped, findAll_closedText]

/-- The body of a query is read from its text as one of its kind. -/
theorem body_of_parse {text : String} {query : Query} (parsed : parse text = .ok query) :
    parseBody query.body.kind (declaredNamespaces (Unicode.trim text.toList))
      (Unicode.trim text.toList) = .ok query.body := by
  have told := classify_of_parse parsed
  obtain ⟨kind, told', parsed⟩ := eq_ok_of_bind parsed
  obtain ⟨body, reads, same⟩ := eq_ok_of_bind parsed
  cases same
  cases told.symm.trans told'
  exact reads

section Reading

variable {subject predicate : String}
  (isSubject : ∀ c ∈ subject.toList, Turtle.isIriChar c = true)
  (isPredicate : ∀ c ∈ predicate.toList, Turtle.isIriChar c = true)

/-- The block of a deletion of a literal, up to a string. -/
def blockFront (subject predicate : String) : List Char :=
  ' ' :: '<' :: (subject.toList ++ '>' :: ' ' :: '<' :: (predicate.toList ++ ['>', ' ']))

theorem toList_deletionText (subject predicate value : String) :
    (deletionText subject predicate value).toList =
      "DELETE WHERE \x7b".toList ++ (blockFront subject predicate ++ '\x22' ::
        ((Literal.escapeLiteral value).toList ++ ['\x22', ' ', '\x7d'])) := by
  unfold deletionText blockFront
  simp only [String.toList_append, String.reduceToList, List.append_assoc, List.cons_append,
    List.nil_append]

theorem trim_deletionText (subject predicate value : String) :
    Unicode.trim (deletionText subject predicate value).toList =
      (deletionText subject predicate value).toList := by
  have begins : (deletionText subject predicate value).toList = 'D' :: ("ELETE WHERE \x7b".toList ++
      (blockFront subject predicate ++ '\x22' ::
        ((Literal.escapeLiteral value).toList ++ ['\x22', ' ', '\x7d']))) :=
    toList_deletionText subject predicate value
  have ends : (deletionText subject predicate value).toList = ("DELETE WHERE \x7b".toList ++
      (blockFront subject predicate ++ '\x22' ::
        ((Literal.escapeLiteral value).toList ++ ['\x22', ' ']))) ++ ['\x7d'] := by
    rw [toList_deletionText]
    simp only [List.append_assoc, List.cons_append, List.nil_append]
  have whole := trim_append (.of [] rfl) (.of [] rfl) begins ends (by decide) (by decide)
  rwa [List.nil_append, List.append_nil] at whole

/-- It is a deletion unless it mentions an insertion. -/
theorem classify_deletionText_iff {subject predicate value : String} :
    classify (deletionText subject predicate value) = .ok .delete ↔
      ¬ MentionsInsertion (deletionText subject predicate value) := by
  have found : ∀ rest, wordPair "DELETE" "WHERE" none ("DELETE WHERE \x7b".toList ++ rest) =
      some (Text.endingAt ("DELETE WHERE \x7b".toList ++ rest) (' ' :: '\x7b' :: rest) ()) :=
    fun rest => rfl
  have upper : ∃ rest, Unicode.uppercase (deletionText subject predicate value).toList =
      "DELETE WHERE \x7b".toList ++ rest := by
    rw [toList_deletionText, Unicode.uppercase, List.flatMap_append]
    exact ⟨_, congrArg (· ++ _) (by decide)⟩
  obtain ⟨rest, upper⟩ := upper
  have deletes : (Text.findFirst (wordPair "DELETE" "WHERE")
      (Unicode.uppercase (deletionText subject predicate value).toList)).isSome = true := by
    rw [upper, Text.findFirst_of_found (by simp) (found rest)]
    rfl
  unfold classify
  rw [trim_deletionText]
  dsimp only
  by_cases inserts : MentionsInsertion (deletionText subject predicate value)
  · rw [if_pos (Text.contains_of_infix inserts)]
    exact iff_of_false (fun same => by cases same) (not_not.mpr inserts)
  · rw [if_neg fun occurs => inserts (Text.infix_of_contains occurs), if_pos deletes]
    exact iff_of_true rfl inserts

include isSubject isPredicate

theorem deleteBlock?_deletionText (value : String) :
    deleteBlock? (deletionText subject predicate value).toList =
      some (blockFront subject predicate ++ '\x22' ::
        stringPart (Literal.escapeLiteral value).toList) := by
  obtain ⟨before, behind, whole, absent⟩ := List.eq_append_cons_of_mem
    (List.mem_append_right (Literal.escapeLiteral value).toList
      (by decide : '\x7d' ∈ ['\x22', ' ', '\x7d']))
  have cut : stringPart (Literal.escapeLiteral value).toList = before := by
    rw [stringPart, whole, List.takeWhile_append_of_pos, List.takeWhile_cons_of_neg (by decide),
      List.append_nil]
    intro c member
    simpa using ne_of_mem_of_not_mem member absent
  have free : '\x7d' ∉ blockFront subject predicate ++ '\x22' :: before := by
    have noBrace : '\x7d' ∉ subject.toList := fun member =>
      absurd (isSubject _ member) (by decide)
    have noBrace' : '\x7d' ∉ predicate.toList := fun member =>
      absurd (isPredicate _ member) (by decide)
    simp [blockFront, noBrace, noBrace', absent]
  have found : ∀ rest, blockOf "delete" "where" none ("DELETE WHERE \x7b".toList ++ rest) =
      some (Text.endingAt ("DELETE WHERE \x7b".toList ++ rest) rest rest) := fun rest => rfl
  have closes := upToMark?_append free behind
  rw [List.append_assoc, List.cons_append] at closes
  rw [deleteBlock?, toList_deletionText, Text.findFirst_of_found (by simp) (found _), Option.bind_some,
    whole, closes, cut]
  rfl

/-- **What the pattern of a deletion of a literal is read as.** -/
theorem deletePattern_eq_ok_iff (namespaces : Namespaces) (value : String) (body : Body) :
    deletePattern namespaces (blockFront subject predicate ++ '\x22' ::
        stringPart (Literal.escapeLiteral value).toList) = .ok body ↔
      ∃ text, comparedValue? value = some text ∧
        body = .delete (some subject) (some predicate) (some text) := by
  have noClose : '>' ∉ subject.toList := fun member =>
    absurd (isSubject _ member) (by decide)
  have noClose' : '>' ∉ predicate.toList := fun member =>
    absurd (isPredicate _ member) (by decide)
  have trimmed := trim_block (subject.toList ++ '>' :: ' ' :: '<' :: (predicate.toList ++ ['>', ' ']))
    (stringPart (Literal.escapeLiteral value).toList)
  have terms := findAll_named noClose noClose'
    ('\x22' :: openPart (stringPart (Literal.escapeLiteral value).toList))
  simp only [List.append_assoc, List.cons_append, List.nil_append] at trimmed
  unfold deletePattern blockFront
  simp only [List.append_assoc, List.cons_append, List.nil_append]
  rw [trimmed]
  rw [List.cons_append, List.cons_append] at terms
  rw [terms]
  rcases findAll_stringPart value with ⟨last, compared, one⟩ | ⟨compared, several⟩
  · rw [one, compared]
    simp only [← List.cons_append, patternPart_bracketed, patternPart_quoted, String.ofList_toList]
    constructor
    · rintro same
      cases same
      exact ⟨_, rfl, rfl⟩
    · rintro ⟨text, same, rfl⟩
      cases same
      rfl
  · rw [compared]
    refine iff_of_false ?_ fun ⟨text, absent, _⟩ => nomatch absent
    match Text.findAll patternTerm
        ('\x22' :: openPart (stringPart (Literal.escapeLiteral value).toList)), several with
    | first :: second :: more, _ => exact nofun

/-- **What a deletion of a literal is read as.** -/
theorem exists_parse_deletionText_iff (value : String) (first second third : Option String) :
    (∃ query, parse (deletionText subject predicate value) = .ok query ∧
        query.body = .delete first second third) ↔
      ¬ MentionsInsertion (deletionText subject predicate value) ∧
        ∃ text, comparedValue? value = some text ∧
          first = some subject ∧ second = some predicate ∧ third = some text := by
  have reads : ∀ namespaces body, parseBody .delete namespaces
      (Unicode.trim (deletionText subject predicate value).toList) = .ok body ↔
        ∃ text, comparedValue? value = some text ∧
          body = .delete (some subject) (some predicate) (some text) := by
    intro namespaces body
    rw [trim_deletionText, parseBody, deleteBlock?_deletionText isSubject isPredicate]
    exact deletePattern_eq_ok_iff isSubject isPredicate namespaces value body
  constructor
  · rintro ⟨query, parsed, body⟩
    have told := classify_of_parse parsed
    have read := body_of_parse parsed
    rw [body] at told read
    refine ⟨classify_deletionText_iff.mp told, ?_⟩
    obtain ⟨text, compared, same⟩ := (reads _ _).mp read
    cases same
    exact ⟨text, compared, rfl, rfl, rfl⟩
  · rintro ⟨noInsertion, text, compared, rfl, rfl, rfl⟩
    exact ⟨_, parse_of_classify (classify_deletionText_iff.mpr noInsertion)
      ((reads _ _).mpr ⟨text, compared, rfl⟩), rfl⟩

end Reading

/-! ### What is taken away -/

/-- The statements that fit a pattern are the doomed ones just where every statement is one that fits
if it is doomed. -/
theorem removeAll_eq_iff (store : Store) (pattern : Rdf.Pattern) (doomed : Statement → Prop)
    [DecidablePred doomed] :
    ((store.removeAll pattern).1.statements = store.statements.filter (fun statement => ¬ doomed statement) ∧
      (store.removeAll pattern).2 =
        (store.statements.filter fun statement => doomed statement).length) ↔
      ∀ statement ∈ store.statements, pattern.fits statement = true ↔ doomed statement := by
  constructor
  · rintro ⟨left, _⟩ statement member
    have same : statement ∈ (store.without pattern).statements ↔
        statement ∈ store.statements.filter fun statement => ¬ doomed statement := by
      rw [← left]
      rfl
    rw [Store.mem_without, List.mem_filter, and_iff_right member, and_iff_right member,
      decide_eq_true_eq] at same
    rw [← not_iff_not, Bool.not_eq_true, same]
  · intro alike
    constructor
    · refine List.filter_congr fun statement member => ?_
      rw [Bool.eq_iff_iff, Bool.not_eq_true', decide_eq_true_eq, ← alike statement member,
        Bool.not_eq_true]
    · refine congrArg List.length (List.filter_congr fun statement member => ?_)
      rw [Bool.eq_iff_iff, decide_eq_true_eq, alike statement member]

/-- What fits the pattern of a deletion that names all three parts. -/
theorem fits_deletionPattern {subject predicate text : String} {statement : Statement} :
    (deletionPattern (some subject) (some predicate) (some text)).fits statement = true ↔
      statement.subject = subject ∧ statement.predicate = predicate ∧
        statement.object.value = text := by
  simp only [deletionPattern, Rdf.Pattern.fits, Rdf.ObjectPattern.fits, Option.all_some,
    Bool.and_eq_true, decide_eq_true_eq, and_assoc]

section Removes

variable {subject predicate : String}
  (isSubject : ∀ c ∈ subject.toList, Turtle.isIriChar c = true)
  (isPredicate : ∀ c ∈ predicate.toList, Turtle.isIriChar c = true)
include isSubject isPredicate

/-- **What a deletion of a literal takes away.** -/
theorem removes_iff (value : String) (store : Store) (doomed : Statement → Prop)
    [DecidablePred doomed] :
    Removes (deletionText subject predicate value) store doomed ↔
      ¬ MentionsInsertion (deletionText subject predicate value) ∧
        ∃ text, comparedValue? value = some text ∧ ∀ statement ∈ store.statements,
          (statement.subject = subject ∧ statement.predicate = predicate ∧
            statement.object.value = text) ↔ doomed statement := by
  constructor
  · rintro ⟨query, first, second, third, parsed, body, removes⟩
    obtain ⟨noInsertion, text, compared, rfl, rfl, rfl⟩ :=
      (exists_parse_deletionText_iff isSubject isPredicate value _ _ _).mp ⟨query, parsed, body⟩
    refine ⟨noInsertion, text, compared, fun statement member => ?_⟩
    rw [← (removeAll_eq_iff _ _ doomed).mp removes statement member, fits_deletionPattern]
  · rintro ⟨noInsertion, text, compared, alike⟩
    obtain ⟨query, parsed, body⟩ := (exists_parse_deletionText_iff isSubject isPredicate value
      (some subject) (some predicate) (some text)).mpr ⟨noInsertion, text, compared, rfl, rfl, rfl⟩
    refine ⟨query, _, _, _, parsed, body, (removeAll_eq_iff _ _ doomed).mpr fun statement member => ?_⟩
    rw [fits_deletionPattern, alike statement member]

/-- **When the literals that are named are taken away, and nothing else**: the text mentions no
insertion, and the text that is compared is the value of an object of this subject and predicate just
where that is a literal of the value that is named. One statement is taken away alone where it is the
only one of the subject and the predicate with that value. -/
theorem removes_literal_iff (value : String) (store : Store) :
    (Removes (deletionText subject predicate value) store (NamesLiteral subject predicate value) ↔
      ¬ MentionsInsertion (deletionText subject predicate value) ∧
        ∃ text, comparedValue? value = some text ∧ ∀ statement ∈ store.statements,
          statement.subject = subject → statement.predicate = predicate →
            (statement.object.value = text ↔
              statement.object.kind = .literal ∧ statement.object.value = value)) ∧
    ∀ added, Removes (deletionText subject predicate value) store (· = added) ↔
      ¬ MentionsInsertion (deletionText subject predicate value) ∧
        ∃ text, comparedValue? value = some text ∧ ∀ statement ∈ store.statements,
          (statement.subject = subject ∧ statement.predicate = predicate ∧
            statement.object.value = text) ↔ statement = added := by
  refine ⟨?_, fun added => removes_iff isSubject isPredicate value store (· = added)⟩
  rw [removes_iff isSubject isPredicate value store]
  refine and_congr_right fun _ => exists_congr fun text => and_congr_right fun _ =>
    forall₂_congr fun statement _ => ?_
  rw [NamesLiteral, and_congr_right_iff]
  exact forall_congr' fun _ => and_congr_right_iff

end Removes

/-- A store with a literal and another one of the same subject and predicate. -/
def twoValues : Store where
  statements := [⟨"a", "b", .plain "x"⟩, ⟨"a", "b", .plain "y"⟩]
  nodup := by decide
  complete := by decide

theorem removes_literal_of_twoValues :
    Removes (deletionText "a" "b" "x") twoValues (NamesLiteral "a" "b" "x") ∧
      Removes (deletionText "a" "b" "x") twoValues (· = ⟨"a", "b", .plain "x"⟩) := by
  have noInsertion : ¬ MentionsInsertion (deletionText "a" "b" "x") := by
    unfold MentionsInsertion
    decide +kernel
  have compared : comparedValue? "x" = some "x" := by decide +kernel
  have whole := @removes_literal_iff "a" "b" (Unicode.forall_mem_of_all (by decide))
    (Unicode.forall_mem_of_all (by decide)) "x" twoValues
  exact ⟨whole.1.mpr ⟨noInsertion, "x", compared, by decide⟩,
    (whole.2 _).mpr ⟨noInsertion, "x", compared, by decide⟩⟩

/-- **A literal with a quote is not taken away**: it is read from an insertion without the backslash
that the deletion keeps. -/
theorem not_removes_of_quote : ∃ query triples,
    parse "INSERT DATA \x7b <a> <b> \x22x\\\x22y\x22 . \x7d" = .ok query ∧
      query.body = .insert triples ∧
        (insertTriples query.namespaces triples Store.empty).1.statements =
            [⟨"a", "b", .plain "x\x22y"⟩] ∧
          ¬ Removes (deletionText "a" "b" "x\x22y")
            (insertTriples query.namespaces triples Store.empty).1
            (NamesLiteral "a" "b" "x\x22y") := by
  have parsed : (parse "INSERT DATA \x7b <a> <b> \x22x\\\x22y\x22 . \x7d").map
      (fun query => (query.namespaces, query.body)) =
        .ok (Rdf.defaultNamespaces, .insert ["<a> <b> \x22x\\\x22y\x22 ."]) := by rfl
  obtain ⟨⟨_, _⟩, found, same⟩ := eq_ok_of_map parsed
  cases same
  have stored : (insertTriples Rdf.defaultNamespaces ["<a> <b> \x22x\\\x22y\x22 ."]
      Store.empty).1.statements = [⟨"a", "b", .plain "x\x22y"⟩] := by decide +kernel
  have compared : comparedValue? "x\x22y" = some "x\\\x22y" := by decide +kernel
  refine ⟨_, _, found, rfl, stored, fun removes => ?_⟩
  obtain ⟨_, text, same, alike⟩ :=
    (@removes_iff "a" "b" (Unicode.forall_mem_of_all (by decide))
      (Unicode.forall_mem_of_all (by decide)) _ _ _ _).mp removes
  cases compared.symm.trans same
  have member : (⟨"a", "b", .plain "x\x22y"⟩ : Statement) ∈
      (insertTriples Rdf.defaultNamespaces ["<a> <b> \x22x\\\x22y\x22 ."]
        Store.empty).1.statements := by
    rw [stored]
    exact List.mem_singleton_self _
  exact absurd ((alike _ member).mpr (by decide)) (by decide)

end HistoricalFigures.Query
