import HistoricalFigures.Proofs.Turtle.Concatenation

/-!
**Commas and semicolons are abbreviations and nothing else.** A subject with lists of predicates and
objects is read as the same statements as the document that writes each triple out.

* `IsSpaced`: a text that consists of words with blanks between them.
* `Takes`: a word that takes a reading from one place to another, and the statements that it adds.
* `Run`: the same for a list of words; `Run.readOn_eq` reads a spaced text along it.
* `Ends`: a place behind an object, where a comma, a semicolon and a point add the same statements.
* `IsObjectText`: the texts of objects, of which some consist of several tokens.
* `TakesObject`, `takesObject_of_readOn`: what an object that is read adds.
* `exists_run_objects`, `exists_run_groups`: the objects of a predicate and the predicates of a subject,
  read in both ways.
* `parse_abbreviation`: the abbreviated document and the one that is written out.
-/
namespace HistoricalFigures.Turtle

open Rdf (Namespaces Statement)

/-! ### Words with blanks between them -/

/-- A text consists of words, each with blanks or the end of the text behind it, and of blanks. -/
inductive IsSpaced : List (List Char) → List Char → Prop
  | nil : IsSpaced [] []
  | blank {c : Char} {words : List (List Char)} {text : List Char}
      (isBlank : Unicode.isBlank c = true) (later : IsSpaced words text) : IsSpaced words (c :: text)
  | word {word text : List Char} {words : List (List Char)} (breaks : Breaks text)
      (later : IsSpaced words text) : IsSpaced (word :: words) (word ++ text)

instance (kind : TokenKind) : (lexeme rest : List Char) → Decidable (IsLexeme kind lexeme rest)
  | [], _ => .isFalse fun ⟨_, _, same, _⟩ => nomatch same
  | c :: body, rest =>
    decidable_of_iff (extent? c (body ++ rest) = some (some kind, body.length))
      ⟨fun reach => ⟨c, body, rfl, reach⟩, fun ⟨_, _, same, reach⟩ => by
        cases same
        exact reach⟩

/-- A token on its own is one in front of a blank as well. -/
theorem IsLexeme.before_break {kind : TokenKind} {lexeme rest : List Char}
    (isLexeme : IsLexeme kind lexeme []) (breaks : Breaks rest) : IsLexeme kind lexeme rest := by
  cases isString : kind.isString with
  | true =>
    refine isLexeme.string_append isString (isLexeme.head?_ne isString fun c first => ?_)
    rw [mayFollow, breaks c first, Bool.true_or]
  | false =>
    have ends : IsEdged [] := by rintro c ⟨⟩
    have alone : IsLexeme kind lexeme ([] ++ []) := isLexeme
    exact alone.transfer isString ends breaks.isEdged

/-- A word takes a reading from what is expected to what is expected next and adds statements, the
last one first, whatever has been read before. -/
def Takes (known : Namespaces) (expecting : Expecting) (word : List Char) (added : List Statement)
    (after : Expecting) : Prop :=
  ∀ done rest, Breaks rest →
    Reads ⟨known, done, expecting⟩ word rest ⟨known, added ++ done, after⟩

/-- Words take a reading from what is expected to what is expected next and add statements. -/
inductive Run (known : Namespaces) :
    Expecting → List (List Char) → List Statement → Expecting → Prop
  | nil {expecting : Expecting} : Run known expecting [] [] expecting
  | cons {expecting middle after : Expecting} {word : List Char} {words : List (List Char)}
      {added more : List Statement} (takes : Takes known expecting word added middle)
      (later : Run known middle words more after) :
      Run known expecting (word :: words) (more ++ added) after

section Runs

variable {known : Namespaces} {expecting middle after : Expecting} {word : List Char}
  {words others : List (List Char)} {added more : List Statement}

/-- A token is a word. -/
theorem Takes.token {kind : TokenKind} (isLexeme : IsLexeme kind word [])
    (steps : ∀ done line, Reading.step ⟨known, done, expecting⟩ ⟨kind, word, line⟩ =
      .ok ⟨known, added ++ done, after⟩) : Takes known expecting word added after :=
  fun done _ breaks => Reads.lexeme (isLexeme.before_break breaks) (steps done)

theorem Takes.run (takes : Takes known expecting word added after) :
    Run known expecting [word] added after := .cons takes .nil

theorem Run.append (first : Run known expecting words added middle)
    (second : Run known middle others more after) :
    Run known expecting (words ++ others) (more ++ added) after := by
  induction first with
  | nil => rwa [List.append_nil]
  | cons takes _ later =>
    rw [List.cons_append, ← List.append_assoc]
    exact .cons takes (later second)

/-- **A text is read along its words.** -/
theorem Run.readOn_eq {text : List Char} (run : Run known expecting words added after)
    (spaced : IsSpaced words text) (done : List Statement) (line : Nat) :
    readOn ⟨known, done, expecting⟩ line text = .ok ⟨known, added ++ done, after⟩ := by
  induction spaced generalizing expecting added done line with
  | nil =>
    cases run
    rfl
  | blank isBlank _ later =>
    rw [readOn_blank isBlank]
    exact later run done _
  | word breaks _ later =>
    cases run with
    | cons takes run =>
      rw [takes done _ breaks line, later run, List.append_assoc]

/-- A document that is read along its words to the start of a sentence. -/
theorem Run.parse_eq {text : String} (run : Run known .sentence words added .sentence)
    (spaced : IsSpaced words text.toList) : parse known text = .ok added.reverse := by
  have reads := run.readOn_eq spaced [] 1
  rw [List.append_nil, ← List.reverse_reverse added] at reads
  exact congrArg (Except.map Prod.snd) (read_eq_ok_iff.mpr reads)

end Runs

/-! ### Commas, semicolons and points -/

/-- What stands behind an object: a comma, a semicolon or a point, each of which adds the same
statements. -/
structure Ends (known : Namespaces) (subject predicate : String) (expecting : Expecting)
    (added : List Statement) : Prop where
  comma : Takes known expecting [','] added (.object subject predicate)
  semicolon : Takes known expecting [';'] added (.continuation subject)
  point : Takes known expecting ['.'] added .sentence

theorem isLexeme_mark {mark : Char} (isMark : mark ∈ [',', ';', '.']) :
    IsLexeme .punctuation [mark] [] := by
  refine ⟨mark, [], rfl, ?_⟩
  simp only [List.mem_cons, List.not_mem_nil, or_false] at isMark
  rcases isMark with rfl | rfl | rfl <;> rfl

section Marks

variable (known : Namespaces) (subject predicate : String)

theorem ends_separator : Ends known subject predicate (.separator subject predicate) [] where
  comma := .token (isLexeme_mark (by decide)) fun _ _ => rfl
  semicolon := .token (isLexeme_mark (by decide)) fun _ _ => rfl
  point := .token (isLexeme_mark (by decide)) fun _ _ => rfl

theorem ends_suffix (value : String) : Ends known subject predicate (.suffix subject predicate value)
    [⟨subject, predicate, .plain value⟩] where
  comma := .token (isLexeme_mark (by decide)) fun _ _ => rfl
  semicolon := .token (isLexeme_mark (by decide)) fun _ _ => rfl
  point := .token (isLexeme_mark (by decide)) fun _ _ => rfl

/-- **One more semicolon changes nothing.** -/
theorem run_semicolons (count : Nat) :
    Run known (.continuation subject) (List.replicate count [';']) [] (.continuation subject) := by
  induction count with
  | zero => exact .nil
  | succ count later =>
    have takes : Takes known (.continuation subject) [';'] [] (.continuation subject) :=
      .token (isLexeme_mark (by decide)) fun _ _ => rfl
    exact .cons takes later

end Marks

/-! ### The tokens of a triple -/

namespace Reading

section Steps

variable {known : Namespaces} {done : List Statement} {kind : TokenKind} {text : List Char}
  {line : Nat} {next : Reading} {subject predicate value : String}

theorem exists_step_subject (names : kind = .iri ∨ kind = .name)
    (step : step ⟨known, done, .sentence⟩ ⟨kind, text, line⟩ = .ok next) :
    ∃ subject, ∀ done line, Reading.step ⟨known, done, .sentence⟩ ⟨kind, text, line⟩ =
      .ok ⟨known, [] ++ done, .predicate subject⟩ := by
  have plain : ∀ done line, Reading.step ⟨known, done, .sentence⟩ ⟨kind, text, line⟩ =
      (resource known .subject ⟨kind, text, line⟩).map fun subject =>
        ⟨known, done, .predicate subject⟩ := by
    rcases names with rfl | rfl <;> exact fun _ _ => rfl
  rw [plain] at step
  obtain ⟨subject, isSubject, _⟩ := eq_ok_of_map step
  refine ⟨subject, fun done line => ?_⟩
  rw [plain, (resource_cases isSubject).2 line]
  rfl

/-- A predicate is taken behind a semicolon as it is behind a subject. -/
theorem exists_step_predicate
    (step : step ⟨known, done, .predicate subject⟩ ⟨kind, text, line⟩ = .ok next) :
    ∃ predicate, ∀ done line,
      Reading.step ⟨known, done, .predicate subject⟩ ⟨kind, text, line⟩ =
        .ok ⟨known, [] ++ done, .object subject predicate⟩ ∧
      Reading.step ⟨known, done, .continuation subject⟩ ⟨kind, text, line⟩ =
        .ok ⟨known, [] ++ done, .object subject predicate⟩ := by
  have taken : ∃ predicate, ∀ done line expecting,
      takePredicate ⟨known, done, expecting⟩ subject ⟨kind, text, line⟩ =
        .ok ⟨known, [] ++ done, .object subject predicate⟩ := by
    by_cases isType : kind = .word ∧ text = ['a']
    · exact ⟨Rdf.typePredicate, fun _ _ _ => if_pos isType⟩
    · have named : takePredicate ⟨known, done, .predicate subject⟩ subject ⟨kind, text, line⟩ = _ :=
        if_neg isType
      obtain ⟨predicate, isPredicate, _⟩ := eq_ok_of_map (named.symm.trans step)
      exact ⟨predicate, fun _ line _ => (if_neg isType).trans
        (congrArg (Except.map _) ((resource_cases isPredicate).2 line))⟩
  have noMark : ∀ mark line, ¬ isMark ⟨kind, text, line⟩ mark = true := by
    intro mark line isMark
    obtain ⟨rfl, _⟩ := isMark_iff.mp isMark
    cases step
  obtain ⟨predicate, taken⟩ := taken
  refine ⟨predicate, fun done line => ⟨taken done line _, ?_⟩⟩
  exact (if_neg (noMark ';' line)).trans ((if_neg (noMark '.' line)).trans (taken done line _))

/-- Behind a string its language or its datatype may stand. -/
theorem exists_step_string (isString : kind.isString = true)
    (step : step ⟨known, done, .object subject predicate⟩ ⟨kind, text, line⟩ = .ok next) :
    ∃ value, ∀ done line, Reading.step ⟨known, done, .object subject predicate⟩ ⟨kind, text, line⟩ =
      .ok ⟨known, [] ++ done, .suffix subject predicate value⟩ := by
  cases kind <;> try cases isString
  all_goals
    obtain ⟨value, reads, _⟩ := eq_ok_of_map step
    exact ⟨value, fun _ _ => congrArg (Except.map _) reads⟩

/-- Any other object is complete. -/
theorem exists_step_object (noString : kind.isString = false)
    (step : step ⟨known, done, .object subject predicate⟩ ⟨kind, text, line⟩ = .ok next) :
    ∃ object, ∀ done line,
      Reading.step ⟨known, done, .object subject predicate⟩ ⟨kind, text, line⟩ =
        .ok ⟨known, [⟨subject, predicate, object⟩] ++ done, .separator subject predicate⟩ := by
  cases kind with
  | string | longString => cases noString
  | number => exact ⟨.typed (String.ofList text) (numberDatatype text), fun _ _ => rfl⟩
  | word =>
    by_cases isTruth : text ∈ truthWords
    · exact ⟨.typed (String.ofList text) Rdf.booleanDatatype, fun _ _ => if_pos isTruth⟩
    · have refused : Reading.step ⟨known, done, .object subject predicate⟩ ⟨.word, text, line⟩ = _ :=
        if_neg isTruth
      cases refused.symm.trans step
  | iri | name =>
    obtain ⟨value, names, _⟩ := eq_ok_of_map step
    exact ⟨.uri value, fun _ line => congrArg (Except.map _) ((resource_cases names).2 line)⟩
  | _ => cases step

theorem exists_step_datatype
    (step : step ⟨known, done, .datatype subject predicate value⟩ ⟨kind, text, line⟩ = .ok next) :
    ∃ object, ∀ done line,
      Reading.step ⟨known, done, .datatype subject predicate value⟩ ⟨kind, text, line⟩ =
        .ok ⟨known, [⟨subject, predicate, object⟩] ++ done, .separator subject predicate⟩ := by
  obtain ⟨datatype, names, _⟩ := eq_ok_of_map step
  exact ⟨.typed value datatype, fun _ line =>
    congrArg (Except.map _) ((resource_cases names).2 line)⟩

end Steps

end Reading

/-! ### The texts of objects -/

/-- The text of an object: a token, or a string with a language or a datatype behind it. -/
inductive IsObjectText : List Char → Prop
  | token {kind : TokenKind} {text : List Char} (isLexeme : IsLexeme kind text []) : IsObjectText text
  | tagged {kind : TokenKind} {text blanks language : List Char} (isLexeme : IsLexeme kind text [])
      (isString : kind.isString = true) (areBlanks : ∀ c ∈ blanks, Unicode.isBlank c = true)
      (isLanguage : IsLexeme .language language []) : IsObjectText (text ++ (blanks ++ language))
  | typed {kind kind' : TokenKind} {text blanks blanks' datatype : List Char}
      (isLexeme : IsLexeme kind text []) (isString : kind.isString = true)
      (areBlanks : ∀ c ∈ blanks, Unicode.isBlank c = true)
      (areBlanks' : ∀ c ∈ blanks', Unicode.isBlank c = true)
      (isDatatype : IsLexeme kind' datatype []) :
      IsObjectText (text ++ (blanks ++ (['^', '^'] ++ (blanks' ++ datatype))))

/-- A string is a token in front of its language or the mark of its datatype. -/
theorem IsLexeme.before_suffix {kind kind' : TokenKind} {lexeme blanks lexeme' rest : List Char}
    (isLexeme : IsLexeme kind lexeme []) (isString : kind.isString = true)
    (areBlanks : ∀ c ∈ blanks, Unicode.isBlank c = true) (behind : IsLexeme kind' lexeme' rest)
    (suffix : kind' = .language ∨ kind' = .datatypeMark ∨ kind' = .punctuation) :
    IsLexeme kind lexeme (blanks ++ (lexeme' ++ rest)) := by
  refine isLexeme.string_append isString (isLexeme.head?_ne isString fun c first => ?_)
  cases blanks with
  | nil =>
    obtain ⟨d, body, rfl, reach⟩ := behind
    obtain rfl : d = c := by simpa using first
    exact mayFollow_of_extent? reach suffix
  | cons d more =>
    obtain rfl : d = c := by simpa using first
    rw [mayFollow, areBlanks d List.mem_cons_self, Bool.true_or]

section Objects

variable {known : Namespaces} {subject predicate : String}

/-- Blanks and a token behind them take a reading on. -/
theorem Takes.blanks {expecting after : Expecting} {blanks word : List Char} {added : List Statement}
    (areBlanks : ∀ c ∈ blanks, Unicode.isBlank c = true)
    (takes : Takes known expecting word added after) :
    Takes known expecting (blanks ++ word) added after :=
  fun done rest breaks => (Reads.blanks _ areBlanks _).append (takes done rest breaks)

/-- A token and what stands close behind it take a reading on one after the other. -/
theorem Takes.token_append {expecting middle after : Expecting} {kind : TokenKind}
    {word suffix : List Char} {added more : List Statement}
    (before : ∀ rest, Breaks rest → IsLexeme kind word (suffix ++ rest))
    (steps : ∀ done line, Reading.step ⟨known, done, expecting⟩ ⟨kind, word, line⟩ =
      .ok ⟨known, added ++ done, middle⟩)
    (behind : Takes known middle suffix more after) :
    Takes known expecting (word ++ suffix) (more ++ added) after := by
  intro done rest breaks
  rw [List.append_assoc more]
  exact (Reads.lexeme (before rest breaks) (steps done)).append (behind _ rest breaks)

/-- An object adds its statement, at the latest with what stands behind it. -/
def TakesObject (known : Namespaces) (subject predicate : String) (text : List Char) : Prop :=
  ∃ added after owed, Takes known (.object subject predicate) text added after ∧
    Ends known subject predicate after owed ∧ ∃ object, owed ++ added = [⟨subject, predicate, object⟩]

/-- An object that is complete owes nothing to what stands behind it. -/
theorem Takes.takesObject {text : List Char} {object : Rdf.Term}
    (takes : Takes known (.object subject predicate) text [⟨subject, predicate, object⟩]
      (.separator subject predicate)) : TakesObject known subject predicate text :=
  ⟨[⟨subject, predicate, object⟩], _, [], takes, ends_separator known subject predicate, object, rfl⟩

variable {kind kind' : TokenKind} {text blanks blanks' rest : List Char} {done : List Statement}
  {line : Nat} {last : Reading}

/-- A string alone owes its statement to the mark behind it; any other token is complete. -/
theorem takesObject_of_token (isLexeme : IsLexeme kind text []) (breaks : Breaks rest)
    (reads : readOn ⟨known, done, .object subject predicate⟩ line (text ++ rest) = .ok last) :
    TakesObject known subject predicate text := by
  obtain ⟨next, step, _⟩ := exists_of_readOn_lexeme (isLexeme.before_break breaks) reads
  cases isString : kind.isString with
  | true =>
    obtain ⟨value, steps⟩ := Reading.exists_step_string isString step
    exact ⟨[], _, _, .token isLexeme steps, ends_suffix known subject predicate value, _, rfl⟩
  | false =>
    obtain ⟨object, steps⟩ := Reading.exists_step_object isString step
    exact (Takes.token isLexeme steps).takesObject

/-- A string with a language is complete. -/
theorem takesObject_of_tagged {language : List Char} (isLexeme : IsLexeme kind text [])
    (isString : kind.isString = true) (areBlanks : ∀ c ∈ blanks, Unicode.isBlank c = true)
    (isLanguage : IsLexeme .language language []) (breaks : Breaks rest)
    (reads : readOn ⟨known, done, .object subject predicate⟩ line
      ((text ++ (blanks ++ language)) ++ rest) = .ok last) :
    TakesObject known subject predicate (text ++ (blanks ++ language)) := by
  have before : ∀ rest, Breaks rest → IsLexeme kind text ((blanks ++ language) ++ rest) := by
    intro rest breaks
    rw [List.append_assoc]
    exact isLexeme.before_suffix isString areBlanks (isLanguage.before_break breaks) (.inl rfl)
  rw [List.append_assoc] at reads
  obtain ⟨next, step, _⟩ := exists_of_readOn_lexeme (before rest breaks) reads
  obtain ⟨value, steps⟩ := Reading.exists_step_string isString step
  let object := Rdf.Term.tagged value (String.ofList ((language.drop 1).map Char.toLower))
  have tag : Takes known (.suffix subject predicate value) language
      [⟨subject, predicate, object⟩] (.separator subject predicate) := .token isLanguage fun _ _ => rfl
  exact (Takes.token_append before steps (tag.blanks areBlanks)).takesObject

/-- A string with a datatype is complete. -/
theorem takesObject_of_typed {datatype : List Char} (isLexeme : IsLexeme kind text [])
    (isString : kind.isString = true) (areBlanks : ∀ c ∈ blanks, Unicode.isBlank c = true)
    (areBlanks' : ∀ c ∈ blanks', Unicode.isBlank c = true) (isDatatype : IsLexeme kind' datatype [])
    (breaks : Breaks rest)
    (reads : readOn ⟨known, done, .object subject predicate⟩ line
      ((text ++ (blanks ++ (['^', '^'] ++ (blanks' ++ datatype)))) ++ rest) = .ok last) :
    TakesObject known subject predicate (text ++ (blanks ++ (['^', '^'] ++ (blanks' ++ datatype)))) := by
  have before : ∀ rest, Breaks rest →
      IsLexeme kind text ((blanks ++ (['^', '^'] ++ (blanks' ++ datatype))) ++ rest) := by
    intro rest _
    rw [List.append_assoc, List.append_assoc]
    exact isLexeme.before_suffix isString areBlanks (isLexeme_datatypeMark _) (.inr (.inl rfl))
  have mark : ∀ value done line, Reading.step ⟨known, done, .suffix subject predicate value⟩
      ⟨.datatypeMark, ['^', '^'], line⟩ =
        .ok ⟨known, [] ++ done, .datatype subject predicate value⟩ := fun _ _ _ => rfl
  rw [List.append_assoc] at reads
  obtain ⟨next, step, goesOn⟩ := exists_of_readOn_lexeme (before rest breaks) reads
  obtain ⟨value, steps⟩ := Reading.exists_step_string isString step
  obtain rfl := Except.ok.inj (step.symm.trans (steps done line))
  simp only [List.append_assoc] at goesOn
  rw [Reads.blanks _ areBlanks _ _, readOn_lexeme (isLexeme_datatypeMark _) (mark value _ _),
    Reads.blanks _ areBlanks' _ _] at goesOn
  obtain ⟨_, step', _⟩ := exists_of_readOn_lexeme (isDatatype.before_break breaks) goesOn
  obtain ⟨object, steps'⟩ := Reading.exists_step_datatype step'
  have named : Takes known (.datatype subject predicate value) datatype
      [⟨subject, predicate, object⟩] (.separator subject predicate) := .token isDatatype steps'
  have behind : Takes known (.suffix subject predicate value)
      (['^', '^'] ++ (blanks' ++ datatype)) [⟨subject, predicate, object⟩]
        (.separator subject predicate) :=
    .token_append (fun rest _ => isLexeme_datatypeMark _) (mark value) (named.blanks areBlanks')
  exact (Takes.token_append before steps (behind.blanks areBlanks)).takesObject

/-- **An object that is read adds its statement**, at the latest with what stands behind it. -/
theorem takesObject_of_readOn (isObject : IsObjectText text) (breaks : Breaks rest)
    (reads : readOn ⟨known, done, .object subject predicate⟩ line (text ++ rest) = .ok last) :
    TakesObject known subject predicate text := by
  cases isObject with
  | token isLexeme => exact takesObject_of_token isLexeme breaks reads
  | tagged isLexeme isString areBlanks isLanguage =>
    exact takesObject_of_tagged isLexeme isString areBlanks isLanguage breaks reads
  | typed isLexeme isString areBlanks areBlanks' isDatatype =>
    exact takesObject_of_typed isLexeme isString areBlanks areBlanks' isDatatype breaks reads

end Objects

/-! ### The abbreviated document -/

/-- A predicate with its objects, of which there is one at least. -/
structure Group where
  predicate : List Char
  object : List Char
  objects : List (List Char)

/-- The words of a predicate with its objects, with commas between these. -/
def Group.words (group : Group) : List (List Char) :=
  group.predicate :: group.object :: group.objects.flatMap fun object => [[','], object]

/-- The words of the triples of a subject that a group stands for. -/
def Group.triples (subject : List Char) (group : Group) : List (List Char) :=
  (group.object :: group.objects).flatMap fun object => [subject, group.predicate, object, ['.']]

/-- A subject with its predicates: the first one, the later ones with the number of semicolons before
each beyond the one that has to be, and the number of semicolons before the point. -/
structure Abbreviated where
  subject : List Char
  first : Group
  later : List (Nat × Group)
  trailing : Nat

namespace Abbreviated

/-- The predicates with their objects. -/
def groups (document : Abbreviated) : List Group := document.first :: document.later.map Prod.snd

/-- The words behind the first predicate and its objects. -/
def ending (trailing : Nat) (later : List (Nat × Group)) : List (List Char) :=
  later.flatMap (fun (extra, group) => List.replicate (extra + 1) [';'] ++ group.words) ++
    (List.replicate trailing [';'] ++ [['.']])

theorem ending_cons (trailing extra : Nat) (group : Group) (later : List (Nat × Group)) :
    ending trailing ((extra, group) :: later) =
      [';'] :: (List.replicate extra [';'] ++ (group.words ++ ending trailing later)) := by
  simp [ending, List.replicate_succ]

/-- The words of the abbreviated document. -/
def words (document : Abbreviated) : List (List Char) :=
  document.subject :: (document.first.words ++ ending document.trailing document.later)

/-- The words of the document that writes every triple out. -/
def triples (document : Abbreviated) : List (List Char) :=
  document.groups.flatMap (Group.triples document.subject)

end Abbreviated

/-- A subject, a predicate and an object are accepted as a document of their own. -/
def Accepts (known : Namespaces) (subject predicate object : List Char) : Prop :=
  ∃ told, parse known (String.ofList (subject ++ ' ' :: (predicate ++ ' ' :: (object ++ [' ', '.'])))) =
    .ok told

theorem accepts_of_isOk {known : Namespaces} {subject predicate object : List Char}
    (isOk : (parse known (String.ofList
      (subject ++ ' ' :: (predicate ++ ' ' :: (object ++ [' ', '.']))))).isOk = true) :
    Accepts known subject predicate object := by
  unfold Accepts
  cases parsed : parse known (String.ofList
    (subject ++ ' ' :: (predicate ++ ' ' :: (object ++ [' ', '.'])))) with
  | ok told => exact ⟨told, rfl⟩
  | error cause =>
    rw [parsed] at isOk
    cases isOk

/-- A group is accepted behind a subject: its predicate is a token, and each of its objects is the text
of one and accepted alone. -/
structure Group.IsAccepted (known : Namespaces) (subject : List Char) (group : Group) : Prop where
  isToken : ∃ kind, IsLexeme kind group.predicate []
  accepts : ∀ object ∈ group.object :: group.objects,
    IsObjectText object ∧ Accepts known subject group.predicate object

/-! ### Reading it in both ways -/

section Groups

variable {known : Namespaces} {subject predicate object : List Char}

theorem breaks_space (rest : List Char) : Breaks (' ' :: rest) := fun c first => by
  obtain rfl : ' ' = c := by simpa using first
  decide

/-- The subject of an accepted document takes a reading to a predicate. -/
theorem Accepts.exists_takes_subject (accepts : Accepts known subject predicate object)
    (isSubject : IsLexeme .iri subject [] ∨ IsLexeme .name subject []) :
    ∃ resource, Takes known .sentence subject [] (.predicate resource) := by
  obtain ⟨told, parsed⟩ := accepts
  obtain ⟨_, reads, _⟩ := eq_ok_of_map parsed
  rw [read_eq_readOn, String.toList_ofList] at reads
  obtain ⟨_, run, _⟩ := eq_ok_of_bind reads
  have token : ∃ kind, IsLexeme kind subject [] ∧ (kind = .iri ∨ kind = .name) :=
    isSubject.elim (fun iri => ⟨_, iri, .inl rfl⟩) fun name => ⟨_, name, .inr rfl⟩
  obtain ⟨kind, isLexeme, names⟩ := token
  obtain ⟨_, step, _⟩ := exists_of_readOn_lexeme (isLexeme.before_break (breaks_space _)) run
  obtain ⟨resource, steps⟩ := Reading.exists_step_subject names step
  exact ⟨resource, .token isLexeme steps⟩

variable {resource property : String}
  (takesSubject : Takes known .sentence subject [] (.predicate resource))
include takesSubject

/-- What stands behind the subject of an accepted document is read. -/
theorem Accepts.exists_readOn_predicate (accepts : Accepts known subject predicate object) :
    ∃ line last, readOn ⟨known, [], .predicate resource⟩ line
      (predicate ++ ' ' :: (object ++ [' ', '.'])) = .ok last := by
  obtain ⟨told, parsed⟩ := accepts
  obtain ⟨_, reads, _⟩ := eq_ok_of_map parsed
  rw [read_eq_readOn, String.toList_ofList] at reads
  obtain ⟨last, run, _⟩ := eq_ok_of_bind reads
  rw [takesSubject [] _ (breaks_space _), readOn_blank (by decide)] at run
  exact ⟨_, last, run⟩

/-- The predicate of an accepted document takes a reading to an object, behind a subject and behind a
semicolon. -/
theorem Accepts.exists_takes_predicate (accepts : Accepts known subject predicate object)
    (isToken : ∃ kind, IsLexeme kind predicate []) :
    ∃ property, Takes known (.predicate resource) predicate [] (.object resource property) ∧
      Takes known (.continuation resource) predicate [] (.object resource property) := by
  obtain ⟨kind, isLexeme⟩ := isToken
  obtain ⟨line, last, run⟩ := accepts.exists_readOn_predicate takesSubject
  obtain ⟨_, step, _⟩ := exists_of_readOn_lexeme (isLexeme.before_break (breaks_space _)) run
  obtain ⟨property, steps⟩ := Reading.exists_step_predicate step
  exact ⟨property, .token isLexeme fun done line => (steps done line).1,
    .token isLexeme fun done line => (steps done line).2⟩

/-- An accepted object takes a reading on behind its predicate, and in a triple of its own. -/
theorem exists_takes_triple
    (takesPredicate : Takes known (.predicate resource) predicate [] (.object resource property))
    (isObject : IsObjectText object) (accepts : Accepts known subject predicate object) :
    ∃ added after owed, Takes known (.object resource property) object added after ∧
      Ends known resource property after owed ∧
      Run known .sentence [subject, predicate, object, ['.']] (owed ++ added) .sentence := by
  obtain ⟨line, last, run⟩ := accepts.exists_readOn_predicate takesSubject
  rw [takesPredicate [] _ (breaks_space _), readOn_blank (by decide)] at run
  obtain ⟨added, after, owed, takes, ends, _⟩ :=
    takesObject_of_readOn isObject (breaks_space _) run
  have triple := Run.cons takesSubject (.cons takesPredicate (.cons takes ends.point.run))
  rw [List.append_nil, List.append_nil] at triple
  exact ⟨added, after, owed, takes, ends, triple⟩

/-- **The objects of a predicate are read in both ways**: with commas between them, and each in a triple
of its own. -/
theorem exists_run_objects
    (takesPredicate : Takes known (.predicate resource) predicate [] (.object resource property))
    {objects : List (List Char)} {object : List Char}
    (accepted : ∀ other ∈ object :: objects,
      IsObjectText other ∧ Accepts known subject predicate other) :
    ∃ added after owed, Ends known resource property after owed ∧
      Run known (.object resource property)
        (object :: objects.flatMap fun object => [[','], object]) added after ∧
      Run known .sentence
        ((object :: objects).flatMap fun object => [subject, predicate, object, ['.']])
        (owed ++ added) .sentence := by
  -- The comma behind an object and the point behind its triple add the same statements.
  induction objects generalizing object with
  | nil =>
    obtain ⟨isObject, accepts⟩ := accepted object List.mem_cons_self
    obtain ⟨added, after, owed, takes, ends, triple⟩ :=
      exists_takes_triple takesSubject takesPredicate isObject accepts
    exact ⟨added, after, owed, ends, takes.run, triple⟩
  | cons next objects later =>
    obtain ⟨⟨isObject, accepts⟩, others⟩ := List.forall_mem_cons.mp accepted
    obtain ⟨added, middle, owed, takes, ends, triple⟩ :=
      exists_takes_triple takesSubject takesPredicate isObject accepts
    obtain ⟨more, after, owed', ends', run, triples⟩ := later others
    refine ⟨more ++ owed ++ added, after, owed', ends', .cons takes (.cons ends.comma run), ?_⟩
    have whole := triple.append triples
    rwa [List.append_assoc owed', ← List.append_assoc more] at whole

/-- **A predicate with its objects is read in both ways**, behind a subject and behind a semicolon. -/
theorem exists_run_group {group : Group} (accepted : group.IsAccepted known subject) :
    ∃ property added after owed, Ends known resource property after owed ∧
      Run known (.predicate resource) group.words added after ∧
      Run known (.continuation resource) group.words added after ∧
      Run known .sentence (group.triples subject) (owed ++ added) .sentence := by
  obtain ⟨_, accepts⟩ := accepted.accepts group.object List.mem_cons_self
  obtain ⟨property, behindSubject, behindSemicolon⟩ :=
    accepts.exists_takes_predicate takesSubject accepted.isToken
  obtain ⟨added, after, owed, ends, run, triples⟩ :=
    exists_run_objects takesSubject behindSubject accepted.accepts
  have first := Run.cons behindSubject run
  have later := Run.cons behindSemicolon run
  rw [List.append_nil] at first later
  exact ⟨property, added, after, owed, ends, first, later, triples⟩

/-- **The later predicates of a subject are read in both ways**, up to the point. -/
theorem exists_run_ending (trailing : Nat) {later : List (Nat × Group)}
    (accepted : ∀ group ∈ later.map Prod.snd, group.IsAccepted known subject)
    {after : Expecting} {owed : List Statement} (ends : Ends known resource property after owed) :
    ∃ added, Run known after (Abbreviated.ending trailing later) (added ++ owed) .sentence ∧
      Run known .sentence ((later.map Prod.snd).flatMap (Group.triples subject)) added .sentence := by
  induction later generalizing property after owed with
  | nil =>
    refine ⟨[], ?_, .nil⟩
    cases trailing with
    | zero => exact ends.point.run
    | succ trailing =>
      have point : Takes known (.continuation resource) ['.'] [] .sentence :=
        .token (isLexeme_mark (by decide)) fun _ _ => rfl
      exact .cons ends.semicolon ((run_semicolons known resource trailing).append point.run)
  | cons first later others =>
    obtain ⟨extra, group⟩ := first
    obtain ⟨here, behind⟩ := List.forall_mem_cons.mp accepted
    obtain ⟨property, added, next, owed', ends', _, run, triples⟩ :=
      exists_run_group takesSubject here
    obtain ⟨more, ending, written⟩ := others behind ends'
    refine ⟨more ++ (owed' ++ added), ?_, triples.append written⟩
    have words := (run_semicolons known resource extra).append (run.append ending)
    rw [List.append_nil, List.append_assoc] at words
    rw [Abbreviated.ending_cons]
    exact .cons ends.semicolon words

end Groups

/-- **Commas and semicolons are abbreviations and nothing else.** A subject with lists of predicates and
objects, each accepted alone, and with any number of further semicolons, is read as the same statements
as the document that writes each triple out in the same order, whatever blanks stand between the tokens
of the two. -/
theorem parse_abbreviation (known : Namespaces) (document : Abbreviated)
    (isSubject : IsLexeme .iri document.subject [] ∨ IsLexeme .name document.subject [])
    (accepted : ∀ group ∈ document.groups, group.IsAccepted known document.subject)
    {short full : String} (shortWords : IsSpaced document.words short.toList)
    (fullWords : IsSpaced document.triples full.toList) :
    ∃ statements, parse known short = .ok statements ∧ parse known full = .ok statements := by
  obtain ⟨here, behind⟩ := List.forall_mem_cons.mp accepted
  obtain ⟨_, accepts⟩ := here.accepts _ List.mem_cons_self
  obtain ⟨resource, takesSubject⟩ := accepts.exists_takes_subject isSubject
  obtain ⟨property, added, after, owed, ends, run, _, triples⟩ := exists_run_group takesSubject here
  obtain ⟨more, ending, written⟩ := exists_run_ending takesSubject document.trailing behind ends
  have words := Run.cons takesSubject (run.append ending)
  rw [List.append_nil, List.append_assoc] at words
  exact ⟨_, words.parse_eq shortWords, (triples.append written).parse_eq fullWords⟩

/-- The words with a space behind each. -/
def spaced (words : List (List Char)) : List Char := words.flatMap (· ++ [' '])

theorem isSpaced_spaced (words : List (List Char)) : IsSpaced words (spaced words) := by
  induction words with
  | nil => exact .nil
  | cons first words later =>
    rw [spaced, List.flatMap_cons, List.append_assoc]
    exact .word (breaks_space _) (.blank (by decide) later)

/-- A name in a language. -/
def taggedText : List Char := "\x22Ana\x22".toList ++ ([] ++ "@es".toList)

/-- A number in a string. -/
def typedText : List Char :=
  "\x271,5\x27".toList ++ ([' '] ++ (['^', '^'] ++ ([' '] ++ "p:real".toList)))

/-- A figure with a class, a name, and a list of objects of every other kind, and with semicolons to
spare. -/
def listed : Abbreviated where
  subject := "<x:ana>".toList
  first := ⟨"a".toList, "p:Persona".toList, []⟩
  later := [(1, ⟨"p:nombre".toList, taggedText, []⟩), (0, ⟨"<x:es>".toList,
    "\x22poeta; y m\u00e1s.\x22".toList, [typedText, "1.5e0".toList, "true".toList, "<x:b>".toList]⟩)]
  trailing := 2

theorem parse_listed :
    IsLexeme .iri listed.subject [] ∧
      (∀ group ∈ listed.groups, group.IsAccepted [("p", "x:")] listed.subject) ∧
      ∃ statements, parse [("p", "x:")] (String.ofList (spaced listed.words)) = .ok statements ∧
        parse [("p", "x:")] (String.ofList (spaced listed.triples)) = .ok statements := by
  have isSubject : IsLexeme .iri listed.subject [] := by decide +kernel
  have tagged : IsObjectText taggedText :=
    .tagged (by decide +kernel : IsLexeme .string _ []) rfl (List.forall_mem_nil _) (by decide +kernel)
  have typed : IsObjectText typedText :=
    .typed (by decide +kernel : IsLexeme .string _ []) rfl (List.forall_mem_singleton.mpr (by decide))
      (List.forall_mem_singleton.mpr (by decide))
      (by decide +kernel : IsLexeme .name _ [])
  have accepts : ∀ {text predicate object : List Char} {kind : TokenKind},
      IsLexeme kind object [] → (parse [("p", "x:")] (String.ofList
        (text ++ ' ' :: (predicate ++ ' ' :: (object ++ [' ', '.']))))).isOk = true →
      IsObjectText object ∧ Accepts [("p", "x:")] text predicate object :=
    fun isLexeme isOk => ⟨.token isLexeme, accepts_of_isOk isOk⟩
  have accepted : ∀ group ∈ listed.groups, group.IsAccepted [("p", "x:")] listed.subject := by
    refine List.forall_mem_cons.mpr ⟨⟨⟨.word, by decide +kernel⟩, List.forall_mem_cons.mpr ⟨?_, nofun⟩⟩,
      List.forall_mem_cons.mpr ⟨⟨⟨.name, by decide +kernel⟩, List.forall_mem_cons.mpr ⟨?_, nofun⟩⟩,
      List.forall_mem_cons.mpr ⟨⟨⟨.iri, by decide +kernel⟩, List.forall_mem_cons.mpr ⟨?_,
        List.forall_mem_cons.mpr ⟨?_, List.forall_mem_cons.mpr ⟨?_, List.forall_mem_cons.mpr ⟨?_,
          List.forall_mem_cons.mpr ⟨?_, nofun⟩⟩⟩⟩⟩⟩, nofun⟩⟩⟩
    · exact accepts (by decide +kernel : IsLexeme .name _ []) (by decide +kernel)
    · exact ⟨tagged, accepts_of_isOk (by decide +kernel)⟩
    · exact accepts (by decide +kernel : IsLexeme .string _ []) (by decide +kernel)
    · exact ⟨typed, accepts_of_isOk (by decide +kernel)⟩
    · exact accepts (by decide +kernel : IsLexeme .number _ []) (by decide +kernel)
    · exact accepts (by decide +kernel : IsLexeme .word _ []) (by decide +kernel)
    · exact accepts (by decide +kernel : IsLexeme .iri _ []) (by decide +kernel)
  refine ⟨isSubject, accepted, parse_abbreviation _ listed (.inl isSubject) accepted ?_ ?_⟩
  · rw [String.toList_ofList]
    exact isSpaced_spaced _
  · rw [String.toList_ofList]
    exact isSpaced_spaced _

end HistoricalFigures.Turtle
