import HistoricalFigures.Proofs.Turtle.LooseTriple
import HistoricalFigures.Proofs.Turtle.ReadTerms

/-!
**The subject and the predicate of a loose triple** are not always those that the grammar reads for the
same tokens: it resolves their escapes, and knows where a name ends.

* `Opens`, `exists_of_wellFormed`: what the grammar reads for a subject and a predicate at the start of a
  document.
* `loosePredicate?_name`, `resource?_name`: what is stuck to a name counts as a part of it in a loose
  triple.
* `looseNames_iff`: when a loose triple has the subject and the predicate that the grammar reads.
-/
namespace HistoricalFigures.Turtle

open Rdf (Namespaces Statement)

/-! ### What the grammar reads for a subject and a predicate -/

/-- The first statement of a reading is one with a subject and a predicate, or still to come with
them. -/
inductive Opens (subject predicate : String) : Reading → Prop where
  | object {namespaces : Namespaces} : Opens subject predicate ⟨namespaces, [], .object subject predicate⟩
  | suffix {namespaces : Namespaces} {text : String} :
      Opens subject predicate ⟨namespaces, [], .suffix subject predicate text⟩
  | datatype {namespaces : Namespaces} {text : String} :
      Opens subject predicate ⟨namespaces, [], .datatype subject predicate text⟩
  | stated {reading : Reading} {first : Statement} : reading.statements.getLast? = some first →
      first.subject = subject → first.predicate = predicate → Opens subject predicate reading

namespace Opens

variable {subject predicate : String} {reading next : Reading} {token : Token}

theorem of_takeObject {namespaces : Namespaces}
    (step : Reading.takeObject ⟨namespaces, [], .object subject predicate⟩ subject predicate token =
      .ok next) : Opens subject predicate next := by
  unfold Reading.takeObject at step
  split at step
  · obtain ⟨text, _, rfl⟩ := eq_ok_of_map step
    exact .suffix
  · obtain ⟨text, _, rfl⟩ := eq_ok_of_map step
    exact .suffix
  · cases step
    exact .stated rfl rfl rfl
  · split at step <;> cases step
    exact .stated rfl rfl rfl
  · obtain ⟨value, _, rfl⟩ := eq_ok_of_map step
    exact .stated rfl rfl rfl

theorem of_takeSuffix {namespaces : Namespaces} {text : String}
    (step : Reading.takeSuffix ⟨namespaces, [], .suffix subject predicate text⟩ subject predicate text
      token = .ok next) : Opens subject predicate next := by
  unfold Reading.takeSuffix at step
  split at step
  · cases step
    exact .stated rfl rfl rfl
  split at step
  · cases step
    exact .datatype
  · have told := Reading.statements_takeSeparator step
    exact .stated (congrArg List.getLast? told) rfl rfl

/-- **A step keeps the first statement**, or takes its object. -/
theorem step (opens : Opens subject predicate reading) (sound : IsSound token)
    (step : reading.step token = .ok next) : Opens subject predicate next := by
  cases opens with
  | object => exact of_takeObject step
  | suffix => exact of_takeSuffix step
  | datatype =>
    obtain ⟨datatype, _, rfl⟩ := eq_ok_of_map step
    exact .stated rfl rfl rfl
  | stated first names tells =>
    refine .stated ?_ names tells
    rcases Reading.statements_step sound step with same | ⟨statement, more, _⟩
    · rw [same, first]
    · rw [more, List.getLast?_cons, first, Option.getD_some]

/-- The first statement of a finished reading. -/
theorem finish (opens : Opens subject predicate reading) {namespaces : Namespaces}
    {strict : Statement} {others : List Statement}
    (finished : reading.finish = .ok (namespaces, strict :: others)) :
    strict.subject = subject ∧ strict.predicate = predicate := by
  cases opens with
  | object | suffix | datatype => cases finished
  | stated first names tells =>
    unfold Reading.finish at finished
    split at finished
    · cases finished
    · have told := (Prod.mk.inj (Except.ok.inj finished)).2
      have last := List.head?_reverse (l := reading.statements)
      rw [told, first] at last
      cases last
      exact ⟨names, tells⟩

end Opens

/-- The resource that a token between angle brackets names. -/
theorem iriValue_rawIri (raw : List Char) (line : Nat) :
    Reading.iriValue ⟨.iri, '<' :: raw ++ ['>'], line⟩ = (unescape .refused raw).map String.ofList := by
  have inner : (('<' :: raw ++ ['>']).drop 1).dropLast = raw := by
    rw [List.cons_append, List.drop_one, List.tail_cons, List.dropLast_concat]
  rw [Reading.iriValue, inner]

/-- A resource that begins a sentence is read as its subject. -/
theorem exists_of_step_subject {known : Namespaces} {raw : List Char} {line : Nat} {next : Reading}
    (step : Reading.step ⟨known, [], .sentence⟩ ⟨.iri, '<' :: raw ++ ['>'], line⟩ = .ok next) :
    ∃ value, unescape .refused raw = .ok value ∧ next = ⟨known, [], .predicate (String.ofList value)⟩ := by
  obtain ⟨subject, names, rfl⟩ := eq_ok_of_map step
  have reads : Reading.iriValue ⟨.iri, '<' :: raw ++ ['>'], line⟩ = .ok subject := names
  rw [iriValue_rawIri] at reads
  obtain ⟨value, resolves, rfl⟩ := eq_ok_of_map reads
  exact ⟨value, resolves, rfl⟩

/-- Behind a predicate an object has to come. -/
theorem exists_of_takePredicate {reading next : Reading} {subject : String} {token : Token}
    (step : reading.takePredicate subject token = .ok next) :
    ∃ predicate, next = { reading with expecting := .object subject predicate } := by
  unfold Reading.takePredicate at step
  split at step
  · cases step
    exact ⟨_, rfl⟩
  · obtain ⟨predicate, _, rfl⟩ := eq_ok_of_map step
    exact ⟨predicate, rfl⟩

/-- **What is read for a resource and a predicate at the start of a document** are the subject and the
predicate of its first statement. -/
theorem exists_of_wellFormed {known : Namespaces} {raw predicate object : List Char} {kind : TokenKind}
    (isRaw : IsRawIri raw) (isLexeme : IsLexeme kind predicate (' ' :: object)) {strict : Statement}
    {others : List Statement} (wellFormed : parse known (String.ofList
      (('<' :: raw ++ ['>']) ++ ([' '] ++ (predicate ++ ' ' :: object)))) = .ok (strict :: others)) :
    ∃ value line, unescape .refused raw = .ok value ∧ strict.subject = String.ofList value ∧
      Reading.takePredicate ⟨known, [], .predicate strict.subject⟩ strict.subject ⟨kind, predicate, line⟩ =
        .ok ⟨known, [], .object strict.subject strict.predicate⟩ := by
  obtain ⟨⟨namespaces, found⟩, reads, rfl⟩ := eq_ok_of_map wellFormed
  rw [read_eq_readOn, String.toList_ofList] at reads
  obtain ⟨last, run, finished⟩ := eq_ok_of_bind reads
  obtain ⟨_, step, run⟩ := exists_of_readOn_lexeme (isLexeme_rawIri isRaw _) run
  obtain ⟨value, resolves, rfl⟩ := exists_of_step_subject step
  rw [Reads.blank _ (by decide)] at run
  obtain ⟨next, step, run⟩ := exists_of_readOn_lexeme isLexeme run
  obtain ⟨told, rfl⟩ := exists_of_takePredicate step
  obtain ⟨tokens, lexed, run⟩ := eq_ok_of_bind run
  have opens : Opens (String.ofList value) told last :=
    eq_ok_of_foldlM (Opens (String.ofList value) told)
      (fun before token after member opens step =>
        opens.step (isSound_of_tokensFrom lexed token member) step) .object run
  obtain ⟨names, tells⟩ := opens.finish finished
  rw [names, tells]
  exact ⟨value, _, resolves, rfl, step⟩

/-! ### The subject and the predicate of a loose triple -/

/-- **A name has a colon.** -/
theorem colon_mem_of_isLexeme {lexeme rest : List Char} (isLexeme : IsLexeme .name lexeme rest) :
    ':' ∈ lexeme := by
  obtain ⟨c, body, rfl, reach⟩ := isLexeme
  have noQuote := mt (isString_of_extent? reach).mpr Bool.false_ne_true
  have isReader := isTokenReader c
  generalize extent? c = reader at isReader reach
  cases isReader with
  | colon => exact List.mem_cons_self
  | letter =>
    obtain ⟨isName, extent⟩ : (letterExtent (body ++ rest)).1 = .name ∧
        (letterExtent (body ++ rest)).2 = body.length := by simpa using reach
    unfold letterExtent at isName extent
    dsimp only at isName extent
    split at isName
    · rename_i after colon
      simp only [colon] at extent
      have inside : dottedExtent isNameChar (body ++ rest) < body.length := by omega
      rw [List.drop_append_of_le_length (Nat.le_of_lt inside)] at colon
      have first := congrArg List.head? colon
      rw [List.head?_append, List.head?_drop, List.getElem?_eq_getElem inside] at first
      have here := Option.some.inj first
      exact List.mem_cons_of_mem _ (here ▸ List.getElem_mem inside)
    · cases isName
  | iri =>
    obtain ⟨_, _, same⟩ := Option.map_eq_some_iff.mp reach
    cases same
  | string _ isQuote => exact absurd isQuote noQuote
  | at_ =>
    obtain ⟨⟨kind, count⟩, reaches, same⟩ := Option.map_eq_some_iff.mp reach
    cases same
    unfold atExtent? at reaches
    dsimp only at reaches
    split at reaches
    · cases reaches
    · split at reaches <;> cases reaches
  | mark | sign | lowLine =>
    dsimp only at reach
    split at reach <;> cases reach
  | blank | comment | digit | bracket | punctuation | other => cases reach

/-- The characters that a name in a loose triple goes on with. -/
def continuesName (c : Char) : Bool := !(isLooseStop c || c = '\x22')

theorem isLooseStop_of_mem_rawIri {raw : List Char} (isRaw : IsRawIri raw) :
    ∀ c ∈ raw, isLooseStop c = false := by
  intro c member
  rcases isRaw.forall_mem c member with safe | rfl
  · simp only [isIriChar, Bool.not_eq_true', Bool.or_eq_false_iff, decide_eq_false_iff_not] at safe
    simp [isLooseStop, safe]
  · decide

/-- The characters of a name. -/
theorem forall_mem_name {text rest : List Char} (isLexeme : IsLexeme .name text rest) :
    ∀ c ∈ text, continuesName c = true ∧ c ≠ '\\' := by
  rcases isLexeme.cases_of_noString rfl with ⟨other, _⟩ | shape
  · cases other
  intro c member
  rcases shape c member with rfl | outside
  · decide
  · rw [standsOutside, Bool.and_eq_true, Bool.not_eq_true', decide_eq_true_eq] at outside
    simp only [List.mem_cons, List.not_mem_nil, or_false, not_or] at outside
    simp [continuesName, isLooseStop, outside]

/-- A name in a loose triple goes on up to a blank, a quote or an angle bracket. -/
theorem loosePredicate?_name {text : List Char} (nonempty : text ≠ [])
    (belongs : ∀ c ∈ text, continuesName c = true) (rest : List Char) :
    loosePredicate? (text ++ rest) = some (.name (text ++ rest.takeWhile continuesName),
      rest.dropWhile continuesName) := by
  obtain ⟨c, later, rfl⟩ := List.exists_cons_of_ne_nil nonempty
  have noBracket : bracketed? (c :: later ++ rest) = none := by
    unfold bracketed?
    split
    · rename_i same
      have first := belongs c List.mem_cons_self
      rw [(List.cons.inj same).1] at first
      exact absurd first (by decide)
    · rfl
  have reach : (c :: later ++ rest).takeWhile (fun c => !(isLooseStop c || c = '\x22')) =
      c :: later ++ rest.takeWhile continuesName := List.takeWhile_append_of_pos belongs
  have behind : (c :: later ++ rest).drop (c :: later ++ rest.takeWhile continuesName).length =
      rest.dropWhile continuesName := by
    rw [List.length_append, ← List.drop_drop, List.drop_left, drop_length_takeWhile]
  unfold loosePredicate?
  simp only [noBracket, reach, behind]
  rw [if_neg (by simp)]

/-- A name stands for the same in a loose triple as in a document, with what is stuck to it behind. -/
theorem resource?_name {known : Namespaces} {text : List Char} (colon : ':' ∈ text) (behind : List Char)
    {line : Nat} {predicate : String}
    (names : Reading.expand known ⟨.name, text, line⟩ = .ok predicate) :
    (LoosePredicate.name (text ++ behind)).resource? known =
      some (predicate ++ String.ofList behind) := by
  obtain ⟨name, locals, rfl, absent⟩ := List.eq_append_cons_of_mem colon
  have front : ∀ rest, (name ++ ':' :: rest).takeWhile (· ≠ ':') = name := takeWhile_colon absent
  have drops : ∀ rest, (name ++ ':' :: rest).drop (name.length + 1) = rest := fun rest => by
    rw [← List.drop_drop, List.drop_left, List.drop_one, List.tail_cons]
  unfold Reading.expand at names
  dsimp only at names
  rw [front, drops] at names
  split at names
  · rename_i base declared
    cases names
    have noType : name ++ ':' :: (locals ++ behind) ≠ ['a'] := fun same =>
      absurd (same ▸ List.mem_append_right name List.mem_cons_self : ':' ∈ ['a']) (by decide)
    have longer : name.length ≠ (name ++ ':' :: (locals ++ behind)).length := by
      rw [List.length_append, List.length_cons]
      omega
    rw [List.append_assoc, List.cons_append, LoosePredicate.resource?, if_neg noType]
    simp only [front, if_neg longer, declared, drops, Option.map_some, String.ofList_append,
      String.append_assoc]
  · cases names

/-- The statement of a loose triple. -/
theorem exists_of_parseTriple {known : Namespaces} {text : String} {cause : Error}
    {found : List Statement} (faulty : parse known text = .error cause)
    (falls : parseTriple known text = .ok found) :
    ∃ subject predicate object value, looseTriple? known text = some (subject, predicate, object) ∧
      found = [⟨subject, predicate, .plain value⟩] := by
  unfold parseTriple at falls
  rw [faulty] at falls
  dsimp only at falls
  split at falls
  · split at falls
    · rename_i subject predicate object loose
      obtain ⟨value, _, rfl⟩ := eq_ok_of_map falls
      exact ⟨subject, predicate, object, _, loose, rfl⟩
    · cases falls
  · cases falls

theorem trimStart_append_blanks {blanks : List Char} (areBlanks : ∀ c ∈ blanks, Unicode.isBlank c = true)
    {rest : List Char} (other : ∀ c ∈ rest.head?, Unicode.isBlank c = false) :
    Unicode.trimStart (blanks ++ rest) = rest := by
  rw [Unicode.trimStart, List.dropWhile_append_of_pos areBlanks]
  cases rest with
  | nil => rfl
  | cons c later => exact List.dropWhile_cons_of_neg (by rw [other c rfl]; exact Bool.false_ne_true)

/-- The parts of a loose triple stand one behind the other. -/
theorem exists_of_looseParts? {text subject object : List Char} {predicate : LoosePredicate}
    (parts : looseParts? text = some (subject, predicate, object)) :
    ∃ behindSubject start behindPredicate,
      bracketed? (Unicode.trimStart text) = some (subject, behindSubject) ∧
        afterBlanks? behindSubject = some start ∧
          loosePredicate? start = some (predicate, behindPredicate) := by
  simp only [looseParts?, Option.bind_eq_bind, Option.bind_eq_some_iff, Prod.exists] at parts
  obtain ⟨subject', behindSubject, brackets, start, follows, predicate', behindPredicate, tells, _, _,
    rest⟩ := parts
  split at rest
  · simp only [Option.bind_eq_some_iff, Prod.exists] at rest
    obtain ⟨object', tail, _, ends⟩ := rest
    split at ends <;> cases ends
    exact ⟨behindSubject, start, behindPredicate, brackets, follows, tells⟩
  · cases rest

/-- **What a loose triple begins with**: its subject as it is written, and then its predicate. -/
theorem exists_of_looseTriple? {known : Namespaces} {lead raw between tail object : List Char}
    {subject predicate : String} (plain : ∀ c ∈ raw, isLooseStop c = false)
    (areBlanks : ∀ c ∈ lead ++ between, Unicode.isBlank c = true)
    (other : ∀ c ∈ tail.head?, Unicode.isBlank c = false)
    (loose : looseTriple? known (String.ofList (lead ++ (('<' :: raw ++ ['>']) ++ (between ++ tail)))) =
      some (subject, predicate, object)) :
    subject = String.ofList raw ∧ ∃ told behind, loosePredicate? tail = some (told, behind) ∧
      told.resource? known = some predicate := by
  obtain ⟨leads, parts⟩ := List.forall_mem_append.mp areBlanks
  simp only [looseTriple?, Option.bind_eq_bind, Option.bind_eq_some_iff, Prod.exists,
    Option.some.injEq, Prod.mk.injEq, String.toList_ofList] at loose
  obtain ⟨inner, told, quoted, found, _, names, rfl, rfl, rfl⟩ := loose
  obtain ⟨behindSubject, start, behind, brackets, follows, tells⟩ := exists_of_looseParts? found
  have begins : Unicode.trimStart (lead ++ (('<' :: raw ++ ['>']) ++ (between ++ tail))) =
      '<' :: (raw ++ '>' :: (between ++ tail)) := by
    rw [trimStart_append_blanks leads (by rintro c ⟨⟩; decide)]
    simp
  rw [begins, bracketed?_append plain] at brackets
  split at brackets <;> cases brackets
  rw [afterBlanks?] at follows
  split at follows <;> cases follows
  rw [trimStart_append_blanks parts other] at tells
  exact ⟨rfl, told, behind, tells, names⟩

/-- What a predicate is written as: a resource between angle brackets, a name in a namespace, or the word
for the type. -/
inductive IsPredicate : List Char → Prop where
  | iri {inner : List Char} : IsRawIri inner → IsPredicate ('<' :: inner ++ ['>'])
  | name {text : List Char} : IsLexeme .name text [] → IsPredicate text
  | type : IsPredicate ['a']

/-- A predicate begins with a character that is no blank. -/
theorem IsPredicate.exists_cons {predicate : List Char} (isPredicate : IsPredicate predicate) :
    ∃ first later, predicate = first :: later ∧ Unicode.isBlank first = false := by
  cases isPredicate with
  | iri => exact ⟨_, _, rfl, by decide⟩
  | name isName =>
    have blanks := isName.forall_mem rfl
    obtain ⟨c, body, rfl, _⟩ := isName
    exact ⟨c, body, rfl, (blanks c List.mem_cons_self).1⟩
  | type => exact ⟨_, _, rfl, by decide⟩

/-- The resource that the grammar reads for a predicate. -/
inductive Tells (known : Namespaces) : List Char → String → Prop where
  | iri {inner value : List Char} : IsRawIri inner → unescape .refused inner = .ok value →
      Tells known ('<' :: inner ++ ['>']) (String.ofList value)
  | name {text : List Char} {line : Nat} {predicate : String} : IsLexeme .name text [] →
      Reading.expand known ⟨.name, text, line⟩ = .ok predicate → Tells known text predicate
  | type : Tells known ['a'] Rdf.typePredicate

/-- A token that is no word names a resource as a predicate. -/
theorem resource_of_takePredicate {known : Namespaces} {subject predicate : String} {token : Token}
    (noWord : token.kind ≠ .word)
    (step : Reading.takePredicate ⟨known, [], .predicate subject⟩ subject token =
      .ok ⟨known, [], .object subject predicate⟩) :
    Reading.resource known .predicate token = .ok predicate := by
  rw [Reading.takePredicate, if_neg fun isType => noWord isType.1] at step
  obtain ⟨told, names, same⟩ := eq_ok_of_map step
  cases same
  exact names

/-- The subject and the predicate of a document that begins with them. -/
theorem tells_of_wellFormed {known : Namespaces} {raw predicate object : List Char} {strict : Statement}
    {others : List Statement} (isRaw : IsRawIri raw) (isPredicate : IsPredicate predicate)
    (wellFormed : parse known (String.ofList
      (('<' :: raw ++ ['>']) ++ ([' '] ++ (predicate ++ ' ' :: object)))) = .ok (strict :: others)) :
    (∃ value, unescape .refused raw = .ok value ∧ strict.subject = String.ofList value) ∧
      Tells known predicate strict.predicate := by
  cases isPredicate with
  | @iri inner isInner =>
    obtain ⟨value, line, resolves, names, step⟩ :=
      exists_of_wellFormed isRaw (isLexeme_rawIri isInner _) wellFormed
    have reads : Reading.iriValue ⟨.iri, '<' :: inner ++ ['>'], line⟩ = .ok strict.predicate :=
      resource_of_takePredicate (by simp) step
    obtain ⟨told, inside, same⟩ := eq_ok_of_map (iriValue_rawIri inner line ▸ reads)
    exact ⟨⟨value, resolves, names⟩, same ▸ .iri isInner inside⟩
  | name isName =>
    have isLexeme : IsLexeme .name predicate (' ' :: object) :=
      @IsLexeme.transfer .name predicate [] [] _ isName rfl (by rintro c ⟨⟩) (by rintro c ⟨⟩; decide)
    obtain ⟨value, line, resolves, names, step⟩ := exists_of_wellFormed isRaw isLexeme wellFormed
    exact ⟨⟨value, resolves, names⟩, .name isName (resource_of_takePredicate (by simp) step)⟩
  | type =>
    have isWord : IsLexeme .word ['a'] (' ' :: object) :=
      isLexeme_word (by decide) (fun _ member => absurd member List.not_mem_nil)
        (by rintro c ⟨⟩; decide +kernel)
    obtain ⟨value, line, resolves, names, step⟩ := exists_of_wellFormed isRaw isWord wellFormed
    rw [Reading.takePredicate, if_pos ⟨rfl, rfl⟩] at step
    injection step with same
    injection same with _ _ same
    injection same with _ same
    exact ⟨⟨value, resolves, names⟩, same ▸ .type⟩

/-- A predicate in a loose triple stands for what the grammar reads just where it has no escape and
nothing is stuck to it. A word that more is stuck to may by chance be a name of the same resource. -/
theorem resource?_eq_iff {known : Namespaces} {predicate rest behind : List Char} {told named : String}
    {loose : LoosePredicate} (tells : Tells known predicate told)
    (starts : loosePredicate? (predicate ++ rest) = some (loose, behind))
    (names : loose.resource? known = some named) :
    named = told ↔ '\\' ∉ predicate ∧ (predicate.head? = some '<' ∨
      rest.takeWhile continuesName = [] ∨ predicate = ['a'] ∧
        (LoosePredicate.name ('a' :: rest.takeWhile continuesName)).resource? known =
          some Rdf.typePredicate) := by
  cases tells with
  | @iri inner value isInner resolves =>
    have brackets := bracketed?_append (isLooseStop_of_mem_rawIri isInner) rest
    have whole : '<' :: inner ++ ['>'] ++ rest = '<' :: (inner ++ '>' :: rest) := by simp
    rw [whole, loosePredicate?, brackets] at starts
    have nonempty : inner ≠ [] := by
      rintro rfl
      cases starts
    rw [if_neg nonempty] at starts
    cases starts
    cases names
    have escapes : '\\' ∉ '<' :: inner ++ ['>'] ↔ '\\' ∉ inner := by simp
    rw [String.ofList_inj, escapes, ← unescape_eq_self_iff isInner, resolves]
    exact ⟨fun same => ⟨by rw [same], .inl rfl⟩, fun kept => (Except.ok.inj kept.1).symm⟩
  | name isName expands =>
    have plain := forall_mem_name isName
    have colon := colon_mem_of_isLexeme isName
    rw [loosePredicate?_name (List.ne_nil_of_mem colon) fun c member => (plain c member).1] at starts
    cases starts
    rw [resource?_name colon _ expands] at names
    cases names
    have noEscape : '\\' ∉ predicate := fun member => (plain _ member).2 rfl
    have noBracket : predicate.head? ≠ some '<' := fun first =>
      absurd (plain '<' (List.mem_of_mem_head? first)).1 (by decide)
    have noType : predicate ≠ ['a'] := by
      rintro rfl
      exact absurd colon (by decide)
    have same : told ++ String.ofList (rest.takeWhile continuesName) = told ↔
        rest.takeWhile continuesName = [] := by
      rw [← String.toList_inj, String.toList_append, String.toList_ofList, List.append_right_eq_self]
    simp [same, noEscape, noBracket, noType]
  | type =>
    rw [loosePredicate?_name (by simp) (Unicode.forall_mem_of_all (by decide))] at starts
    cases starts
    rw [List.singleton_append] at names
    rw [names]
    have word : (LoosePredicate.name ['a']).resource? known = some Rdf.typePredicate := rfl
    constructor
    · rintro rfl
      exact ⟨by decide, .inr (.inr ⟨rfl, rfl⟩)⟩
    · rintro ⟨_, bracket | nothing | ⟨_, same⟩⟩
      · exact absurd bracket (by decide)
      · rw [nothing, word] at names
        exact (Option.some.inj names).symm
      · exact Option.some.inj same

/-- A text that begins with a resource and a predicate, behind blanks and with blanks between them. -/
def beginningWith (lead raw between predicate rest : List Char) : String :=
  String.ofList (lead ++ (('<' :: raw ++ ['>']) ++ (between ++ (predicate ++ rest))))

/-- **A loose triple has the subject and the predicate that the grammar reads** where it finds them at
the start of a document, just where neither of them has an escape and nothing is stuck to a predicate
that is a name or a word. -/
theorem looseNames_iff {known : Namespaces} {lead raw between predicate rest object : List Char}
    {strict : Statement} {others found : List Statement} {cause : Error} (isRaw : IsRawIri raw)
    (isPredicate : IsPredicate predicate)
    (areBlanks : ∀ c ∈ lead ++ between, Unicode.isBlank c = true)
    (wellFormed : parse known (beginningWith [] raw [' '] predicate (' ' :: object)) =
      .ok (strict :: others))
    (faulty : parse known (beginningWith lead raw between predicate rest) = .error cause)
    (falls : parseTriple known (beginningWith lead raw between predicate rest) = .ok found) :
    ∃ loose, found = [loose] ∧
      (loose.subject = strict.subject ∧ loose.predicate = strict.predicate ↔
        '\\' ∉ raw ∧ '\\' ∉ predicate ∧ (predicate.head? = some '<' ∨
          rest.takeWhile continuesName = [] ∨ predicate = ['a'] ∧
            (LoosePredicate.name ('a' :: rest.takeWhile continuesName)).resource? known =
              some Rdf.typePredicate)) := by
  obtain ⟨⟨value, resolves, named⟩, tells⟩ := tells_of_wellFormed isRaw isPredicate wellFormed
  obtain ⟨subject, told, quoted, object', loose, rfl⟩ := exists_of_parseTriple faulty falls
  have notBlank : ∀ c ∈ (predicate ++ rest).head?, Unicode.isBlank c = false := by
    obtain ⟨first, later, rfl, other⟩ := isPredicate.exists_cons
    rintro c ⟨⟩
    exact other
  obtain ⟨rfl, predicate', behind, starts, names⟩ :=
    exists_of_looseTriple? (isLooseStop_of_mem_rawIri isRaw) areBlanks notBlank loose
  refine ⟨_, rfl, and_congr ?_ (resource?_eq_iff tells starts names)⟩
  rw [named, String.ofList_inj, ← unescape_eq_self_iff isRaw, resolves]
  exact ⟨fun same => by rw [same], fun same => (Except.ok.inj same).symm⟩

/-- A text with quotes in its object, whose predicate is a name. -/
theorem looseNames_iff_of_name : ∃ loose,
    parseTriple Rdf.defaultNamespaces (beginningWith [] "x:ana".toList [' '] "phb:resumen".toList
        " \x22la \x22Juana\x22\x22 .".toList) = .ok [loose] ∧
      loose.subject = "x:ana" ∧ loose.predicate = Rdf.ontologyNamespace ++ "resumen" := by
  have isRaw : IsRawIri "x:ana".toList := isRawIri_of_iriExtent? (by decide +kernel)
  have isName : IsLexeme .name "phb:resumen".toList [] :=
    ⟨'p', "hb:resumen".toList, rfl, by decide +kernel⟩
  have wellFormed : parse Rdf.defaultNamespaces (beginningWith [] "x:ana".toList [' ']
      "phb:resumen".toList (' ' :: "\x22Juana\x22 .".toList)) =
        .ok [⟨"x:ana", Rdf.ontologyNamespace ++ "resumen", .plain "Juana"⟩] := by rfl
  have falls : parseTriple Rdf.defaultNamespaces (beginningWith [] "x:ana".toList [' ']
      "phb:resumen".toList " \x22la \x22Juana\x22\x22 .".toList) =
        .ok [⟨"x:ana", Rdf.ontologyNamespace ++ "resumen", .plain "la \x22Juana\x22"⟩] := by rfl
  obtain ⟨loose, same, alike⟩ :=
    looseNames_iff isRaw (.name isName) (Unicode.forall_mem_of_all (by decide)) wellFormed rfl falls
  have names := alike.mpr ⟨by decide, by decide, .inr (.inl (by decide))⟩
  exact ⟨loose, falls.trans (congrArg Except.ok same), names⟩

/-- **A loose triple keeps the escapes of its subject**, which the grammar resolves, and takes what is
stuck to the name of its predicate. -/
theorem not_alike_of_escape :
    (parse [] "<\\u0041> <b> \x22x\x22 ." = .ok [⟨"A", "b", .plain "x"⟩] ∧
      parseTriple [] "<\\u0041> <b> \x22x\x22y\x22 ." = .ok [⟨"\\u0041", "b", .plain "x\x22y"⟩] ∧
        "\\u0041" ≠ "A") ∧
      parse [("p", "b")] "<a> p:x \x22x\x22 ." = .ok [⟨"a", "bx", .plain "x"⟩] ∧
        parseTriple [("p", "b")] "<a> p:x, \x22x\x22y\x22 ." = .ok [⟨"a", "bx,", .plain "x\x22y"⟩] ∧
          "bx," ≠ "bx" :=
  ⟨⟨rfl, rfl, by decide⟩, rfl, rfl, by decide⟩

end HistoricalFigures.Turtle
