import HistoricalFigures.Proofs.Literal.Rewriting
import HistoricalFigures.Proofs.Turtle.Form

/-!
**Decoding the quoted segments of a document changes nothing but what its literals say**, unless a segment
in a string in single quotes brings a quote that closes it.

* `isApart_of_mayFollow`, `exists_edged_split`: where the text behind a token is parted from it.
* `StaysWhole`: a string in single quotes is one behind the decoding, too.
* `exists_readOn_token`, `exists_readOn_string`: one token.
* `exists_readOn_replaceAll`: the tokens of a text, one after the other.
* `exists_parse_decodeQuotedSegments`: the statements of a document.
* `not_exists_parse_of_singleQuote`: a document that cannot be read behind the decoding.
-/
namespace HistoricalFigures.Literal

open Rdf (Namespaces Statement)
open Turtle (IsEdged IsLexeme Lexes Reading Token TokenKind continuesComment isEdge lineBehind mayFollow
  readOn)

/-! ### Where a text is parted -/

theorem isApart_of_mayFollow {c : Char} (follows : mayFollow c = true) : IsApart c := by
  rw [mayFollow, Bool.or_eq_true] at follows
  rcases follows with blank | mark
  · exact isApart_of_isBlank blank
  · have each : ∀ d ∈ ['#', '@', '^', '.', ';', ','], Base64.isSymbol d = false ∧ d ≠ '\x22' :=
      Unicode.forall_mem_of_all (by decide)
    exact each c (of_decide_eq_true mark)

theorem head?_replaceAll (text : List Char) :
    (Text.replaceAll quotedSegment text).head? = text.head? := (rewrites_replaceAll text).head?_eq

/-- **Decoding changes a text behind an edge alone**, namely behind its first double quote. -/
theorem exists_edged_split (text : List Char) : ∃ front rest rest', text = front ++ rest ∧
    Text.replaceAll quotedSegment text = front ++ rest' ∧ IsEdged rest ∧ IsEdged rest' := by
  let plain : Char → Bool := fun c => c ≠ '\x22'
  have edged : IsEdged (text.dropWhile plain) := by
    intro c first
    have stops := List.head?_dropWhile_not plain text
    rw [first] at stops
    obtain rfl : c = '\x22' := by simpa [plain] using stops
    decide
  have absent : '\x22' ∉ text.takeWhile plain := fun member =>
    absurd (List.all_eq_true.mp List.all_takeWhile _ member) (by simp [plain])
  refine ⟨text.takeWhile plain, text.dropWhile plain,
    Text.replaceAll quotedSegment (text.dropWhile plain), List.takeWhile_append_dropWhile.symm, ?_,
    edged, ?_⟩
  · rw [← replaceAll_append_of_notMem absent, List.takeWhile_append_dropWhile]
  · rw [IsEdged, head?_replaceAll]
    exact edged

/-! ### One token -/

/-- Behind the decoding a string in single quotes is one string, too. One in double quotes always is. -/
def StaysWhole (kind : TokenKind) (lexeme : List Char) : Prop :=
  lexeme.head? = some '\x27' → IsLexeme kind (Text.replaceAll quotedSegment lexeme) []

/-- What is no string stays whole. -/
theorem staysWhole_of_noString {kind : TokenKind} {lexeme rest : List Char}
    (isLexeme : IsLexeme kind lexeme rest) (noString : kind.isString = false) :
    StaysWhole kind lexeme := by
  intro single
  obtain ⟨c, body, rfl, reach⟩ := isLexeme
  obtain rfl : c = '\x27' := Option.some.inj single
  rw [(Turtle.isString_of_extent? reach).mpr (.inr rfl)] at noString
  cases noString

/-- A token that is no string is read behind the decoding as well. -/
theorem exists_readOn_token {kind : TokenKind} {lexeme rest : List Char}
    (isLexeme : IsLexeme kind lexeme rest) (noString : kind.isString = false)
    {reading other next : Reading} (same : reading.form = other.form) {line : Nat}
    (step : reading.step ⟨kind, lexeme, line⟩ = .ok next) :
    ∃ next', next.form = next'.form ∧
      readOn other line (Text.replaceAll quotedSegment (lexeme ++ rest)) =
        readOn next' (lineBehind line lexeme) (Text.replaceAll quotedSegment rest) := by
  obtain ⟨next', took, sameNext⟩ := Reading.exists_step_of_form same step
  refine ⟨next', sameNext, ?_⟩
  have absent : '\x22' ∉ lexeme := fun member => (isLexeme.forall_mem noString _ member).2 rfl
  obtain ⟨front, tail, tail', whole, whole', edged, edged'⟩ := exists_edged_split rest
  rw [whole] at isLexeme
  have stays := isLexeme.transfer noString edged edged'
  rw [← whole'] at stays
  rw [replaceAll_append_of_notMem absent, Turtle.readOn_lexeme stays took]

/-- **A string is read behind the decoding as another one.** -/
theorem exists_readOn_string {kind : TokenKind} {lexeme rest : List Char}
    (isLexeme : IsLexeme kind lexeme rest) (isString : kind.isString = true)
    (whole : StaysWhole kind lexeme) {reading other next last : Reading}
    (same : reading.form = other.form) {line : Nat}
    (step : reading.step ⟨kind, lexeme, line⟩ = .ok next)
    (goesOn : readOn next (lineBehind line lexeme) rest = .ok last) :
    ∃ next', next.form = next'.form ∧
      readOn other line (Text.replaceAll quotedSegment (lexeme ++ rest)) =
        readOn next' (lineBehind line lexeme) (Text.replaceAll quotedSegment rest) := by
  have follows := Turtle.mayFollow_of_readOn isString step goesOn
  have parted : IsParted lexeme rest := .inr fun c first => isApart_of_mayFollow (follows c first)
  have alone := isLexeme.alone isString
  have stays : IsLexeme kind (Text.replaceAll quotedSegment lexeme) [] := by
    obtain ⟨quote, body, rfl, reach⟩ := id isLexeme
    rcases (Turtle.isString_of_extent? reach).mp isString with rfl | rfl
    · exact isLexeme_replaceAll alone isString (.inl rfl)
    · exact whole rfl
  obtain ⟨_, _, value, _, reads, _⟩ := Turtle.exists_of_step_string isString step
  obtain ⟨value', reads'⟩ := exists_stringValue_replaceAll alone isString stays reads line
  obtain ⟨next', took, sameNext⟩ := Reading.exists_step_string_of_form isString same step reads'
  have ends : (Text.replaceAll quotedSegment rest).head? ≠
      (Text.replaceAll quotedSegment lexeme).head? := by
    rw [head?_replaceAll, head?_replaceAll]
    exact isLexeme.head?_ne isString follows
  refine ⟨next', sameNext, ?_⟩
  rw [replaceAll_append parted, Turtle.readOn_lexeme (stays.string_append isString ends) took,
    (rewrites_replaceAll lexeme).lineBehind_eq]

/-! ### The tokens of a text -/

/-- A comment is decoded on its own. -/
theorem replaceAll_comment {body rest : List Char}
    (ends : ∀ c ∈ rest.head?, continuesComment c = false) :
    Text.replaceAll quotedSegment ('#' :: (body ++ rest)) =
      '#' :: Text.replaceAll quotedSegment body ++ Text.replaceAll quotedSegment rest := by
  have parted : IsParted body rest := .inr fun c first => by
    have isBreak_ := of_decide_eq_false (ends c first)
    by_cases carriage : c = '\r'
    · subst carriage
      exact ⟨by decide, by decide⟩
    · obtain rfl : c = '\n' := by tauto
      exact ⟨by decide, by decide⟩
  have mark : '\x22' ∉ ['#'] := by decide
  rw [← List.singleton_append, replaceAll_append_of_notMem mark, replaceAll_append parted]
  rfl

/-- A blank is passed over as before. -/
theorem readOn_replaceAll_blank {c : Char} (isBlank : Unicode.isBlank c = true) (rest : List Char)
    (reading : Reading) (line : Nat) :
    readOn reading line (Text.replaceAll quotedSegment ([c] ++ rest)) =
      readOn reading (lineBehind line [c]) (Text.replaceAll quotedSegment rest) := by
  have absent : '\x22' ∉ [c] := fun member =>
    (isApart_of_isBlank isBlank).2 (List.mem_singleton.mp member).symm
  rw [replaceAll_append_of_notMem absent, Turtle.Reads.blank reading isBlank]

/-- A comment is passed over as before, although it may say something else. -/
theorem readOn_replaceAll_comment {body rest : List Char}
    (sameLine : ∀ c ∈ body, continuesComment c = true)
    (ends : ∀ c ∈ rest.head?, continuesComment c = false) (reading : Reading) (line : Nat) :
    readOn reading line (Text.replaceAll quotedSegment ('#' :: body ++ rest)) =
      readOn reading (lineBehind line ('#' :: body)) (Text.replaceAll quotedSegment rest) := by
  have rewrites := rewrites_replaceAll body
  have ends' : ∀ c ∈ (Text.replaceAll quotedSegment rest).head?, continuesComment c = false := by
    rw [head?_replaceAll]
    exact ends
  calc readOn reading line (Text.replaceAll quotedSegment ('#' :: body ++ rest))
      = readOn reading line ('#' :: Text.replaceAll quotedSegment body ++
          Text.replaceAll quotedSegment rest) := by
        rw [List.cons_append, replaceAll_comment ends]
    _ = readOn reading (lineBehind line ('#' :: Text.replaceAll quotedSegment body))
          (Text.replaceAll quotedSegment rest) :=
        Turtle.Reads.comment reading (rewrites.continuesComment sameLine) ends' line
    _ = readOn reading (lineBehind line ('#' :: body)) (Text.replaceAll quotedSegment rest) := by
        rw [(rewrites.char '#').lineBehind_eq]

/-- **Behind the decoding a text is read to the same form.** -/
theorem exists_readOn_replaceAll {text : List Char} {found : List (TokenKind × List Char)}
    (lexes : Lexes text found) (whole : ∀ token ∈ found, StaysWhole token.1 token.2)
    {reading other last : Reading} (same : reading.form = other.form) {line : Nat}
    (reads : readOn reading line text = .ok last) :
    ∃ last', readOn other line (Text.replaceAll quotedSegment text) = .ok last' ∧
      last.form = last'.form := by
  induction lexes generalizing reading other line with
  | nil =>
    cases reads
    exact ⟨other, rfl, same⟩
  | @blank c rest _ isBlank _ found =>
    have passed := Turtle.Reads.blank reading isBlank rest line
    rw [← List.singleton_append, readOn_replaceAll_blank isBlank]
    exact found whole same (passed.symm.trans reads)
  | @comment body rest _ sameLine ends _ found =>
    have passed := Turtle.Reads.comment reading sameLine ends line
    rw [← List.cons_append, readOn_replaceAll_comment sameLine ends]
    exact found whole same (passed.symm.trans reads)
  | @token kind lexeme rest _ isLexeme _ found =>
    obtain ⟨here, others⟩ := List.forall_mem_cons.mp whole
    obtain ⟨next, step, goesOn⟩ := Turtle.exists_of_readOn_lexeme isLexeme reads
    obtain ⟨next', sameNext, decoded⟩ : ∃ next', next.form = next'.form ∧
        readOn other line (Text.replaceAll quotedSegment (lexeme ++ rest)) =
          readOn next' (lineBehind line lexeme) (Text.replaceAll quotedSegment rest) := by
      cases isString : kind.isString with
      | false => exact exists_readOn_token isLexeme isString same step
      | true => exact exists_readOn_string isLexeme isString here same step goesOn
    rw [decoded]
    exact found others sameNext goesOn

/-! ### The statements of a document -/

/-- The statements of a text, from the tokens that it is made up of. -/
theorem exists_parse_of_lexes {known : Namespaces} {text : String}
    {found : List (TokenKind × List Char)} (lexes : Lexes text.toList found)
    (whole : ∀ token ∈ found, StaysWhole token.1 token.2) {told : List Statement}
    (parsed : Turtle.parse known text = .ok told) :
    ∃ others, Turtle.parse known (decodeQuotedSegments text) = .ok others ∧
      others.map Statement.form = told.map Statement.form := by
  obtain ⟨⟨declared, _⟩, reads, rfl⟩ := eq_ok_of_map parsed
  rw [Turtle.read_eq_readOn] at reads
  obtain ⟨last, reads, finish⟩ := eq_ok_of_bind reads
  obtain ⟨last', reads', same⟩ := exists_readOn_replaceAll lexes whole rfl reads
  obtain ⟨others, finish', sameForm⟩ := Reading.exists_finish_of_form same finish
  refine ⟨others, ?_, sameForm⟩
  rw [Turtle.parse, Turtle.read_eq_readOn, decodeQuotedSegments, String.toList_ofList, reads']
  exact congrArg (Except.map Prod.snd) finish'

/-- **Behind the decoding a document has the same statements but for what their literals say**: in the same
order statements with the same subjects, predicates, resources, datatypes and languages. Strings in single
quotes have to stay whole. -/
theorem exists_parse_decodeQuotedSegments {known : Namespaces} {text : String} {found : List Token}
    {told : List Statement} (lexed : Turtle.tokens text.toList = .ok found)
    (whole : ∀ token ∈ found, StaysWhole token.kind token.text)
    (parsed : Turtle.parse known text = .ok told) :
    ∃ others, Turtle.parse known (decodeQuotedSegments text) = .ok others ∧
      others.map Statement.form = told.map Statement.form := by
  have lexes := Turtle.lexes_of_tokensFrom lexed
  rw [List.drop_zero] at lexes
  refine exists_parse_of_lexes lexes (fun token member => ?_) parsed
  obtain ⟨token, among, rfl⟩ := List.mem_map.mp member
  exact whole token among

/-- A document with a segment in single quotes and one in double quotes. -/
def greetings : String := "<a> <b> '\x22SGk=\x22' , \x22SGk=\x22 ."

/-- Its tokens. -/
def greetingTokens : List Token :=
  [⟨.iri, "<a>".toList, 1⟩, ⟨.iri, "<b>".toList, 1⟩, ⟨.string, "'\x22SGk=\x22'".toList, 1⟩,
    ⟨.punctuation, [','], 1⟩, ⟨.string, "\x22SGk=\x22".toList, 1⟩, ⟨.punctuation, ['.'], 1⟩]

/-- Of segments that greet, in quotes of both kinds. -/
theorem exists_parse_decodeQuotedSegments_of_greetings :
    Turtle.tokens greetings.toList = .ok greetingTokens ∧
      (∀ token ∈ greetingTokens, StaysWhole token.kind token.text) ∧
      Turtle.parse [] greetings =
        .ok [⟨"a", "b", .plain "\x22SGk=\x22"⟩, ⟨"a", "b", .plain "SGk="⟩] ∧
      ∃ others, Turtle.parse [] (decodeQuotedSegments greetings) = .ok others ∧
        others.map Statement.form = [⟨"a", "b", .plain ""⟩, ⟨"a", "b", .plain ""⟩] := by
  have lexed : Turtle.tokens greetings.toList = .ok greetingTokens := by rfl
  have parsed : Turtle.parse [] greetings =
      .ok [⟨"a", "b", .plain "\x22SGk=\x22"⟩, ⟨"a", "b", .plain "SGk="⟩] := by rfl
  have single : StaysWhole .string "'\x22SGk=\x22'".toList := fun _ =>
    isLexeme_replaceAll ⟨'\x27', "\x22SGk=\x22'".toList, rfl, rfl⟩ rfl (.inr (by decide))
  have other : ∀ kind (lexeme : List Char), lexeme.head? ≠ some '\x27' → StaysWhole kind lexeme :=
    fun _ _ noQuote quote => absurd quote noQuote
  have whole : ∀ token ∈ greetingTokens, StaysWhole token.kind token.text := by
    simp only [greetingTokens, List.forall_mem_cons, List.not_mem_nil, false_implies, implies_true,
      and_true]
    exact ⟨other _ _ (by decide), other _ _ (by decide), single, other _ _ (by decide),
      other _ _ (by decide), other _ _ (by decide)⟩
  exact ⟨lexed, whole, parsed, exists_parse_decodeQuotedSegments lexed whole parsed⟩

/-- **A segment in single quotes may bring a quote that closes it**, and then the document cannot be
read. -/
theorem not_exists_parse_of_singleQuote :
    Turtle.parse [] "<a> <b> '\x22SGkn\x22' ." = .ok [⟨"a", "b", .plain "\x22SGkn\x22"⟩] ∧
      ¬ ∃ others, Turtle.parse [] (decodeQuotedSegments "<a> <b> '\x22SGkn\x22' .") = .ok others := by
  have decoded : decodeQuotedSegments "<a> <b> '\x22SGkn\x22' ." = "<a> <b> '\x22Hi'\x22' ." := by
    decide +kernel
  have refused : Turtle.parse [] "<a> <b> '\x22Hi'\x22' ." =
      .error (.noToken 1 ['\x22', '\x27', ' ', '.']) := by rfl
  rw [decoded, refused]
  exact ⟨rfl, fun ⟨_, same⟩ => nomatch same⟩

end HistoricalFigures.Literal
