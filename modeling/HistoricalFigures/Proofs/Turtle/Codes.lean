import HistoricalFigures.Proofs.Turtle.Lexes
import HistoricalFigures.Proofs.Turtle.StringShape

/-!
**The numbers that the escapes of a text name.** A reading that does not end over the grammar ends over
an escape with a number beyond all characters. No token parts a backslash from the character behind it,
so that the escapes in the tokens of a document are escapes in the document.

* `codes`: the numbers that the escapes of a text name.
* `escape_induction`: a text is made up of characters and escapes.
* `IsPaired`, `IsLexeme.isPaired`: every backslash has its character with it, as in a token.
* `StandsFor`, `exists_standsFor`, `StandsFor.unescape_eq`: what a text stands for where unknown escapes
  are kept.
* `mem_codes_of_parse`: a number that ends the reading of a document is one that it names.
-/
namespace HistoricalFigures.Turtle

open Rdf (Namespaces)

/-! ### The escapes of a text -/

/-- The number that an escape names. -/
def Escape.codes : Escape → List Nat
  | .code value => [value]
  | .single _ => []

/-- The numbers that the escapes of a text name, from its start on: a backslash takes the character
behind it, which then begins no escape of its own. -/
def codes : List Char → List Nat
  | '\\' :: letter :: rest => (Escape.read letter rest).1.codes ++ codes rest
  | _ :: rest => codes rest
  | [] => []

/-- Hexadecimal digits are no backslashes. -/
theorem backslash_notMem_of_readHex? {digits : List Char} {value : Nat}
    (number : Number.readHex? digits.length digits = some value) : '\\' ∉ digits := fun member =>
  absurd (Number.isHexDigit_of_readHexAfter? number '\\' member) (by decide)

/-- A text consists of characters, and of backslashes with one character. -/
theorem pair_induction {motive : List Char → Prop} (nil : motive [])
    (char : ∀ c rest, c ≠ '\\' → motive rest → motive (c :: rest)) (last : motive ['\\'])
    (pair : ∀ letter rest, motive rest → motive ('\\' :: letter :: rest)) (text : List Char) :
    motive text := by
  induction text using codes.induct with
  | case1 letter rest found => exact pair letter rest found
  | case2 c rest alone found =>
    by_cases backslash : c = '\\'
    · cases rest with
      | nil => rwa [backslash]
      | cons letter more => exact (alone letter more backslash rfl).elim
    · exact char c rest backslash found
  | case3 => exact nil

/-- **A text consists of characters, escapes with digits, and backslashes with one character.** -/
theorem escape_induction {motive : List Char → Prop} (nil : motive [])
    (char : ∀ c rest, c ≠ '\\' → motive rest → motive (c :: rest)) (last : motive ['\\'])
    (code : ∀ letter digits rest value, (letter, digits.length) ∈ escapeLetters →
      Number.readHex? digits.length digits = some value → motive rest →
        motive ('\\' :: letter :: (digits ++ rest)))
    (single : ∀ letter rest, Escape.read letter rest = (.single letter, 0) → motive rest →
      motive ('\\' :: letter :: rest)) (text : List Char) : motive text := by
  -- An escape takes several characters at once, so that the induction is on the length.
  induction length : text.length using Nat.strong_induction_on generalizing text with
  | _ length shorter =>
    subst length
    cases text with
    | nil => exact nil
    | cons c rest =>
      by_cases backslash : c = '\\'
      · subst backslash
        cases rest with
        | nil => exact last
        | cons letter rest =>
          rcases Escape.read_eq letter rest with ⟨digits, later, value, rfl, known, number, _⟩ | alone
          · exact code letter digits later value known number
              (shorter later.length (by simp only [List.length_cons, List.length_append]; omega) later rfl)
          · exact single letter rest alone
              (shorter rest.length (by simp only [List.length_cons]; omega) rest rfl)
      · exact char c rest backslash (shorter rest.length (by simp) rest rfl)

/-! ### The numbers of a text and of its parts -/

theorem codes_cons {c : Char} (plain : c ≠ '\\') (rest : List Char) : codes (c :: rest) = codes rest := by
  rw [codes]
  rintro letter later same
  exact absurd same plain

/-- Characters that are no backslashes name nothing. -/
theorem codes_append {front : List Char} (plain : '\\' ∉ front) (rest : List Char) :
    codes (front ++ rest) = codes rest := by
  induction front with
  | nil => rfl
  | cons c later found =>
    obtain ⟨other, others⟩ := List.ne_and_not_mem_of_not_mem_cons plain
    rw [List.cons_append, codes_cons other.symm, found others]

theorem codes_eq_nil {text : List Char} (plain : '\\' ∉ text) : codes text = [] := by
  have whole := codes_append plain []
  rwa [List.append_nil] at whole

/-- What an escape names it names whatever follows. -/
theorem Escape.codes_read_subset (letter : Char) (front rest : List Char) :
    (Escape.read letter front).1.codes ⊆ (Escape.read letter (front ++ rest)).1.codes := by
  rcases Escape.read_eq letter front with ⟨digits, later, value, rfl, known, number, reads⟩ | alone
  · rw [reads, List.append_assoc, Escape.read_append known number]
    exact List.Subset.refl _
  · rw [alone]
    exact List.nil_subset _

/-- What an escape names it names without what follows it, where no digits follow. -/
theorem Escape.codes_read_append_subset {rest : List Char}
    (plain : ∀ c ∈ rest, Number.isHexDigit c = false) (letter : Char) (front : List Char) :
    (Escape.read letter (front ++ rest)).1.codes ⊆ (Escape.read letter front).1.codes := by
  rcases Escape.read_eq letter (front ++ rest) with ⟨digits, later, value, whole, known, number, reads⟩ | alone
  · have apart : ∀ c ∈ digits, c ∉ rest := fun c digit member =>
      Bool.false_ne_true ((plain c member).symm.trans
        (Number.isHexDigit_of_readHexAfter? number c digit))
    obtain ⟨between, rfl, _⟩ := exists_of_append_eq_append apart whole
    rw [reads, Escape.read_append known number]
    exact List.Subset.refl _
  · rw [alone]
    exact List.nil_subset _

/-- **What the start of a text names the text names.** -/
theorem codes_subset_append (front rest : List Char) : codes front ⊆ codes (front ++ rest) := by
  induction front using pair_induction with
  | nil | last => exact List.nil_subset _
  | char c later plain found => rwa [List.cons_append, codes_cons plain, codes_cons plain]
  | pair letter later found =>
    rw [List.cons_append, List.cons_append, codes, codes]
    exact List.append_subset.mpr
      ⟨List.subset_append_of_subset_left _ (Escape.codes_read_subset letter later rest),
        List.subset_append_of_subset_right _ found⟩

theorem codes_subset_of_start {front text : List Char} (start : front <+: text) :
    codes front ⊆ codes text := by
  obtain ⟨rest, rfl⟩ := start
  exact codes_subset_append front rest

/-- **Behind a text nothing more is named** where neither backslashes nor digits follow. -/
theorem codes_append_subset {rest : List Char}
    (plain : ∀ c ∈ rest, Number.isHexDigit c = false ∧ c ≠ '\\') (front : List Char) :
    codes (front ++ rest) ⊆ codes front := by
  have noBackslash : ∀ text, text ⊆ rest → codes text = [] := fun text part =>
    codes_eq_nil fun member => (plain _ (part member)).2 rfl
  induction front using pair_induction with
  | nil => rw [List.nil_append, noBackslash rest (List.Subset.refl _)]; exact List.nil_subset _
  | char c later other found => rwa [List.cons_append, codes_cons other, codes_cons other]
  | last =>
    cases rest with
    | nil => exact List.Subset.refl _
    | cons letter more =>
      have named := @Escape.codes_read_append_subset more
        (fun c member => (plain c (List.mem_cons_of_mem _ member)).1) letter []
      have nothing : Escape.read letter [] = (.single letter, 0) := by
        simp [Escape.read, Escape.readCode, Number.readHex?, Number.readHexAfter?]
      rw [nothing] at named
      rw [List.singleton_append, codes, noBackslash more (List.subset_cons_self _ _), List.append_nil]
      exact named
  | pair letter later found =>
    rw [List.cons_append, List.cons_append, codes, codes]
    exact List.append_subset.mpr
      ⟨List.subset_append_of_subset_left _
          (Escape.codes_read_append_subset (fun c member => (plain c member).1) letter later),
        List.subset_append_of_subset_right _ found⟩

/-! ### Tokens keep backslashes with their characters -/

/-- Every backslash of a text has a character behind it. -/
inductive IsPaired : List Char → Prop where
  | nil : IsPaired []
  | char {c : Char} {rest : List Char} : c ≠ '\\' → IsPaired rest → IsPaired (c :: rest)
  | pair (letter : Char) {rest : List Char} : IsPaired rest → IsPaired ('\\' :: letter :: rest)

namespace IsPaired

theorem of_notMem {text : List Char} (plain : '\\' ∉ text) : IsPaired text := by
  induction text with
  | nil => exact .nil
  | cons c rest found =>
    obtain ⟨other, others⟩ := List.ne_and_not_mem_of_not_mem_cons plain
    exact .char other.symm (found others)

theorem append {first second : List Char} (before : IsPaired first) (behind : IsPaired second) :
    IsPaired (first ++ second) := by
  induction before with
  | nil => exact behind
  | char plain _ found => exact .char plain found
  | pair letter _ found => exact .pair letter found

/-- **What stands behind such a text is named by the whole.** -/
theorem codes_subset {front : List Char} (paired : IsPaired front) (rest : List Char) :
    codes rest ⊆ codes (front ++ rest) := by
  induction paired with
  | nil => exact List.Subset.refl _
  | char plain _ found => rwa [List.cons_append, codes_cons plain]
  | pair letter _ found =>
    rw [List.cons_append, List.cons_append, codes]
    exact List.subset_append_of_subset_right _ found

end IsPaired

/-- A text whose last backslash has no character is such a text before that backslash. -/
theorem isPaired_or_last (text : List Char) :
    IsPaired text ∨ ∃ front, IsPaired front ∧ text = front ++ ['\\'] := by
  induction text using pair_induction with
  | nil => exact .inl .nil
  | last => exact .inr ⟨[], .nil, rfl⟩
  | char c rest plain found =>
    rcases found with paired | ⟨front, paired, rfl⟩
    · exact .inl (.char plain paired)
    · exact .inr ⟨c :: front, .char plain paired, rfl⟩
  | pair letter rest found =>
    rcases found with paired | ⟨front, paired, rfl⟩
    · exact .inl (.pair letter paired)
    · exact .inr ⟨'\\' :: letter :: front, .pair letter paired, rfl⟩

theorem IsRawIri.isPaired {raw : List Char} (isRaw : IsRawIri raw) : IsPaired raw := by
  induction isRaw with
  | nil => exact .nil
  | char c rest safe _ found => exact .char (ne_of_isIriChar safe).2 found
  | escape letter digits rest known hex _ found =>
    have plain : '\\' ∉ digits := fun member => absurd (hex '\\' member) (by decide)
    exact .pair letter ((IsPaired.of_notMem plain).append found)

/-- What is searched up to its end keeps its backslashes with their characters, if the search passes
over the character behind each of them. -/
theorem isPaired_of_extent {extent : Nat → List Char → Option Nat}
    (nothing : ∀ skipped, extent skipped [] = none)
    (skips : ∀ skipped c rest, extent (skipped + 1) (c :: rest) = (extent skipped rest).map (· + 1))
    (backslash : ∀ rest, extent 0 ('\\' :: rest) = (extent 1 rest).map (· + 1))
    (others : ∀ c rest, c ≠ '\\' → extent 0 (c :: rest) = some (c :: rest).length →
      '\\' ∉ rest ∨ extent 0 rest = some rest.length)
    {skipped : Nat} {body : List Char} (within : skipped ≤ 1)
    (closes : extent skipped body = some body.length) : IsPaired (body.drop skipped) := by
  have before : ∀ {skipped : Nat} {c : Char} {rest : List Char},
      (extent skipped rest).map (· + 1) = some (c :: rest).length →
        extent skipped rest = some rest.length := by
    intro skipped c rest ends
    obtain ⟨count, there, same⟩ := Option.map_eq_some_iff.mp ends
    rw [there, Nat.succ.inj same]
  induction body generalizing skipped with
  | nil => cases (nothing skipped).symm.trans closes
  | cons c rest found =>
    cases skipped with
    | succ skipped =>
      rw [skips] at closes
      exact found (Nat.le_of_succ_le within) (before closes)
    | zero =>
      by_cases escapes : c = '\\'
      · subst escapes
        rw [backslash] at closes
        have behind := found (Nat.le_refl 1) (before closes)
        cases rest with
        | nil => cases (nothing 1).symm.trans (before closes)
        | cons letter later => exact .pair letter behind
      · rcases others c rest escapes closes with plain | ends
        · exact .char escapes (.of_notMem plain)
        · exact .char escapes (found (Nat.zero_le 1) ends)

theorem isPaired_of_shortExtent? {quote : Char} {body : List Char}
    (closes : shortExtent? quote 0 body = some body.length) : IsPaired body := by
  refine @isPaired_of_extent (shortExtent? quote) (fun _ => by rw [shortExtent?])
    (fun _ _ _ => rfl) (fun _ => if_pos rfl) (fun c rest other ends => ?_) 0 body (Nat.zero_le 1) closes
  rw [shortExtent?, if_neg other] at ends
  split at ends
  · have length := Nat.succ.inj (Option.some.inj ends)
    exact .inl (by rw [List.length_eq_zero_iff.mp length.symm]; exact List.not_mem_nil)
  split at ends
  · cases ends
  · obtain ⟨count, there, same⟩ := Option.map_eq_some_iff.mp ends
    exact .inr (by rw [there, Nat.succ.inj same])

theorem isPaired_of_longExtent? {quote : Char} {body : List Char} (plain : quote ≠ '\\')
    (closes : longExtent? quote 0 body = some body.length) : IsPaired body := by
  refine @isPaired_of_extent (longExtent? quote) (fun _ => by rw [longExtent?])
    (fun _ _ _ => rfl) (fun _ => if_pos rfl) (fun c rest other ends => ?_) 0 body (Nat.zero_le 1) closes
  rw [longExtent?, if_neg other] at ends
  split at ends
  · rename_i two
    have length : rest.length = 2 := (Nat.succ.inj (Option.some.inj ends)).symm
    have whole := two.2
    rw [List.take_of_length_le (Nat.le_of_eq length)] at whole
    exact .inl (by rw [whole]; simp [plain.symm])
  · obtain ⟨count, there, same⟩ := Option.map_eq_some_iff.mp ends
    exact .inr (by rw [there, Nat.succ.inj same])

/-- **A token keeps its backslashes with their characters.** -/
theorem IsLexeme.isPaired {kind : TokenKind} {lexeme rest : List Char}
    (isLexeme : IsLexeme kind lexeme rest) : IsPaired lexeme := by
  cases isString : kind.isString with
  | true =>
    have plain : ∀ {quote : Char}, quote = '\x22' ∨ quote = '\x27' → quote ≠ '\\' := by
      rintro quote (rfl | rfl) <;> decide
    have alone := isLexeme.alone isString
    cases kind <;> try cases isString
    · obtain ⟨quote, body, isQuote, rfl, closes⟩ := isLexeme_longString_iff.mp alone
      have other := plain isQuote
      exact .char other (.char other (.char other (isPaired_of_longExtent? other closes)))
    · obtain ⟨quote, body, isQuote, rfl, closes⟩ := isLexeme_string_iff.mp alone
      exact .char (plain isQuote) (isPaired_of_shortExtent? closes)
  | false =>
    rcases isLexeme.cases_of_noString isString with ⟨_, raw, isRaw, rfl⟩ | shape
    · exact .char (by decide) (isRaw.isPaired.append (.of_notMem (by decide)))
    · exact .of_notMem fun member => absurd (shape _ member) (by decide)

/-! ### Resolving escapes -/

/-- A backslash with a character alone. -/
theorem unescapeFrom_single (unknown : UnknownEscapes) {letter : Char} {rest : List Char}
    (alone : Escape.read letter rest = (.single letter, 0)) :
    unescapeFrom unknown 0 ('\\' :: letter :: rest) =
      ((Escape.single letter).resolve unknown).bind fun text =>
        (unescapeFrom unknown 0 rest).map (text ++ ·) := by
  rw [unescapeFrom, alone]

/-- **A number beyond all characters is one that the text names.** -/
theorem mem_codes_of_unescape {unknown : UnknownEscapes} {text : List Char} {code : Nat}
    (fails : unescape unknown text = .error (.beyondUnicode code)) :
    code ∈ codes text ∧ Unicode.codeBound ≤ code := by
  unfold unescape at fails
  induction text using escape_induction with
  | nil | last => cases fails
  | char c rest plain found =>
    rw [unescapeFrom_cons unknown plain] at fails
    rw [codes_cons plain]
    exact found (eq_error_of_map fails)
  | code letter digits rest value known number found =>
    rw [unescapeFrom_escape unknown known number] at fails
    rw [codes, Escape.read_append known number, codes_append (backslash_notMem_of_readHex? number)]
    rcases eq_error_of_bind fails with here | ⟨written, _, later⟩
    · rw [Escape.resolve] at here
      split at here
      · cases here
      · rename_i beyond
        cases here
        exact ⟨List.mem_append_left _ List.mem_cons_self, Nat.le_of_not_lt beyond⟩
    · exact (found (eq_error_of_map later)).imp_left (List.mem_append_right _)
  | single letter rest alone found =>
    rw [unescapeFrom_single unknown alone] at fails
    rw [codes, alone]
    rcases eq_error_of_bind fails with here | ⟨written, _, later⟩
    · cases known : Escape.charOfLetter? letter <;> cases unknown <;>
        simp [Escape.resolve, known] at here
    · exact (found (eq_error_of_map later)).imp_left (List.mem_append_right _)

/-- What a text stands for where the escapes that are not known are kept: each number for its character,
the letters of escapes for theirs, and everything else for itself. -/
inductive StandsFor : List Char → List Char → Prop where
  | nil : StandsFor [] []
  | char {c : Char} {rest value : List Char} : c ≠ '\\' → StandsFor rest value →
      StandsFor (c :: rest) (c :: value)
  | code {letter : Char} {digits rest value : List Char} {code : Nat} :
      (letter, digits.length) ∈ escapeLetters → Number.readHex? digits.length digits = some code →
      code < Unicode.codeBound → StandsFor rest value →
      StandsFor ('\\' :: letter :: (digits ++ rest)) (Unicode.charOf code :: value)
  | letter {letter c : Char} {rest value : List Char} : Escape.charOfLetter? letter = some c →
      StandsFor rest value → StandsFor ('\\' :: letter :: rest) (c :: value)
  | unknown {letter : Char} {rest value : List Char} : Escape.charOfLetter? letter = none →
      (∀ count, (letter, count) ∈ escapeLetters → Number.readHex? count rest = none) →
      StandsFor rest value → StandsFor ('\\' :: letter :: rest) ('\\' :: letter :: value)
  | last : StandsFor ['\\'] ['\\']

/-- A letter alone has no digits behind it. -/
theorem readHex?_eq_none_of_read {letter : Char} {rest : List Char}
    (alone : Escape.read letter rest = (.single letter, 0)) :
    ∀ count, (letter, count) ∈ escapeLetters → Number.readHex? count rest = none := by
  intro count known
  cases reads : Number.readHex? count rest with
  | none => rfl
  | some value =>
    obtain ⟨digits, later, rfl, rfl, _⟩ := Number.exists_of_readHex? reads
    rw [Number.readHex?_append] at reads
    rw [Escape.read_append known reads] at alone
    cases alone

/-- **A text whose numbers are those of characters stands for something.** -/
theorem exists_standsFor {text : List Char} (within : ∀ code ∈ codes text, code < Unicode.codeBound) :
    ∃ value, StandsFor text value := by
  induction text using escape_induction with
  | nil => exact ⟨[], .nil⟩
  | last => exact ⟨['\\'], .last⟩
  | char c rest plain found =>
    rw [codes_cons plain] at within
    obtain ⟨value, stands⟩ := found within
    exact ⟨c :: value, .char plain stands⟩
  | code letter digits rest number known reads found =>
    rw [codes, Escape.read_append known reads, codes_append (backslash_notMem_of_readHex? reads)] at within
    obtain ⟨here, later⟩ := List.forall_mem_append.mp within
    obtain ⟨value, stands⟩ := found later
    exact ⟨_, .code known reads (here number List.mem_cons_self) stands⟩
  | single letter rest alone found =>
    rw [codes, alone] at within
    obtain ⟨value, stands⟩ := found (List.forall_mem_append.mp within).2
    cases known : Escape.charOfLetter? letter with
    | some c => exact ⟨c :: value, .letter known stands⟩
    | none => exact ⟨_, .unknown known (readHex?_eq_none_of_read alone) stands⟩

/-- **A text is read as what it stands for.** -/
theorem StandsFor.unescape_eq {text value : List Char} (stands : StandsFor text value) :
    unescape .kept text = .ok value := by
  unfold unescape
  induction stands with
  | nil | last => rfl
  | char plain _ found =>
    rw [unescapeFrom_cons .kept plain, found]
    rfl
  | code known number within _ found =>
    rw [unescapeFrom_escape .kept known number, Escape.resolve, if_pos within, found]
    rfl
  | letter known _ found =>
    rw [unescapeFrom_letter .kept known, found]
    rfl
  | @unknown letter rest value unlike noDigits _ found =>
    have alone : Escape.read letter rest = (.single letter, 0) := by
      rcases Escape.read_eq letter rest with ⟨digits, later, number, rfl, known, reads, _⟩ | alone
      · have none := noDigits digits.length known
        rw [Number.readHex?_append, reads] at none
        cases none
      · exact alone
    have kept : (Escape.single letter).resolve .kept = .ok ['\\', letter] := by
      simp only [Escape.resolve, unlike]
    rw [unescapeFrom_single .kept alone, kept, found]
    rfl

/-! ### Reading a document -/

namespace Reading

variable {reading : Reading} {token : Token} {cause : Error}

/-- A cause lies in the grammar, or in the escapes of a token. -/
def Blames (token : Token) (cause : Error) : Prop :=
  cause.isGrammar = true ∨ token.kind = .iri ∧ iriValue token = .error cause ∨
    token.kind.isString = true ∧ stringValue token.kind.quoteCount token = .error cause

theorem blames_refuse (token : Token) (expected : Part) : Blames token (refuse token expected) := by
  unfold refuse
  split <;> exact .inl rfl

theorem blames_resource {namespaces : Namespaces} {expected : Part}
    (fails : resource namespaces expected token = .error cause) : Blames token cause := by
  unfold resource at fails
  split at fails
  · rename_i isIri
    exact .inr (.inl ⟨isIri, fails⟩)
  · unfold expand at fails
    dsimp only at fails
    split at fails <;> cases fails
    exact .inl rfl
  · cases fails
    exact blames_refuse token expected

theorem blames_takePoint (fails : reading.takePoint token = .error cause) : Blames token cause := by
  unfold takePoint at fails
  split at fails <;> cases fails
  exact blames_refuse token .point

theorem blames_takePredicate {subject : String}
    (fails : reading.takePredicate subject token = .error cause) : Blames token cause := by
  unfold takePredicate at fails
  split at fails
  · cases fails
  · exact blames_resource (eq_error_of_map fails)

theorem blames_takeObject {subject predicate : String}
    (fails : reading.takeObject subject predicate token = .error cause) : Blames token cause := by
  unfold takeObject at fails
  split at fails
  · rename_i isString
    refine .inr (.inr ⟨by rw [isString]; rfl, ?_⟩)
    rw [isString]
    exact eq_error_of_map fails
  · rename_i isString
    refine .inr (.inr ⟨by rw [isString]; rfl, ?_⟩)
    rw [isString]
    exact eq_error_of_map fails
  · cases fails
  · split at fails <;> cases fails
    exact blames_refuse token .object
  · exact blames_resource (eq_error_of_map fails)

theorem blames_takeSeparator {subject predicate : String}
    (fails : reading.takeSeparator subject predicate token = .error cause) : Blames token cause := by
  unfold takeSeparator at fails
  split at fails
  · cases fails
  split at fails
  · cases fails
  · exact blames_takePoint fails

theorem blames_takeSuffix {subject predicate text : String}
    (fails : reading.takeSuffix subject predicate text token = .error cause) : Blames token cause := by
  unfold takeSuffix at fails
  split at fails
  · cases fails
  split at fails
  · cases fails
  · exact blames_takeSeparator fails

theorem blames_takeContinuation {subject : String}
    (fails : reading.takeContinuation subject token = .error cause) : Blames token cause := by
  unfold takeContinuation at fails
  split at fails
  · cases fails
  split at fails
  · exact blames_takePoint fails
  · exact blames_takePredicate fails

theorem blames_beginSentence (fails : reading.beginSentence token = .error cause) :
    Blames token cause := by
  unfold beginSentence at fails
  dsimp only at fails
  split at fails
  · split at fails <;> cases fails
    exact .inl rfl
  split at fails
  · cases fails
    exact .inl rfl
  split at fails
  · cases fails
  · exact blames_resource (eq_error_of_map fails)

theorem blames_takeNamespaceName {pointed : Bool}
    (fails : reading.takeNamespaceName pointed token = .error cause) : Blames token cause := by
  unfold takeNamespaceName at fails
  dsimp only at fails
  split at fails <;> cases fails
  exact blames_refuse token .namespaceName

theorem blames_takeNamespaceIri {pointed : Bool} {name : List Char}
    (fails : reading.takeNamespaceIri pointed name token = .error cause) : Blames token cause := by
  unfold takeNamespaceIri at fails
  split at fails
  · rename_i isIri
    exact .inr (.inl ⟨isIri, eq_error_of_map fails⟩)
  · cases fails
    exact blames_refuse token .namespaceIri

/-- **A step fails over the grammar or over the escapes of its token.** -/
theorem blames_step (fails : reading.step token = .error cause) : Blames token cause := by
  unfold step at fails
  split at fails
  · exact blames_beginSentence fails
  · exact blames_takeNamespaceName fails
  · exact blames_takeNamespaceIri fails
  · exact blames_takePoint fails
  · exact blames_takePredicate fails
  · exact blames_takeObject fails
  · exact blames_takeSuffix fails
  · exact blames_resource (eq_error_of_map fails)
  · exact blames_takeSeparator fails
  · exact blames_takeContinuation fails

end Reading

/-- **A number that ends a step is one that the token names.** -/
theorem mem_codes_of_step {kind : TokenKind} {lexeme rest : List Char} {line code : Nat}
    (isLexeme : IsLexeme kind lexeme rest) {reading : Reading}
    (fails : reading.step ⟨kind, lexeme, line⟩ = .error (.beyondUnicode code)) :
    code ∈ codes lexeme ∧ Unicode.codeBound ≤ code := by
  rcases Reading.blames_step fails with grammar | ⟨_, names⟩ | ⟨isString, reads⟩
  · cases grammar
  · obtain ⟨named, beyond⟩ := mem_codes_of_unescape (eq_error_of_map names)
    obtain ⟨c, body, rfl, reach⟩ := isLexeme
    have plain : c ≠ '\\' := by
      rintro rfl
      cases reach
    rw [codes_cons plain]
    exact ⟨codes_subset_of_start body.dropLast_prefix named, beyond⟩
  · obtain ⟨quote, inner, isQuote, rfl⟩ := exists_eq_of_isLexeme (isLexeme.alone isString) isString
    obtain ⟨named, beyond⟩ := mem_codes_of_unescape (eq_error_of_map reads)
    have plain : '\\' ∉ List.replicate kind.quoteCount quote := by
      intro member
      have same := List.eq_of_mem_replicate member
      rcases isQuote with rfl | rfl <;> cases same
    rw [codes_append plain]
    rw [List.drop_left' List.length_replicate] at named
    exact ⟨codes_subset_of_start (List.take_prefix _ _) named, beyond⟩

/-- What follows a comment is named by the whole. -/
theorem codes_subset_comment {body rest : List Char}
    (ends : ∀ c ∈ rest.head?, continuesComment c = false) : codes rest ⊆ codes (body ++ rest) := by
  rcases isPaired_or_last body with paired | ⟨front, paired, rfl⟩
  · exact paired.codes_subset rest
  -- The last backslash takes the line break that ends the comment.
  · rw [List.append_assoc]
    refine List.Subset.trans ?_ (paired.codes_subset _)
    cases rest with
    | nil => exact List.nil_subset _
    | cons c later =>
      have other : c ≠ '\\' := by
        rintro rfl
        exact absurd (ends '\\' rfl) (by decide)
      rw [List.singleton_append, codes_cons other, codes]
      exact List.subset_append_right _ _

/-- **A number that ends a run over the tokens of a text is one that the text names.** -/
theorem mem_codes_of_lexes {text : List Char} {found : List (TokenKind × List Char)}
    (lexes : Lexes text found) {tokens : List Token}
    (same : tokens.map (fun token => (token.kind, token.text)) = found) {reading : Reading} {code : Nat}
    (fails : tokens.foldlM Reading.step reading = .error (.beyondUnicode code)) :
    code ∈ codes text ∧ Unicode.codeBound ≤ code := by
  induction lexes generalizing tokens reading with
  | nil =>
    rw [List.map_eq_nil_iff.mp same] at fails
    cases fails
  | @blank c rest found isBlank later inside =>
    rw [codes_cons (Unicode.ne_of_isBlank isBlank '\\' (by decide))]
    exact inside same fails
  | comment sameLine ends later inside =>
    rw [codes_cons (by decide)]
    exact (inside same fails).imp_left (codes_subset_comment ends ·)
  | @token kind lexeme rest found isLexeme later inside =>
    obtain ⟨⟨kind', lexeme', line⟩, others, rfl, first, behind⟩ := List.map_eq_cons_iff.mp same
    cases first
    rw [List.foldlM_cons] at fails
    rcases eq_error_of_bind fails with here | ⟨next, _, run⟩
    · exact (mem_codes_of_step isLexeme here).imp_left (codes_subset_append _ rest ·)
    · exact (inside behind run).imp_left (isLexeme.isPaired.codes_subset rest ·)

/-- **A number that ends the reading of a document is one that it names.** -/
theorem mem_codes_of_parse {known : Namespaces} {text : String} {code : Nat}
    (fails : parse known text = .error (.beyondUnicode code)) :
    code ∈ codes text.toList ∧ Unicode.codeBound ≤ code := by
  have reads := eq_error_of_map fails
  rcases eq_error_of_bind reads with noTokens | ⟨found, lexed, run⟩
  · cases isGrammar_of_tokensFrom noTokens
  rcases eq_error_of_bind run with step | ⟨last, _, ends⟩
  · exact mem_codes_of_lexes (lexes_of_tokensFrom lexed) rfl step
  · unfold Reading.finish at ends
    split at ends <;> cases ends

end HistoricalFigures.Turtle
