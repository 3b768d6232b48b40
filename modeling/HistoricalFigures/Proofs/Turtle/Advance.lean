import HistoricalFigures.Proofs.Outcome
import HistoricalFigures.Turtle.Reading

/-!
**A token of a statement is taken in the same way wherever it stands.** Neither its line nor what has
been read before count, and only a point ends a statement.

* `Expecting.IsStatement`: a place at which no declaration is under way.
* `BeginsDeclaration`: the tokens that begin a declaration.
* `Advances`: a step that takes a token in the same way wherever it stands.
* `advances_step`: each step within statements does.
-/
namespace HistoricalFigures.Turtle

open Rdf (Namespaces Statement)

/-- No declaration is under way. -/
def Expecting.IsStatement : Expecting → Prop
  | .namespaceName _ | .namespaceIri _ _ | .declarationEnd => False
  | _ => True

/-- A token begins a declaration. -/
def BeginsDeclaration (kind : TokenKind) (text : List Char) : Prop :=
  kind = .directive ∨ kind = .word ∧ String.ofList (Unicode.uppercase text) = "PREFIX"

/-- A token is a point. -/
def IsPoint (kind : TokenKind) (text : List Char) : Prop := kind = .punctuation ∧ text = ['.']

namespace Reading

/-- A step that takes a token adds the same statements and leads to the same place wherever the token
stands, which is the start of a sentence just behind a point. -/
def Advances (known : Namespaces) (kind : TokenKind) (text : List Char)
    (take : Reading → Token → Except Error Reading) : Prop :=
  ∀ done expecting line next, take ⟨known, done, expecting⟩ ⟨kind, text, line⟩ = .ok next →
    ∃ added after, after.IsStatement ∧ (after = .sentence ↔ IsPoint kind text) ∧
      ∀ other expecting line, take ⟨known, other, expecting⟩ ⟨kind, text, line⟩ =
        .ok ⟨known, added ++ other, after⟩

section Steps

variable {known : Namespaces} {kind : TokenKind} {text : List Char}
  {take take' : Reading → Token → Except Error Reading}

/-! ### What steps consist of -/

/-- A step that is the same for a token. -/
theorem Advances.congr (advances : Advances known kind text take)
    (same : ∀ done expecting line, take' ⟨known, done, expecting⟩ ⟨kind, text, line⟩ =
      take ⟨known, done, expecting⟩ ⟨kind, text, line⟩) : Advances known kind text take' := by
  intro done expecting line next took
  rw [same] at took
  obtain ⟨added, after, isStatement, ends, takes⟩ := advances done expecting line next took
  exact ⟨added, after, isStatement, ends, fun other expecting line =>
    (same other expecting line).trans (takes other expecting line)⟩

/-- A step that refuses a token. -/
theorem advances_of_error (refuses : ∀ done expecting line, ∃ cause,
    take ⟨known, done, expecting⟩ ⟨kind, text, line⟩ = .error cause) :
    Advances known kind text take := by
  intro done expecting line next took
  obtain ⟨cause, refused⟩ := refuses done expecting line
  cases refused.symm.trans took

/-- A step that always goes on in one way. -/
theorem advances_of_ok (added : List Statement) (after : Expecting)
    (isStatement : after.IsStatement) (ends : after = .sentence ↔ IsPoint kind text)
    (takes : ∀ other expecting line, take ⟨known, other, expecting⟩ ⟨kind, text, line⟩ =
      .ok ⟨known, added ++ other, after⟩) : Advances known kind text take :=
  fun _ _ _ _ _ => ⟨added, after, isStatement, ends, takes⟩

/-- Only what names a resource stands for one, and on every line for the same. -/
theorem resource_cases {part : Part} {line : Nat} {value : String}
    (names : resource known part ⟨kind, text, line⟩ = .ok value) :
    ¬ IsPoint kind text ∧ ∀ line, resource known part ⟨kind, text, line⟩ = .ok value := by
  unfold resource at names ⊢
  cases kind <;> try cases names
  · exact ⟨fun point => (nomatch point.1), fun _ => names⟩
  · refine ⟨fun point => (nomatch point.1), fun line' => ?_⟩
    unfold expand at names ⊢
    dsimp only at names ⊢
    split at names
    · exact names
    · cases names

/-- A step that takes a resource. -/
theorem advances_resource (part : Part) (added : String → List Statement)
    (after : String → Expecting) (isStatement : ∀ value, (after value).IsStatement)
    (goesOn : ∀ value, after value ≠ .sentence) :
    Advances known kind text fun reading token => (resource reading.namespaces part token).map
      fun value => ⟨reading.namespaces, added value ++ reading.statements, after value⟩ := by
  intro done expecting line next took
  obtain ⟨value, names, _⟩ := eq_ok_of_map took
  obtain ⟨noPoint, names⟩ := resource_cases names
  refine ⟨added value, after value, isStatement value, iff_of_false (goesOn value) noPoint,
    fun other expecting line => ?_⟩
  show (resource known part _).map _ = _
  rw [names line]
  rfl

/-- A step behind a complete object. -/
theorem Advances.complete (advances : Advances known kind text take) (subject predicate : String)
    (object : Rdf.Term) :
    Advances known kind text fun reading => take (reading.complete subject predicate object) := by
  intro done expecting line next took
  obtain ⟨added, after, isStatement, ends, takes⟩ :=
    advances (⟨subject, predicate, object⟩ :: done) (.separator subject predicate) line next took
  refine ⟨added ++ [⟨subject, predicate, object⟩], after, isStatement, ends,
    fun other expecting line => ?_⟩
  rw [List.append_assoc]
  exact takes (⟨subject, predicate, object⟩ :: other) (.separator subject predicate) line

/-! ### The steps within statements -/

theorem isMark_iff {mark : Char} {line : Nat} :
    isMark ⟨kind, text, line⟩ mark = true ↔ kind = .punctuation ∧ text = [mark] := by
  simp [isMark]

theorem advances_takePoint : Advances known kind text takePoint := by
  by_cases point : IsPoint kind text
  · exact advances_of_ok [] .sentence trivial (iff_of_true rfl point) fun other expecting line =>
      if_pos (isMark_iff.mpr point)
  · exact advances_of_error fun done expecting line =>
      ⟨_, if_neg fun mark => point (isMark_iff.mp mark)⟩

theorem advances_takePredicate (subject : String) :
    Advances known kind text fun reading => reading.takePredicate subject := by
  by_cases isType : kind = .word ∧ text = ['a']
  · refine advances_of_ok [] (.object subject Rdf.typePredicate) trivial
      (iff_of_false nofun fun point => ?_) fun other expecting line => if_pos isType
    cases isType.1.symm.trans point.1
  · exact (advances_resource .predicate (fun _ => []) (.object subject) (fun _ => trivial)
      fun _ => nofun).congr fun done expecting line => if_neg isType

theorem advances_takeString (subject predicate : String) (quoteCount : Nat)
    (noPoint : ¬ IsPoint kind text) :
    Advances known kind text fun reading => reading.takeString subject predicate quoteCount := by
  cases reads : stringValue quoteCount ⟨kind, text, 0⟩ with
  | error cause =>
    exact advances_of_error fun done expecting line => ⟨cause, congrArg (Except.map _) reads⟩
  | ok value =>
    exact advances_of_ok [] (.suffix subject predicate value) trivial
      (iff_of_false nofun noPoint) fun other expecting line => congrArg (Except.map _) reads

theorem advances_takeObject (subject predicate : String) :
    Advances known kind text fun reading => reading.takeObject subject predicate := by
  have named : Advances known kind text fun reading token =>
      (resource reading.namespaces .object token).map fun value =>
        reading.complete subject predicate (.uri value) :=
    advances_resource .object (fun value => [⟨subject, predicate, .uri value⟩])
      (fun _ => .separator subject predicate) (fun _ => trivial) fun _ => nofun
  cases kind with
  | string => exact advances_takeString subject predicate 1 nofun
  | longString => exact advances_takeString subject predicate 3 nofun
  | number =>
    exact advances_of_ok [⟨subject, predicate, .typed (String.ofList text) (numberDatatype text)⟩]
      (.separator subject predicate) trivial (iff_of_false nofun nofun) fun _ _ _ => rfl
  | word =>
    by_cases isTruth : text ∈ truthWords
    · exact advances_of_ok [⟨subject, predicate, .typed (String.ofList text) Rdf.booleanDatatype⟩]
        (.separator subject predicate) trivial (iff_of_false nofun nofun)
        fun other expecting line => if_pos isTruth
    · exact advances_of_error fun done expecting line => ⟨_, if_neg isTruth⟩
  | _ => exact named

theorem not_isPoint_of_mark {mark : Char} (isMark : kind = .punctuation ∧ text = [mark])
    (unlike : mark ≠ '.') : ¬ IsPoint kind text :=
  fun point => unlike (List.cons.inj (isMark.2.symm.trans point.2)).1

theorem advances_takeSeparator (subject predicate : String) :
    Advances known kind text fun reading => reading.takeSeparator subject predicate := by
  by_cases comma : kind = .punctuation ∧ text = [',']
  · exact advances_of_ok [] (.object subject predicate) trivial
      (iff_of_false nofun (not_isPoint_of_mark comma (by decide))) fun other expecting line =>
        if_pos (isMark_iff.mpr comma)
  · have noComma : ∀ line, ¬ isMark ⟨kind, text, line⟩ ',' = true := fun line mark =>
      comma (isMark_iff.mp mark)
    by_cases semicolon : kind = .punctuation ∧ text = [';']
    · exact advances_of_ok [] (.continuation subject) trivial
        (iff_of_false nofun (not_isPoint_of_mark semicolon (by decide))) fun other expecting line =>
          (if_neg (noComma line)).trans (if_pos (isMark_iff.mpr semicolon))
    · exact advances_takePoint.congr fun done expecting line =>
        (if_neg (noComma line)).trans (if_neg fun mark => semicolon (isMark_iff.mp mark))

theorem advances_takeSuffix (subject predicate value : String) :
    Advances known kind text fun reading => reading.takeSuffix subject predicate value := by
  by_cases isLanguage : kind = .language
  · refine advances_of_ok [⟨subject, predicate,
        .tagged value (String.ofList ((text.drop 1).map Char.toLower))⟩]
      (.separator subject predicate) trivial (iff_of_false nofun fun point => ?_)
      fun other expecting line => if_pos isLanguage
    cases isLanguage.symm.trans point.1
  · by_cases isMark : kind = .datatypeMark
    · refine advances_of_ok [] (.datatype subject predicate value) trivial
        (iff_of_false nofun fun point => ?_) fun other expecting line =>
          (if_neg isLanguage).trans (if_pos isMark)
      cases isMark.symm.trans point.1
    · exact ((advances_takeSeparator subject predicate).complete subject predicate
        (.plain value)).congr fun done expecting line => (if_neg isLanguage).trans (if_neg isMark)

theorem advances_takeContinuation (subject : String) :
    Advances known kind text fun reading token =>
      takeContinuation { reading with expecting := .continuation subject } subject token := by
  by_cases semicolon : kind = .punctuation ∧ text = [';']
  · exact advances_of_ok [] (.continuation subject) trivial
      (iff_of_false nofun (not_isPoint_of_mark semicolon (by decide))) fun other expecting line =>
        if_pos (isMark_iff.mpr semicolon)
  · have noSemicolon : ∀ line, ¬ isMark ⟨kind, text, line⟩ ';' = true := fun line mark =>
      semicolon (isMark_iff.mp mark)
    by_cases point : IsPoint kind text
    · exact advances_takePoint.congr fun done expecting line =>
        (if_neg (noSemicolon line)).trans (if_pos (isMark_iff.mpr point))
    · exact (advances_takePredicate subject).congr fun done expecting line =>
        (if_neg (noSemicolon line)).trans (if_neg fun mark => point (isMark_iff.mp mark))

theorem advances_beginSentence (noDeclaration : ¬ BeginsDeclaration kind text) :
    Advances known kind text beginSentence := by
  obtain ⟨noDirective, noPrefix⟩ := not_or.mp noDeclaration
  by_cases base : kind = .word ∧ String.ofList (Unicode.uppercase text) = "BASE"
  · exact advances_of_error fun done expecting line =>
      ⟨_, (if_neg noDirective).trans (if_pos base)⟩
  · exact (advances_resource .subject (fun _ => []) .predicate (fun _ => trivial)
      fun _ => nofun).congr fun done expecting line =>
        (if_neg noDirective).trans ((if_neg base).trans (if_neg noPrefix))

/-- **Each step within statements takes a token in the same way wherever it stands.** -/
theorem advances_step {expecting : Expecting} (isStatement : expecting.IsStatement)
    (noDeclaration : ¬ BeginsDeclaration kind text) :
    Advances known kind text fun reading => step { reading with expecting := expecting } := by
  cases expecting with
  | sentence => exact (advances_beginSentence noDeclaration).congr fun _ _ _ => rfl
  | namespaceName pointed => exact absurd isStatement id
  | namespaceIri pointed name => exact absurd isStatement id
  | declarationEnd => exact absurd isStatement id
  | predicate subject => exact (advances_takePredicate subject).congr fun _ _ _ => rfl
  | object subject predicate => exact (advances_takeObject subject predicate).congr fun _ _ _ => rfl
  | suffix subject predicate value =>
    exact (advances_takeSuffix subject predicate value).congr fun _ _ _ => rfl
  | datatype subject predicate value =>
    exact advances_resource .datatype (fun datatype => [⟨subject, predicate, .typed value datatype⟩])
      (fun _ => .separator subject predicate) (fun _ => trivial) fun _ => nofun
  | separator subject predicate =>
    exact (advances_takeSeparator subject predicate).congr fun _ _ _ => rfl
  | continuation subject => exact advances_takeContinuation subject

end Steps

end Reading

end HistoricalFigures.Turtle
