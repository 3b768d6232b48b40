import HistoricalFigures.Proofs.Text.Search
import HistoricalFigures.Proofs.Turtle.Declarations
import HistoricalFigures.Proofs.Turtle.Reach
import HistoricalFigures.Query.Parsing

/-!
**Declarations of namespaces, as a query and as a document reads them.** Both find the same names; a
document resolves the escapes of a namespace, and a query keeps them.

* `Declaration`: a declaration in words, with everything that it is written with.
* `Declaration.found`, `findAll_prologue`: what a query finds in declarations.
* `reads_declaration`, `reads_prologue`: what a document reads from them.
-/
namespace HistoricalFigures.Query

open Rdf (Namespaces Statement)

/-- Blanks, or nothing. -/
abbrev Blanks := { text : List Char // ∀ c ∈ text, Unicode.isBlank c = true }

/-- Blanks that are given one by one. -/
abbrev Blanks.of (text : List Char) (areBlanks : text.all Unicode.isBlank = true) : Blanks :=
  ⟨text, List.all_eq_true.mp areBlanks⟩

/-- The declaration of a namespace in words, and the blanks behind it. -/
structure Declaration where
  word : List Char
  gap : Blanks
  name : List Char
  space : Blanks
  /-- The namespace as it is written, with its escapes. -/
  raw : List Char
  /-- The namespace that it reads as. -/
  iri : List Char
  behind : Blanks
  isWord : Unicode.IsInAnyCase "prefix".toList word
  hasGap : gap.val ≠ []
  isName : Turtle.IsNamespaceName name
  closes : Turtle.iriExtent? 0 (raw ++ ['>']) = some (raw.length + 1)
  resolves : Turtle.unescape .refused raw = .ok iri

namespace Declaration

/-- A declaration as it is written, without the blanks behind it. -/
def core (declaration : Declaration) : List Char :=
  declaration.word ++ (declaration.gap.val ++ (declaration.name ++ ':' ::
    (declaration.space.val ++ '<' :: (declaration.raw ++ ['>']))))

/-- A declaration as it is written. -/
def text (declaration : Declaration) : List Char := declaration.core ++ declaration.behind.val

/-- The name and the namespace as they are written. -/
def written (declaration : Declaration) : String × String :=
  (String.ofList declaration.name, String.ofList declaration.raw)

/-- The name and the namespace that they read as. -/
def resolved (declaration : Declaration) : String × String :=
  (String.ofList declaration.name, String.ofList declaration.iri)

theorem isRawIri (declaration : Declaration) : Turtle.IsRawIri declaration.raw :=
  Turtle.isRawIri_of_iriExtent? declaration.closes

end Declaration

/-! ### Blanks -/

theorem trimStart_append (blanks : Blanks) (text : List Char) :
    Unicode.trimStart (blanks.val ++ text) = Unicode.trimStart text :=
  List.dropWhile_append_of_pos blanks.property

theorem trimStart_cons {c : Char} (other : Unicode.isBlank c = false) (text : List Char) :
    Unicode.trimStart (c :: text) = c :: text :=
  List.dropWhile_cons_of_neg (by rw [other]; exact Bool.false_ne_true)

theorem afterBlanks?_append {blanks : Blanks} (some_ : blanks.val ≠ []) (text : List Char) :
    afterBlanks? (blanks.val ++ text) = some (Unicode.trimStart text) := by
  obtain ⟨c, later, same⟩ := List.exists_cons_of_ne_nil some_
  have isBlank : Unicode.isBlank c = true := blanks.property c (same ▸ List.mem_cons_self)
  rw [afterBlanks?, trimStart_append, same, List.cons_append, List.head?_cons, Option.any_some,
    if_pos isBlank]

/-! ### What a query finds -/

theorem looksAhead_declaration : Text.LooksAhead declaration := fun _ _ => rfl

/-- A declaration begins with its letter. -/
theorem declaration_of_head (c : Char) (later : List Char)
    (other : Text.sameLetter 'p' c = false) : declaration none (c :: later) = none := by
  have drops : Text.dropWord? "prefix".toList (c :: later) = none := by
    rw [show "prefix".toList = 'p' :: "refix".toList from rfl, Text.dropWord?, other,
      if_neg Bool.false_ne_true]
  simp only [declaration, drops, Option.bind_eq_bind, Option.bind_none]

theorem namespaceName?_append {name : List Char} (grammar : Turtle.IsNamespaceName name)
    (rest : List Char) : namespaceName? (name ++ ':' :: rest) = some (name, rest) := by
  rcases grammar with rfl | ⟨letter, body, rfl, isLetter, dotted⟩
  · rfl
  · have latin : Text.isLatinLetter letter = true := by simp [Text.isLatinLetter, isLetter]
    have belongs : ∀ c ∈ body, isNamespaceChar c = true := by
      intro c member
      rcases dotted.forall_mem c member with rfl | inside
      · decide
      · simp only [Turtle.isNameChar, Bool.or_eq_true] at inside
        simp only [isNamespaceChar, Bool.or_eq_true]
        exact .inl inside
    have colon : ¬ isNamespaceChar ':' = true := by decide
    simp only [namespaceName?, List.cons_append, latin, if_true,
      List.takeWhile_append_of_pos belongs, List.takeWhile_cons_of_neg colon, List.append_nil,
      List.length_cons, List.drop_succ_cons, List.drop_left]

theorem upToMark?_append {mark : Char} {inner : List Char} (absent : mark ∉ inner)
    (rest : List Char) : upToMark? mark (inner ++ mark :: rest) = some (inner, rest) := by
  have taken : (inner ++ mark :: rest).takeWhile (· ≠ mark) = inner := by
    rw [List.takeWhile_append_of_pos, List.takeWhile_cons_of_neg (by simp), List.append_nil]
    intro c member
    simpa using ne_of_mem_of_not_mem member absent
  simp only [upToMark?, taken, List.drop_left]

/-- **A declaration is found**, with its namespace as it is written. -/
theorem Declaration.found (d : Declaration) (rest : List Char) :
    declaration none (d.core ++ rest) = some (d.written, d.core.length - 1) := by
  have close : '>' ∉ d.raw := fun member =>
    (d.isRawIri.forall_mem '>' member).elim (by decide) (by decide)
  have start : Unicode.trimStart (d.name ++ ':' :: (d.space.val ++ '<' :: (d.raw ++ '>' :: rest))) =
      d.name ++ ':' :: (d.space.val ++ '<' :: (d.raw ++ '>' :: rest)) := by
    rcases d.isName with empty | ⟨letter, body, same, isLetter, _⟩
    · rw [empty]
      exact trimStart_cons (by decide) _
    · rw [same]
      exact trimStart_cons (Unicode.isBlank_of_isAlphanum (Unicode.isAlphanum_of_isAlpha isLetter)) _
  have whole : d.core ++ rest = d.word ++ (d.gap.val ++ (d.name ++ ':' ::
      (d.space.val ++ '<' :: (d.raw ++ '>' :: rest)))) := by
    simp only [Declaration.core, List.append_assoc, List.cons_append, List.nil_append]
  have extent : (d.core ++ rest).length - rest.length - 1 = d.core.length - 1 := by
    rw [List.length_append, Nat.add_sub_cancel]
  rw [declaration, whole, Text.dropWord?_append d.isWord (by decide)]
  simp only [Option.bind_eq_bind, Option.bind_some, afterBlanks?_append d.hasGap, start,
    namespaceName?_append d.isName, trimStart_append, trimStart_cons (c := '<') (by decide),
    upToMark?_append close, Text.endingAt]
  rw [← whole, extent]
  rfl

/-- A declaration begins with a letter. -/
theorem Declaration.exists_core_eq (d : Declaration) :
    ∃ letter body, d.core = letter :: body ∧ letter.isAlpha = true := by
  have letters := Unicode.isAlpha_of_isInAnyCase d.isWord (by decide)
  cases word : d.word with
  | nil =>
    have isWord := d.isWord
    rw [word] at isWord
    cases isWord
  | cons letter body =>
    exact ⟨letter, _, by rw [core, word, List.cons_append],
      letters letter (word ▸ List.mem_cons_self)⟩

/-- **What a query finds in declarations**: their names, with the namespaces as they are written. -/
theorem findAll_prologue (prologue : List Declaration) (rest : List Char) :
    Text.findAll declaration (prologue.flatMap Declaration.text ++ rest) =
      prologue.map Declaration.written ++ Text.findAll declaration rest := by
  induction prologue with
  | nil => rfl
  | cons first later others =>
    have misses : Text.Misses declaration first.behind.val
        (later.flatMap Declaration.text ++ rest) := by
      refine Text.misses_of_head declaration_of_head fun c member => Bool.eq_false_iff.mpr fun same => ?_
      have blank := first.behind.property c member
      rw [Text.isBlank_of_sameLetter (by decide) same] at blank
      cases blank
    obtain ⟨c, body, core, _⟩ := first.exists_core_eq
    have found := first.found (first.behind.val ++ (later.flatMap Declaration.text ++ rest))
    rw [core, List.cons_append, List.length_cons, Nat.add_sub_cancel] at found
    rw [List.flatMap_cons, Declaration.text, core, List.append_assoc, List.append_assoc,
      List.cons_append, Text.findAll_of_found looksAhead_declaration found,
      Text.findAll_append_of_misses looksAhead_declaration misses, others]
    rfl

/-! ### What a document reads -/

namespace Declaration

variable (d : Declaration)

/-- The word of a declaration ends where its gap begins. -/
theorem isLexeme_word (rest : List Char) :
    Turtle.IsLexeme .word d.word (d.gap.val ++ rest) := by
  have letters := Unicode.isAlpha_of_isInAnyCase d.isWord (by decide)
  cases word : d.word with
  | nil =>
    have isWord := d.isWord
    rw [word] at isWord
    cases isWord
  | cons letter body =>
    rw [word] at letters
    obtain ⟨c, later, gap⟩ := List.exists_cons_of_ne_nil d.hasGap
    have blank : Unicode.isBlank c = true := d.gap.property c (gap ▸ List.mem_cons_self)
    rw [gap]
    refine Turtle.isLexeme_word (letters letter List.mem_cons_self) (fun other member => ?_)
      fun first isFirst => ?_
    · have plain := Unicode.isAlphanum_of_isAlpha (letters other (List.mem_cons_of_mem _ member))
      rw [Turtle.isNameChar, Unicode.isWord_of_isAlphanum plain, Bool.true_or]
    · obtain rfl : c = first := by simpa using isFirst
      have outside := Turtle.isLocalChar_of_isBlank blank
      simp only [Turtle.isLocalChar, Bool.or_eq_false_iff, decide_eq_false_iff_not] at outside
      refine ⟨outside.1.1, ?_, outside.2⟩
      rintro rfl
      cases blank

/-- The name of a declaration ends where the blanks behind it begin, or the namespace. -/
theorem isLexeme_name (rest : List Char) :
    Turtle.IsLexeme .name (d.name ++ [':']) (d.space.val ++ '<' :: rest) := by
  refine Turtle.isLexeme_namespaceName d.isName ?_
  cases space : d.space.val with
  | nil => exact (by decide : Turtle.isLocalChar '<' = false)
  | cons c later =>
    exact Turtle.isLocalChar_of_isBlank (d.space.property c (space ▸ List.mem_cons_self))

end Declaration

/-- **A document reads a declaration**, with the escapes of its namespace resolved. -/
theorem reads_declaration (d : Declaration) (known : Namespaces) (done : List Statement)
    (rest : List Char) :
    Turtle.Reads ⟨known, done, .sentence⟩ d.text rest
      ⟨known.put d.resolved.1 d.resolved.2, done, .sentence⟩ := by
  have takesWord : ∀ line, Turtle.Reading.step ⟨known, done, .sentence⟩ ⟨.word, d.word, line⟩ =
      .ok ⟨known, done, .namespaceName false⟩ := by
    intro line
    have upper : String.ofList (Unicode.uppercase d.word) = "PREFIX" := by
      rw [Unicode.uppercase_of_isInAnyCase d.isWord (by decide)]
      decide
    unfold Turtle.Reading.step Turtle.Reading.beginSentence
    simp [upper]
  have takesName : ∀ line, Turtle.Reading.step ⟨known, done, .namespaceName false⟩
      ⟨.name, d.name ++ [':'], line⟩ = .ok ⟨known, done, .namespaceIri false d.name⟩ := by
    intro line
    unfold Turtle.Reading.step Turtle.Reading.takeNamespaceName
    simp only [Turtle.takeWhile_colon (Turtle.colon_notMem_of_isNamespaceName d.isName), and_self,
      if_true]
  have takesIri : ∀ line, Turtle.Reading.step ⟨known, done, .namespaceIri false d.name⟩
      ⟨.iri, '<' :: d.raw ++ ['>'], line⟩ =
        .ok ⟨known.put d.resolved.1 d.resolved.2, done, .sentence⟩ := by
    intro line
    unfold Turtle.Reading.step Turtle.Reading.takeNamespaceIri Turtle.Reading.iriValue
    simp only [List.cons_append, List.drop_one, List.tail_cons, List.dropLast_concat, d.resolves,
      Except.map, if_true, Bool.false_eq_true, if_false]
    rfl
  have whole : d.text = d.word ++ (d.gap.val ++ ((d.name ++ [':']) ++ (d.space.val ++
      (('<' :: d.raw ++ ['>']) ++ d.behind.val)))) := by
    simp only [Declaration.text, Declaration.core, List.append_assoc, List.cons_append,
      List.nil_append]
  rw [whole]
  exact (Turtle.Reads.lexeme (by rw [List.append_assoc]; exact d.isLexeme_word _) takesWord).append
    ((Turtle.Reads.blanks _ d.gap.property _).append
      ((Turtle.Reads.lexeme (by rw [List.append_assoc]; exact d.isLexeme_name _) takesName).append
        ((Turtle.Reads.blanks _ d.space.property _).append
          ((Turtle.Reads.lexeme (Turtle.isLexeme_rawIri d.isRawIri _) takesIri).append
            (Turtle.Reads.blanks _ d.behind.property rest)))))

/-- **What a document reads from declarations**: their names, with the namespaces that they read as. -/
theorem reads_prologue (prologue : List Declaration) (known : Namespaces) (done : List Statement)
    (rest : List Char) :
    Turtle.Reads ⟨known, done, .sentence⟩ (prologue.flatMap Declaration.text) rest
      ⟨known.putAll (prologue.map Declaration.resolved), done, .sentence⟩ := by
  induction prologue generalizing known with
  | nil => exact Turtle.Reads.nil _ rest
  | cons first later found =>
    rw [List.flatMap_cons]
    exact (reads_declaration first known done _).append (found _)

theorem read_prologue (prologue : List Declaration) (known : Namespaces) :
    Turtle.read known (String.ofList (prologue.flatMap Declaration.text)) =
      .ok (known.putAll (prologue.map Declaration.resolved), []) := by
  rw [Turtle.read_eq_readOn, String.toList_ofList, (reads_prologue prologue known [] []).readOn_eq]
  rfl

end HistoricalFigures.Query
