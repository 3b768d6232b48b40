import HistoricalFigures.Proofs.Unicode.Ascii
import HistoricalFigures.Turtle.Printing

/-!
**The grammar of names and languages, and how far they reach.**

* `IsDotted`: characters of a class, among them separators that each stand before one of the class.
* `IsNamespaceName`, `IsLanguageTag`: the names of namespaces, and languages in small letters.
* `IsReservedTag`: the languages that read as the beginning of a declaration.
* `dottedExtent_append`, `languageExtent_append`: a name and a language reach as far as they are
  long.
* `isDotted_take_subtagExtent`: what is read as the later parts of a language has their form.
-/
namespace HistoricalFigures.Turtle

/-! ### Characters with separators -/

/-- Characters of a class, among them separators that each stand before a character of the class. -/
inductive IsDotted (separator : Char) (p : Char → Bool) : List Char → Prop where
  | nil : IsDotted separator p []
  | char (c : Char) (rest : List Char) : p c = true → IsDotted separator p rest →
    IsDotted separator p (c :: rest)
  | separator (c : Char) (rest : List Char) : p c = true → IsDotted separator p (c :: rest) →
    IsDotted separator p (separator :: c :: rest)

/-- Every character is the separator or one of the class. -/
theorem IsDotted.forall_mem {separator : Char} {p : Char → Bool} {text : List Char}
    (dotted : IsDotted separator p text) : ∀ c ∈ text, c = separator ∨ p c = true := by
  induction dotted with
  | nil => simp
  | char c rest belongs _ found =>
    intro d member
    rcases List.mem_cons.mp member with rfl | later
    · exact .inr belongs
    · exact found d later
  | separator c rest _ _ found =>
    intro d member
    rcases List.mem_cons.mp member with rfl | later
    · exact .inl rfl
    · exact found d later

theorem IsDotted.map {separator : Char} {p q : Char → Bool} {change : Char → Char}
    (stays : change separator = separator) (maps : ∀ c, p c = true → q (change c) = true)
    {text : List Char} (dotted : IsDotted separator p text) :
    IsDotted separator q (text.map change) := by
  induction dotted with
  | nil => exact .nil
  | char c rest belongs _ found => exact .char _ _ (maps c belongs) found
  | separator c rest belongs _ found =>
    rw [List.map_cons, stays]
    exact .separator _ _ (maps c belongs) found

/-- Whether a text neither goes on with a character of a class nor with a separator. -/
def Stops (separator : Char) (p : Char → Bool) (rest : List Char) : Prop :=
  ∀ c ∈ rest.head?, p c = false ∧ c ≠ separator

/-- **A name reaches as far as it is long.** -/
theorem dottedExtent_append {p : Char → Bool} {text rest : List Char}
    (dotted : IsDotted '.' p text) (stops : Stops '.' p rest) :
    dottedExtent p (text ++ rest) = text.length := by
  induction dotted with
  | nil =>
    cases rest with
    | nil => rfl
    | cons c later =>
      obtain ⟨other, unlike⟩ := stops c rfl
      simp [dottedExtent, other, unlike]
  | char c rest belongs _ found =>
    rw [List.cons_append, dottedExtent, belongs, Bool.true_or, if_pos rfl, found, List.length_cons]
  | separator c rest belongs _ found =>
    rw [List.cons_append, dottedExtent, found]
    simp [belongs]

theorem subtagExtent_append {text rest : List Char}
    (dotted : IsDotted '-' Char.isAlphanum text) (stops : Stops '-' Char.isAlphanum rest) :
    subtagExtent (text ++ rest) = text.length := by
  induction dotted with
  | nil =>
    cases rest with
    | nil => rfl
    | cons c later =>
      obtain ⟨other, unlike⟩ := stops c rfl
      simp [subtagExtent, other, unlike]
  | char c rest belongs _ found =>
    rw [List.cons_append, subtagExtent, belongs, Bool.true_or, if_pos rfl, found, List.length_cons]
  | separator c rest belongs _ found =>
    rw [List.cons_append, subtagExtent, found]
    simp [belongs]

/-- **What is read as the later parts of a language has their form.** -/
theorem isDotted_take_subtagExtent (text : List Char) :
    IsDotted '-' Char.isAlphanum (text.take (subtagExtent text)) := by
  induction text with
  | nil => exact .nil
  | cons c rest found =>
    rw [subtagExtent]
    by_cases plain : c.isAlphanum = true
    · rw [plain, Bool.true_or, if_pos rfl, List.take_succ_cons]
      exact .char c _ plain found
    · rw [Bool.not_eq_true] at plain
      by_cases hyphen : c = '-' ∧ rest.head?.any Char.isAlphanum = true
      · obtain ⟨rfl, follows⟩ := hyphen
        obtain ⟨d, later, rfl⟩ : ∃ d later, rest = d :: later := by
          cases rest with
          | nil => simp at follows
          | cons d later => exact ⟨d, later, rfl⟩
        have belongs : d.isAlphanum = true := by simpa using follows
        have reach : subtagExtent (d :: later) = subtagExtent later + 1 := by
          rw [subtagExtent, belongs, Bool.true_or, if_pos rfl]
        rw [follows, if_pos (by simp), List.take_succ_cons]
        rw [reach, List.take_succ_cons] at found ⊢
        exact .separator d _ belongs found
      · have stop : (c.isAlphanum || (decide (c = '-') && rest.head?.any Char.isAlphanum)) = false := by
          rw [plain, Bool.false_or, Bool.and_eq_false_iff, decide_eq_false_iff_not]
          by_cases first : c = '-'
          · exact .inr (Bool.not_eq_true _ ▸ fun follows => hyphen ⟨first, follows⟩)
          · exact .inl first
        rw [stop, if_neg Bool.false_ne_true, List.take_zero]
        exact .nil

/-! ### Names of namespaces -/

/-- The names of namespaces: none, or a letter and then characters of names, with points between
them. -/
def IsNamespaceName (name : List Char) : Prop :=
  name = [] ∨ ∃ letter rest, name = letter :: rest ∧ letter.isAlpha = true ∧
    IsDotted '.' isNameChar rest

/-- The name of a namespace has no colon. -/
theorem colon_notMem_of_isNamespaceName {name : List Char} (grammar : IsNamespaceName name) :
    ':' ∉ name := by
  rcases grammar with rfl | ⟨letter, rest, rfl, isLetter, dotted⟩
  · exact List.not_mem_nil
  · intro member
    rcases List.mem_cons.mp member with rfl | later
    · exact absurd isLetter (by decide)
    · rcases dotted.forall_mem ':' later with point | belongs
      · exact absurd point (by decide)
      · exact absurd belongs (by decide)

/-- A text that may stand behind the colon of a name consists of characters that do. -/
theorem isLocalChar_of_isSafeLocal {text : List Char} (safe : isSafeLocal text = true) :
    ∀ c ∈ text, isLocalChar c = true := by
  have low : isLocalChar '_' = true := by decide
  have hyphen : isLocalChar '-' = true := by decide
  have plain : ∀ c : Char, c.isAlphanum = true → isLocalChar c = true := fun c belongs => by
    simp [isLocalChar, isNameChar, Unicode.isWord_of_isAlphanum belongs]
  cases text with
  | nil => simp
  | cons first rest =>
    simp only [isSafeLocal, isSafeStart, Bool.and_eq_true, Bool.or_eq_true, decide_eq_true_eq,
      List.all_eq_true] at safe
    intro c member
    rcases List.mem_cons.mp member with rfl | later
    · rcases safe.1 with letter | rfl
      · exact plain c (Unicode.isAlphanum_of_isAlpha letter)
      · exact low
    · rcases safe.2 c later with (belongs | rfl) | rfl
      · exact plain c belongs
      · exact low
      · exact hyphen

/-- Characters of a class are characters of the class without separators. -/
theorem isDotted_of_forall {separator : Char} {p : Char → Bool} {text : List Char}
    (all : ∀ c ∈ text, p c = true) : IsDotted separator p text := by
  induction text with
  | nil => exact .nil
  | cons c rest found =>
    exact .char c rest (all c List.mem_cons_self)
      (found fun d member => all d (List.mem_cons_of_mem c member))

/-! ### Languages -/

/-- Small letters and digits. -/
def isTagChar (c : Char) : Bool := c.isLower || c.isDigit

/-- A language in small letters: letters, then parts of small letters and digits, each behind a
hyphen. -/
def IsLanguageTag (tag : List Char) : Prop :=
  ∃ letters parts, tag = letters ++ parts ∧ letters ≠ [] ∧ (∀ c ∈ letters, c.isLower = true) ∧
    (parts = [] ∨ parts.head? = some '-') ∧ IsDotted '-' isTagChar parts

/-- The languages that read as the beginning of a declaration: its word alone, or with parts behind
it. -/
def IsReservedTag (tag : List Char) : Prop :=
  ∃ word ∈ directiveWords, tag = word ∨ (word ++ ['-']).isPrefixOf tag = true

instance (tag : List Char) : Decidable (IsReservedTag tag) :=
  inferInstanceAs (Decidable (∃ word ∈ directiveWords, _))

/-- Small letters and digits are plain letters and digits. -/
theorem isAlphanum_of_isTagChar {c : Char} (belongs : isTagChar c = true) : c.isAlphanum = true :=
  Unicode.isAlphanum_of_isLower_or_isDigit belongs

theorem isAlpha_of_isLower {c : Char} (small : c.isLower = true) : c.isAlpha = true := by
  show (c.isUpper || c.isLower) = true
  rw [small, Bool.or_true]

theorem isLower_toLower {c : Char} (letter : c.isAlpha = true) : c.toLower.isLower = true := by
  have here := Unicode.eq_true_of_isAlphanum (p := fun d => !d.isAlpha || d.toLower.isLower)
    (by decide) (Unicode.isAlphanum_of_isAlpha letter)
  rw [letter] at here
  exact here

/-- Making a plain letter or digit small makes it a small letter or a digit. -/
theorem isTagChar_toLower {c : Char} (plain : c.isAlphanum = true) : isTagChar c.toLower = true :=
  Unicode.eq_true_of_isAlphanum (p := fun d => isTagChar d.toLower) (by decide) plain

theorem toLower_of_isTagChar {c : Char} (belongs : isTagChar c = true) : c.toLower = c := by
  have here := Unicode.eq_true_of_isAlphanum (p := fun d => !isTagChar d || d.toLower = d)
    (by decide) (isAlphanum_of_isTagChar belongs)
  simpa [belongs] using here

/-- The characters of a language are small letters, digits and hyphens. -/
theorem IsLanguageTag.forall_mem {tag : List Char} (language : IsLanguageTag tag) :
    ∀ c ∈ tag, c = '-' ∨ isTagChar c = true := by
  obtain ⟨letters, parts, rfl, _, small, _, dotted⟩ := language
  intro c member
  rcases List.mem_append.mp member with first | later
  · exact .inr (by rw [isTagChar, small c first, Bool.true_or])
  · exact dotted.forall_mem c later

/-- **A language reaches as far as it is long.** -/
theorem languageExtent_append {tag : List Char} (language : IsLanguageTag tag) (rest : List Char) :
    languageExtent (tag ++ ' ' :: rest) = tag.length := by
  obtain ⟨letters, parts, rfl, nonempty, small, start, dotted⟩ := language
  have stop : ∀ c ∈ (parts ++ ' ' :: rest).head?, c.isAlpha = false := by
    intro c first
    rcases start with rfl | hyphen
    · obtain rfl : ' ' = c := by simpa using first
      decide
    · obtain rfl : '-' = c := by simpa [List.head?_append, hyphen] using first
      decide
  have found : ((letters ++ parts) ++ ' ' :: rest).takeWhile Char.isAlpha = letters := by
    rw [List.append_assoc, List.takeWhile_append_of_pos fun c member => isAlpha_of_isLower (small c member)]
    cases behind : parts ++ ' ' :: rest with
    | nil => rw [List.takeWhile_nil, List.append_nil]
    | cons c later =>
      have unlike : c.isAlpha = false := stop c (by rw [behind]; rfl)
      rw [List.takeWhile_cons_of_neg (by rw [unlike]; exact Bool.false_ne_true), List.append_nil]
  have plain : IsDotted '-' Char.isAlphanum parts := by
    have mapped := dotted.map (rfl : id '-' = '-') fun c belongs => isAlphanum_of_isTagChar belongs
    rwa [List.map_id] at mapped
  have reach : subtagExtent (parts ++ ' ' :: rest) = parts.length :=
    subtagExtent_append plain fun c first => by
      obtain rfl : ' ' = c := by simpa using first
      decide
  have positive : letters.length ≠ 0 := fun none => nonempty (List.length_eq_zero_iff.mp none)
  simp only [languageExtent, found]
  rw [if_neg positive, List.append_assoc, List.drop_left, reach, List.length_append]
  congr 1
  rcases start with rfl | hyphen
  · rfl
  · rw [if_pos (by rw [List.head?_append, hyphen]; rfl)]

end HistoricalFigures.Turtle
