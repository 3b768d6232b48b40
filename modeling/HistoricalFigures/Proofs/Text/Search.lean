import HistoricalFigures.Proofs.Unicode.Ascii
import HistoricalFigures.Text.Search

/-!
**Finds in a text that is made up of parts.**

* `infix_of_contains`, `contains_of_infix`: a text contains its stretches.
* `LooksAhead`: a finder that does not look at the character before a place.
* `exists_of_mem_findAll`, `exists_of_findFirst`: what is found is found at some place.
* `findAll_of_found`, `findAll_append_of_misses`: a part that is a find, and a part without one.
* `findFirst_append_of_misses`: the first find lies behind a part without one.
* `replaceAll_of_found`: a part that is a find is replaced.
* `dropWord?_append`, `exists_of_dropWord?`: a word at the start of a text, whatever its case.
* `lacksWord`, `NeedsWord`: a part in which a word begins nowhere, and a finder of that word, which may
  look at the character before a place.
* `findAllFrom_append_of_lacksWord`, `findFirstFrom_append_of_lacksWord`,
  `splitFirstFrom_append_of_lacksWord`: such a finder goes on behind such a part.
-/
namespace HistoricalFigures.Text

variable {α : Type} {finder : Finder α}

/-! ### Stretches -/

theorem infix_of_contains {word text : List Char} (occurs : contains word text = true) :
    word <:+: text := by
  induction text with
  | nil =>
    rw [contains, List.isEmpty_iff] at occurs
    subst occurs
    exact List.infix_rfl
  | cons c rest found =>
    rw [contains, Bool.or_eq_true, startsWith, List.isPrefixOf_iff_prefix] at occurs
    rcases occurs with start | later
    · exact start.isInfix
    · exact (found later).trans (List.suffix_cons c rest).isInfix

theorem contains_of_infix {word text : List Char} (stretch : word <:+: text) :
    contains word text = true := by
  induction text with
  | nil => rw [contains, List.isEmpty_iff, List.infix_nil.mp stretch]
  | cons c rest found =>
    rw [contains, Bool.or_eq_true, startsWith, List.isPrefixOf_iff_prefix]
    rcases List.infix_cons_iff.mp stretch with start | later
    · exact .inl start
    · exact .inr (found later)

/-! ### Finds -/

/-- A finder that does not look at the character before a place. -/
def LooksAhead (finder : Finder α) : Prop := ∀ before text, finder before text = finder none text

/-- A part of a text in which, in front of the rest, no find begins. -/
def Misses (finder : Finder α) (part rest : List Char) : Prop :=
  ∀ suffix, suffix ≠ [] → suffix <:+ part → finder none (suffix ++ rest) = none

/-- A part in which no find begins, told by the first character of a find. -/
theorem misses_of_head {part rest : List Char} {starts : Char → Bool}
    (head : ∀ c later, starts c = false → finder none (c :: later) = none)
    (other : ∀ c ∈ part, starts c = false) : Misses finder part rest := by
  intro suffix nonempty behind
  obtain ⟨c, later, rfl⟩ := List.exists_cons_of_ne_nil nonempty
  exact head c _ (other c (behind.subset List.mem_cons_self))

theorem findFirstFrom_of_found {before : Option Char} {text : List Char} {value : α} {extent : Nat}
    (nonempty : text ≠ []) (found : finder before text = some (value, extent)) :
    findFirstFrom finder before text = some value := by
  obtain ⟨c, rest, rfl⟩ := List.exists_cons_of_ne_nil nonempty
  rw [findFirstFrom, found]

theorem findFirst_of_found {text : List Char} {value : α} {extent : Nat} (nonempty : text ≠ [])
    (found : finder none text = some (value, extent)) : findFirst finder text = some value :=
  findFirstFrom_of_found nonempty found

theorem splitFirstFrom_of_found {before : Option Char} {text : List Char} {value : α} {extent : Nat}
    (nonempty : text ≠ []) (found : finder before text = some (value, extent)) :
    splitFirstFrom finder before text = some ([], value) := by
  obtain ⟨c, rest, rfl⟩ := List.exists_cons_of_ne_nil nonempty
  rw [splitFirstFrom, found]

theorem exists_findAllFrom_of_found {before : Option Char} {text : List Char} {value : α}
    {extent : Nat} (nonempty : text ≠ []) (found : finder before text = some (value, extent)) :
    ∃ more, findAllFrom finder before 0 text = value :: more := by
  obtain ⟨c, rest, rfl⟩ := List.exists_cons_of_ne_nil nonempty
  exact ⟨findAllFrom finder (some c) extent rest, by rw [findAllFrom, found]⟩

/-- A find among all those in a text is one at some place in it. -/
theorem exists_of_mem_findAll {text : List Char} {value : α} (member : value ∈ findAll finder text) :
    ∃ before rest extent, rest <:+ text ∧ finder before rest = some (value, extent) := by
  have along : ∀ (text : List Char) (before : Option Char) (skipped : Nat),
      value ∈ findAllFrom finder before skipped text →
        ∃ before rest extent, rest <:+ text ∧ finder before rest = some (value, extent) := by
    intro text
    induction text with
    | nil =>
      intro before skipped inside
      cases skipped <;> exact absurd inside List.not_mem_nil
    | cons c rest later =>
      have behind : ∀ (before : Option Char) (skipped : Nat),
          value ∈ findAllFrom finder before skipped rest →
            ∃ before part extent, part <:+ c :: rest ∧ finder before part = some (value, extent) := by
        intro before skipped inside
        obtain ⟨before', part, extent, isEnd, here⟩ := later before skipped inside
        exact ⟨before', part, extent, isEnd.trans (List.suffix_cons c rest), here⟩
      intro before skipped inside
      cases skipped with
      | succ skipped => exact behind _ _ inside
      | zero =>
        rw [findAllFrom] at inside
        split at inside
        · rename_i found extent here
          rcases List.mem_cons.mp inside with rfl | other
          · exact ⟨before, c :: rest, extent, List.suffix_rfl, here⟩
          · exact behind _ _ other
        · exact behind _ _ inside
  exact along text none 0 member

/-- A find in a text is one at some place in it. -/
theorem exists_of_findFirst_eq_some {text : List Char} {value : α}
    (found : findFirst finder text = some value) :
    ∃ before rest extent, rest <:+ text ∧ finder before rest = some (value, extent) := by
  have along : ∀ (text : List Char) (before : Option Char),
      findFirstFrom finder before text = some value →
        ∃ before rest extent, rest <:+ text ∧ finder before rest = some (value, extent) := by
    intro text
    induction text with
    | nil => exact fun before absent => by cases absent
    | cons c rest later =>
      intro before found
      rw [findFirstFrom] at found
      split at found
      · rename_i value' extent here
        cases found
        exact ⟨before, c :: rest, extent, List.suffix_rfl, here⟩
      · obtain ⟨before', rest', extent, behind, here⟩ := later (some c) found
        exact ⟨before', rest', extent, behind.trans (List.suffix_cons c rest), here⟩
  exact along text none found

/-- What is found in a text is found at the start of what follows some place in it. -/
theorem exists_of_findFirst {text : List Char}
    (found : (findFirst finder text).isSome = true) :
    ∃ before rest, rest <:+ text ∧ (finder before rest).isSome = true := by
  obtain ⟨value, found⟩ := Option.isSome_iff_exists.mp found
  obtain ⟨before, rest, extent, behind, here⟩ := exists_of_findFirst_eq_some found
  exact ⟨before, rest, behind, by rw [here]; rfl⟩

section LooksAhead

variable (ahead : LooksAhead finder)
include ahead

theorem findAllFrom_none (before : Option Char) (skipped : Nat) (text : List Char) :
    findAllFrom finder before skipped text = findAllFrom finder none skipped text := by
  cases text with
  | nil => cases skipped <;> rfl
  | cons c rest =>
    cases skipped with
    | zero => rw [findAllFrom, findAllFrom, ahead before]
    | succ skipped => rfl

theorem findAllFrom_skip (skipped rest : List Char) :
    findAllFrom finder none skipped.length (skipped ++ rest) = findAll finder rest := by
  induction skipped with
  | nil => rfl
  | cons c later found => exact (findAllFrom_none ahead (some c) _ _).trans found

/-- **A part that is a find** stands before the finds in the rest. -/
theorem findAll_of_found {c : Char} {body rest : List Char} {value : α}
    (found : finder none (c :: (body ++ rest)) = some (value, body.length)) :
    findAll finder (c :: (body ++ rest)) = value :: findAll finder rest := by
  rw [findAll, findAllFrom, found]
  exact congrArg (value :: ·) ((findAllFrom_none ahead _ _ _).trans (findAllFrom_skip ahead body rest))

/-- **Behind a part without finds** there are those in the rest. -/
theorem findAll_append_of_misses {part rest : List Char} (misses : Misses finder part rest) :
    findAll finder (part ++ rest) = findAll finder rest := by
  induction part with
  | nil => rfl
  | cons c later found =>
    have here := misses (c :: later) (List.cons_ne_nil c later) List.suffix_rfl
    rw [List.cons_append] at here
    rw [List.cons_append, findAll, findAllFrom, here]
    exact (findAllFrom_none ahead _ _ _).trans
      (found fun suffix nonempty behind => misses suffix nonempty (behind.trans (List.suffix_cons c later)))

theorem findFirstFrom_none (before : Option Char) (text : List Char) :
    findFirstFrom finder before text = findFirst finder text := by
  cases text with
  | nil => rfl
  | cons c rest => rw [findFirst, findFirstFrom, findFirstFrom, ahead before]

/-- What would be found behind some place in a text, there or before something is found. -/
theorem isSome_findFirst_of_suffix {part text : List Char} (nonempty : part ≠ [])
    (behind : part <:+ text) (found : (finder none part).isSome = true) :
    (findFirst finder text).isSome = true := by
  induction text with
  | nil => exact absurd (List.suffix_nil.mp behind) nonempty
  | cons c later earlier =>
    rw [findFirst, findFirstFrom]
    split
    · rfl
    · rename_i nothing
      rw [findFirstFrom_none ahead]
      rcases List.suffix_cons_iff.mp behind with rfl | inside
      · rw [nothing] at found
        cases found
      · exact earlier inside

theorem findFirst_append_of_misses {part rest : List Char} (misses : Misses finder part rest) :
    findFirst finder (part ++ rest) = findFirst finder rest := by
  induction part with
  | nil => rfl
  | cons c later found =>
    have here := misses (c :: later) (List.cons_ne_nil c later) List.suffix_rfl
    rw [List.cons_append] at here
    rw [List.cons_append, findFirst, findFirstFrom, here]
    exact (findFirstFrom_none ahead _ _).trans
      (found fun suffix nonempty behind => misses suffix nonempty (behind.trans (List.suffix_cons c later)))

end LooksAhead

theorem replaceAllFrom_none {finder : Finder (List Char)} (ahead : LooksAhead finder)
    (before : Option Char) (skipped : Nat) (text : List Char) :
    replaceAllFrom finder before skipped text = replaceAllFrom finder none skipped text := by
  cases text with
  | nil => cases skipped <;> rfl
  | cons c rest =>
    cases skipped with
    | zero => rw [replaceAllFrom, replaceAllFrom, ahead before]
    | succ skipped => rfl

/-- Behind a find the replacement goes on where the find ends. -/
theorem replaceAllFrom_drop {finder : Finder (List Char)} (ahead : LooksAhead finder)
    (skipped : Nat) (text : List Char) :
    replaceAllFrom finder none skipped text = replaceAll finder (text.drop skipped) := by
  induction text generalizing skipped with
  | nil => cases skipped <;> rfl
  | cons c later found =>
    cases skipped with
    | zero => rfl
    | succ skipped => exact (replaceAllFrom_none ahead (some c) _ _).trans (found skipped)

/-- A find at the start of a text is replaced before what follows it. -/
theorem replaceAll_cons_of_some {finder : Finder (List Char)} (ahead : LooksAhead finder) {c : Char}
    {rest value : List Char} {extent : Nat} (found : finder none (c :: rest) = some (value, extent)) :
    replaceAll finder (c :: rest) = value ++ replaceAll finder (rest.drop extent) := by
  rw [replaceAll, replaceAllFrom, found]
  exact congrArg (value ++ ·)
    ((replaceAllFrom_none ahead _ _ _).trans (replaceAllFrom_drop ahead extent rest))

/-- **A part that is a find** is replaced before what follows it. -/
theorem replaceAll_of_found {finder : Finder (List Char)} (ahead : LooksAhead finder) {c : Char}
    {body rest value : List Char}
    (found : finder none (c :: (body ++ rest)) = some (value, body.length)) :
    replaceAll finder (c :: (body ++ rest)) = value ++ replaceAll finder rest := by
  rw [replaceAll_cons_of_some ahead found, List.drop_left]

theorem replaceAll_cons_of_none {finder : Finder (List Char)} (ahead : LooksAhead finder) {c : Char}
    {rest : List Char} (nothing : finder none (c :: rest) = none) :
    replaceAll finder (c :: rest) = c :: replaceAll finder rest := by
  rw [replaceAll, replaceAllFrom, nothing]
  exact congrArg (c :: ·) (replaceAllFrom_none ahead _ _ _)

/-! ### Words in any case -/

theorem sameLetter_of_toLower {letter c : Char} (same : c.toLower = letter)
    (ascii : letter.toNat < 128) : sameLetter letter c = true := by
  rcases Unicode.eq_or_eq_of_toLower same ascii with rfl | rfl <;> simp [sameLetter]

/-- A letter in any case is no blank. -/
theorem isBlank_of_sameLetter {letter c : Char} (isLetter : letter.isAlpha = true)
    (same : sameLetter letter c = true) : Unicode.isBlank c = false := by
  have plain := Unicode.isAlphanum_of_isAlpha isLetter
  simp only [sameLetter, Bool.or_eq_true, Bool.and_eq_true, beq_iff_eq] at same
  rcases same with (((rfl | rfl) | ⟨_, rfl | rfl⟩) | ⟨_, rfl⟩) | ⟨_, rfl⟩
  · exact Unicode.isBlank_of_isAlphanum plain
  · have here := Unicode.eq_true_of_isAlphanum (p := fun d => !Unicode.isBlank d.toUpper)
      (by decide) plain
    simpa using here
  all_goals decide

/-- **A word is passed over**, whatever the case of its letters. -/
theorem dropWord?_append {word text : List Char} (same : Unicode.IsInAnyCase word text)
    (ascii : word.all (fun c => c.toNat < 128) = true) (rest : List Char) :
    dropWord? word (text ++ rest) = some rest := by
  induction text generalizing word with
  | nil =>
    subst same
    rfl
  | cons c later found =>
    subst same
    rw [List.map_cons, List.all_cons, Bool.and_eq_true, decide_eq_true_eq] at ascii
    rw [List.map_cons, List.cons_append, dropWord?, if_pos (sameLetter_of_toLower rfl ascii.1)]
    exact found rfl ascii.2

/-- What is passed over consists of the letters of the word. -/
theorem exists_of_dropWord? {word text rest : List Char} (drops : dropWord? word text = some rest) :
    ∃ front, text = front ++ rest ∧ ∀ c ∈ front, ∃ letter ∈ word, sameLetter letter c = true := by
  induction word generalizing text with
  | nil =>
    cases drops
    exact ⟨[], rfl, fun _ member => absurd member List.not_mem_nil⟩
  | cons letter word found =>
    cases text with
    | nil => cases drops
    | cons c later =>
      rw [dropWord?] at drops
      split at drops
      · rename_i same
        obtain ⟨front, rfl, each⟩ := found drops
        refine ⟨c :: front, rfl, fun d member => ?_⟩
        rcases List.mem_cons.mp member with rfl | inside
        · exact ⟨letter, List.mem_cons_self, same⟩
        · obtain ⟨other, among, same⟩ := each d inside
          exact ⟨other, List.mem_cons_of_mem letter among, same⟩
      · cases drops

/-! ### Parts without a word -/

/-- Whether a text differs from a word at a place that both have. -/
def departs : List Char → List Char → Bool
  | letter :: word, c :: rest => !sameLetter letter c || departs word rest
  | _, _ => false

/-- Whether a word begins nowhere in a part of a text, whatever follows the part. -/
def lacksWord (word : List Char) : List Char → Bool
  | [] => true
  | c :: rest => departs word (c :: rest) && lacksWord word rest

theorem departs_append {word text : List Char} (differs : departs word text = true)
    (rest : List Char) : departs word (text ++ rest) = true := by
  induction word generalizing text with
  | nil => cases text <;> cases differs
  | cons letter word found =>
    cases text with
    | nil => cases differs
    | cons c later =>
      rw [departs, Bool.or_eq_true] at differs
      rw [List.cons_append, departs, Bool.or_eq_true]
      exact differs.imp_right found

theorem lacksWord_append {word first second : List Char} (before : lacksWord word first = true)
    (behind : lacksWord word second = true) : lacksWord word (first ++ second) = true := by
  induction first with
  | nil => exact behind
  | cons c later found =>
    rw [lacksWord, Bool.and_eq_true] at before
    rw [List.cons_append, lacksWord, Bool.and_eq_true]
    exact ⟨departs_append before.1 second, found before.2⟩

theorem lacksWord_cons {word rest : List Char} {c : Char} (here : lacksWord word [c] = true)
    (behind : lacksWord word rest = true) : lacksWord word (c :: rest) = true :=
  lacksWord_append here behind

theorem lacksWord_singleton {letter : Char} {text : List Char}
    (other : ∀ c ∈ text, sameLetter letter c = false) : lacksWord [letter] text = true := by
  induction text with
  | nil => rfl
  | cons c later found =>
    obtain ⟨here, others⟩ := List.forall_mem_cons.mp other
    rw [lacksWord, departs, here, found others]
    rfl
theorem lacksWord_flatMap {α : Type} {word : List Char} {write : α → List Char} {parts : List α}
    (each : ∀ part ∈ parts, lacksWord word (write part) = true) :
    lacksWord word (parts.flatMap write) = true := by
  induction parts with
  | nil => rfl
  | cons part later found =>
    obtain ⟨here, others⟩ := List.forall_mem_cons.mp each
    exact lacksWord_append here (found others)

/-- The characters of a text that is written out, which need not be taken apart for it. -/
theorem toList_of_eq {text : String} {chars : List Char} (written : text = String.ofList chars) :
    text.toList = chars := by
  rw [written, String.toList_ofList]

theorem lacksWord_of_eq {text : String} {word chars : List Char}
    (written : text = String.ofList chars) (lacks : lacksWord word chars = true) :
    lacksWord word text.toList = true := by
  rw [toList_of_eq written]
  exact lacks

theorem dropWord?_of_departs {word text : List Char} (differs : departs word text = true)
    (rest : List Char) : dropWord? word (text ++ rest) = none := by
  induction word generalizing text with
  | nil => cases text <;> cases differs
  | cons letter word found =>
    cases text with
    | nil => cases differs
    | cons c later =>
      rw [List.cons_append, dropWord?]
      split
      · rename_i same
        rw [departs, same, Bool.not_true, Bool.false_or] at differs
        exact found differs
      · rfl

/-- A finder that finds something only where a word begins. -/
def NeedsWord (finder : Finder α) (word : List Char) : Prop :=
  ∀ before text, dropWord? word text = none → finder before text = none

section NeedsWord

variable {word part : List Char} {c : Char} (needs : NeedsWord finder word)
include needs

theorem none_of_lacksWord_last (lacks : lacksWord word [c] = true) (before : Option Char)
    (rest : List Char) : finder before (c :: rest) = none := by
  rw [lacksWord, Bool.and_eq_true] at lacks
  exact needs before _ (dropWord?_of_departs lacks.1 rest)

theorem none_of_lacksWord {d : Char} (lacks : lacksWord word (d :: part ++ [c]) = true)
    (before : Option Char) (rest : List Char) :
    finder before (d :: (part ++ c :: rest)) = none ∧ lacksWord word (part ++ [c]) = true := by
  rw [List.cons_append, lacksWord, Bool.and_eq_true] at lacks
  have drops := dropWord?_of_departs lacks.1 rest
  rw [List.cons_append, List.append_assoc, List.singleton_append] at drops
  exact ⟨needs before _ drops, lacks.2⟩

/-- Nothing is found in a text without the word. -/
theorem findFirstFrom_of_lacksWord (lacks : lacksWord word part = true) (before : Option Char) :
    findFirstFrom finder before part = none := by
  induction part generalizing before with
  | nil => rfl
  | cons d later found =>
    rw [lacksWord, Bool.and_eq_true] at lacks
    have drops := dropWord?_of_departs lacks.1 []
    rw [List.append_nil] at drops
    rw [findFirstFrom, needs before _ drops]
    exact found lacks.2 (some d)

/-- **Behind a part without the word** the finds are those in the rest, behind the last character of
the part. -/
theorem findAllFrom_append_of_lacksWord (lacks : lacksWord word (part ++ [c]) = true)
    (before : Option Char) (rest : List Char) :
    findAllFrom finder before 0 (part ++ c :: rest) = findAllFrom finder (some c) 0 rest := by
  induction part generalizing before with
  | nil =>
    have here := none_of_lacksWord_last needs lacks before rest
    rw [List.nil_append, findAllFrom, here]
  | cons d later found =>
    obtain ⟨here, others⟩ := none_of_lacksWord needs lacks before rest
    rw [List.cons_append, findAllFrom, here]
    exact found others (some d)

theorem findFirstFrom_append_of_lacksWord (lacks : lacksWord word (part ++ [c]) = true)
    (before : Option Char) (rest : List Char) :
    findFirstFrom finder before (part ++ c :: rest) = findFirstFrom finder (some c) rest := by
  induction part generalizing before with
  | nil =>
    have here := none_of_lacksWord_last needs lacks before rest
    rw [List.nil_append, findFirstFrom, here]
  | cons d later found =>
    obtain ⟨here, others⟩ := none_of_lacksWord needs lacks before rest
    rw [List.cons_append, findFirstFrom, here]
    exact found others (some d)

theorem splitFirstFrom_append_of_lacksWord (lacks : lacksWord word (part ++ [c]) = true)
    (before : Option Char) (rest : List Char) :
    splitFirstFrom finder before (part ++ c :: rest) =
      (splitFirstFrom finder (some c) rest).map fun (text, found) =>
        (part ++ c :: text, found) := by
  induction part generalizing before with
  | nil =>
    have here := none_of_lacksWord_last needs lacks before rest
    rw [List.nil_append, splitFirstFrom, here]
    rfl
  | cons d later found =>
    obtain ⟨here, others⟩ := none_of_lacksWord needs lacks before rest
    rw [List.cons_append, splitFirstFrom, here]
    dsimp only
    rw [found others (some d), Option.map_map]
    rfl

end NeedsWord

end HistoricalFigures.Text
