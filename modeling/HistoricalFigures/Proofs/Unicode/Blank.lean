import HistoricalFigures.Proofs.Unicode.Ascii
import HistoricalFigures.Proofs.Unicode.Codes
import HistoricalFigures.Unicode.Blank
import Mathlib.Data.List.TakeWhile

/-!
**Blanks, and the ends of a text.**

* `blankCodes`: the numbers of the blanks, by which they are told from the characters of a class.
* `isBlank_of_mem_uppercase`: no blank arises in upper case.
* `dropEndWhile_append_cons`, `dropEndWhile_append`, `exists_of_trimEnd_ne_nil`, `exists_trimEnd_append`:
  what is cut off at the end of a text.
* `isInfix_trim`: what is left is a stretch of the text.
* `trim_of_getLast?`: a text that ends with another character is cut off at its start alone.
-/
namespace HistoricalFigures.Unicode

/-! ### Blanks belong to no class -/

/-- The numbers of the blanks. -/
def blankCodes : List Nat :=
  [0x09, 0x0A, 0x0B, 0x0C, 0x0D, 0x1C, 0x1D, 0x1E, 0x1F, 0x20, 0x85, 0xA0, 0x1680, 0x2000, 0x2001,
    0x2002, 0x2003, 0x2004, 0x2005, 0x2006, 0x2007, 0x2008, 0x2009, 0x200A, 0x2028, 0x2029, 0x202F,
    0x205F, 0x3000]

theorem toNat_mem_blankCodes {c : Char} (blank : isBlank c = true) : c.toNat ∈ blankCodes := by
  simp only [isBlank, Bool.or_eq_true, Bool.and_eq_true, decide_eq_true_eq, beq_iff_eq] at blank
  simp only [blankCodes, List.mem_cons, List.not_mem_nil, or_false]
  omega

theorem isWord_of_isBlank {c : Char} (blank : isBlank c = true) : isWord c = false := by
  have each : ∀ code ∈ blankCodes, inRanges wordRanges code = false := by decide +kernel
  exact each c.toNat (toNat_mem_blankCodes blank)

theorem isDigit_of_isBlank {c : Char} (blank : isBlank c = true) : isDigit c = false := by
  have each : ∀ code ∈ blankCodes,
      (digitZeros.find? fun start => start ≤ code && code < start + 10).isSome = false := by
    decide +kernel
  rw [isDigit, digitValue?, Option.isSome_map]
  exact each c.toNat (toNat_mem_blankCodes blank)

theorem isAlphanum_of_isBlank {c : Char} (blank : isBlank c = true) : c.isAlphanum = false := by
  refine Bool.eq_false_iff.mpr fun plain => ?_
  rw [isBlank_of_isAlphanum plain] at blank
  cases blank

theorem isAlpha_of_isBlank {c : Char} (blank : isBlank c = true) : c.isAlpha = false := by
  refine Bool.eq_false_iff.mpr fun letter => ?_
  rw [isBlank_of_isAlphanum (isAlphanum_of_isAlpha letter)] at blank
  cases blank

theorem ne_of_isBlank {c : Char} (blank : isBlank c = true) (d : Char) (other : isBlank d = false) :
    c ≠ d := by
  rintro rfl
  rw [blank] at other
  cases other

/-! ### Blanks and upper case -/

/-- The number of a character is the one that it was made from. -/
theorem toNat_ofNat_of_isValidChar {code : Nat} (valid : code.isValidChar) :
    (Char.ofNat code).toNat = code := by
  have whole : Char.ofNat code = Char.ofNatAux code valid := dif_pos valid
  exact congrArg Char.toNat whole

/-- The number of a character is the one that it was made from, or there is no such character. -/
theorem toNat_ofNat_eq_or (code : Nat) :
    (Char.ofNat code).toNat = code ∨ (Char.ofNat code).toNat = 0 := by
  by_cases valid : code.isValidChar
  · exact .inl (toNat_ofNat_of_isValidChar valid)
  · have whole : Char.ofNat code = '\x00' := dif_neg valid
    exact .inr (congrArg Char.toNat whole)

theorem isBlank_ofNat {code : Nat} (other : code ∉ blankCodes) : isBlank (Char.ofNat code) = false := by
  refine Bool.eq_false_iff.mpr fun blank => ?_
  have among := toNat_mem_blankCodes blank
  rcases toNat_ofNat_eq_or code with same | nothing
  · exact other (same ▸ among)
  · rw [nothing] at among
    exact absurd among (by decide)

theorem isBlank_of_mem_uppercaseChar {c d : Char} (other : isBlank c = false)
    (member : d ∈ uppercaseChar c) : isBlank d = false := by
  have expansions : ∀ entry ∈ uppercaseExpansions, ∀ code ∈ entry.2, code ∉ blankCodes := by
    decide +kernel
  have runs : ∀ run ∈ uppercaseRuns, ∀ blank ∈ blankCodes,
      blank < run.image ∨ run.image + (run.last - run.first) < blank := by
    decide +kernel
  unfold uppercaseChar at member
  split at member
  · rename_i codes expands
    obtain ⟨code, among, rfl⟩ := List.mem_map.mp member
    obtain ⟨before, behind, table, _⟩ := List.lookup_eq_some_iff.mp expands
    have entry : (c.toNat, codes) ∈ uppercaseExpansions :=
      table ▸ List.mem_append_right before List.mem_cons_self
    exact isBlank_ofNat (expansions _ entry code among)
  · rw [List.mem_singleton.mp member]
    rcases imageIn_eq_or uppercaseRuns c.toNat with same | ⟨run, among, inside, image⟩
    · rw [same, Char.ofNat_toNat]
      exact other
    · refine isBlank_ofNat fun blank => ?_
      have apart := runs run among _ blank
      have bounds := CaseRun.mem_codes.mp inside
      rw [image, CaseRun.imageOf] at apart
      omega

/-- **No blank arises in upper case.** -/
theorem isBlank_of_mem_uppercase {text : List Char} (unbroken : ∀ c ∈ text, isBlank c = false) :
    ∀ d ∈ uppercase text, isBlank d = false := by
  intro d member
  obtain ⟨c, inside, image⟩ := List.mem_flatMap.mp member
  exact isBlank_of_mem_uppercaseChar (unbroken c inside) image

/-! ### The ends of a text -/

/-- Nothing is cut off before a character that stays. -/
theorem dropEndWhile_append_cons {p : Char → Bool} {mark : Char} (stays : p mark = false)
    (front tail : List Char) :
    dropEndWhile p (front ++ mark :: tail) =
      front ++ mark :: dropEndWhile p tail := by
  have stops : ¬ p mark = true := by rw [stays]; exact Bool.false_ne_true
  unfold dropEndWhile
  rw [List.reverse_append, List.reverse_cons, List.append_assoc, List.singleton_append,
    List.dropWhile_append]
  split
  · rename_i nothing
    rw [List.isEmpty_iff.mp nothing, List.dropWhile_cons_of_neg stops, List.reverse_cons,
      List.reverse_reverse]
    rfl
  · rw [List.reverse_append, List.reverse_cons, List.reverse_reverse, List.append_assoc]
    rfl

/-- What is cut off at the end are the characters of the class, up to one that stays. -/
theorem dropEndWhile_append {p : Char → Bool} {text tail : List Char}
    (ends : ∀ c ∈ text.getLast?, p c = false) (cut : ∀ c ∈ tail, p c = true) :
    dropEndWhile p (text ++ tail) = text := by
  have nothing : dropEndWhile p tail = [] := by
    rw [dropEndWhile, List.reverse_eq_nil_iff, List.dropWhile_eq_nil_iff]
    exact fun c member => cut c (List.mem_reverse.mp member)
  rcases List.eq_nil_or_concat text with rfl | ⟨front, last, rfl⟩
  · exact nothing
  · rw [List.concat_eq_append] at ends ⊢
    rw [List.append_assoc, List.singleton_append,
      dropEndWhile_append_cons (ends last List.getLast?_concat), nothing]

theorem isPrefix_dropEndWhile (p : Char → Bool) (text : List Char) :
    dropEndWhile p text <+: text := by
  rw [dropEndWhile, ← List.reverse_suffix, List.reverse_reverse]
  exact List.dropWhile_suffix p

/-- What is left between the blanks at the ends is a stretch of the text. -/
theorem isInfix_trim (text : List Char) : trim text <:+: text := by
  have front : trimStart text <:+ text := List.dropWhile_suffix isBlank
  exact (isPrefix_dropEndWhile isBlank (trimStart text)).isInfix.trans front.isInfix

theorem isBlank_of_trimStart {text later : List Char} {c : Char}
    (start : trimStart text = c :: later) : isBlank c = false := by
  change text.dropWhile isBlank = c :: later at start
  have nonempty : text.dropWhile isBlank ≠ [] := by
    rw [start]
    exact List.cons_ne_nil c later
  have stops := List.head_dropWhile_not isBlank nonempty
  simpa only [start, List.head_cons] using stops

/-- A text whose blanks at the end are cut off ends with another character. -/
theorem exists_of_trimEnd_ne_nil {text : List Char} (nonempty : trimEnd text ≠ []) :
    ∃ front last, trimEnd text = front ++ [last] ∧ isBlank last = false := by
  cases left : trimStart text.reverse with
  | nil => exact absurd (congrArg List.reverse left) nonempty
  | cons last later =>
    refine ⟨later.reverse, last, ?_, isBlank_of_trimStart left⟩
    rw [← List.reverse_cons, ← left]
    rfl

/-- What is cut off at the end of a text. -/
theorem exists_trimEnd_append (text : List Char) :
    ∃ blanks, text = trimEnd text ++ blanks ∧ ∀ c ∈ blanks, isBlank c = true := by
  refine ⟨(text.reverse.takeWhile isBlank).reverse, ?_, fun c member =>
    List.all_eq_true.mp List.all_takeWhile c (List.mem_reverse.mp member)⟩
  rw [trimEnd, dropEndWhile, ← List.reverse_append, List.takeWhile_append_dropWhile,
    List.reverse_reverse]

/-- Blanks behind a character that is none are cut off. -/
theorem trimEnd_append_blanks {text blanks : List Char} {last : Char}
    (ends : text.getLast? = some last) (other : isBlank last = false)
    (areBlanks : ∀ c ∈ blanks, isBlank c = true) : trimEnd (text ++ blanks) = text := by
  refine dropEndWhile_append (fun c member => ?_) areBlanks
  exact Option.some.inj (ends.symm.trans member) ▸ other

/-- Behind a character that is no blank nothing is cut off at the start. -/
theorem trimStart_append {text : List Char} (nonempty : trimStart text ≠ []) (rest : List Char) :
    trimStart (text ++ rest) = trimStart text ++ rest := by
  unfold trimStart at nonempty ⊢
  rw [List.dropWhile_append, if_neg (mt List.isEmpty_iff.mp nonempty)]

/-- A text that ends with a character that is no blank is cut off at its start alone. -/
theorem trim_of_getLast? {text : List Char} {last : Char} (ends : text.getLast? = some last)
    (other : isBlank last = false) :
    trim text = trimStart text ∧ (trimStart text).getLast? = some last := by
  obtain ⟨front, rfl⟩ := List.getLast?_eq_some_iff.mp ends
  have start : ∃ front', trimStart (front ++ [last]) = front' ++ [last] := by
    rw [trimStart, List.dropWhile_append]
    split
    · exact ⟨[], List.dropWhile_cons_of_neg (by rw [other]; exact Bool.false_ne_true)⟩
    · exact ⟨_, rfl⟩
  obtain ⟨front', start⟩ := start
  rw [trim, start, trimEnd, dropEndWhile_append_cons other]
  exact ⟨rfl, List.getLast?_concat⟩

end HistoricalFigures.Unicode
