import HistoricalFigures.Literal.SearchForm
import HistoricalFigures.Proofs.Unicode.Lowercase

/-!
**The search form of a search form.** A term is brought into this form twice before it is looked for
in texts that are in it once.

* `bareChars`: a decomposed text without its diacritics.
* `mem_searchChars`, `searchChars_searchChars`: nothing but the order of the other marks can change
  the second time.
* `isOrdered_bareChars`: only the grapheme joiner, which is taken out as if it were a diacritic, keeps
  marks apart whose order matters.
* `searchForm_searchForm_iff`: when the form stays as it is.
-/
namespace HistoricalFigures.Literal

open Unicode (IsOrdered IsSimple IsSmall combiningClass)

/-- A decomposed text without its diacritics. -/
def bareChars (text : List Char) : List Char :=
  (Unicode.decompose text).filter fun c => !isDiacritic c

theorem isSimple_of_mem_bareChars {text : List Char} {c : Char} (member : c ∈ bareChars text) :
    IsSimple c := Unicode.isSimple_of_mem_decompose (List.mem_of_mem_filter member)

/-- **What a search form consists of**: characters without parts that are no diacritics and their own
lower case. -/
theorem mem_searchChars {text : List Char} {d : Char} (member : d ∈ searchChars text) :
    IsSimple d ∧ isDiacritic d = false ∧ IsSmall d := by
  have inside : d ∈ Unicode.lowercase (bareChars text) :=
    (Unicode.isInfix_trim _).subset member
  obtain ⟨c, among, lowered⟩ :=
    Unicode.exists_isLowered_of_mem_lowercase (fun _ => isSimple_of_mem_bareChars) inside
  refine ⟨lowered.simple, ?_, lowered.small⟩
  by_cases same : d = c
  · rw [same, ← Bool.not_eq_true']
    exact (List.mem_filter.mp among).2
  · have outside := lowered.noMark same
    rw [isDiacritic, Bool.and_eq_false_iff, decide_eq_false_iff_not, decide_eq_false_iff_not]
    omega

/-- **The second time only marks are put in order.** -/
theorem searchChars_searchChars (text : List Char) :
    searchChars (searchChars text) = Unicode.orderMarks (searchChars text) := by
  have inOrder : ∀ c ∈ Unicode.orderMarks (searchChars text), c ∈ searchChars text :=
    fun c => (Unicode.orderMarks_perm _).mem_iff.mp
  have whole : Unicode.decompose (searchChars text) = Unicode.orderMarks (searchChars text) :=
    Unicode.decompose_of_isSimple fun c member => (mem_searchChars member).1
  have bare : bareChars (searchChars text) = Unicode.orderMarks (searchChars text) := by
    rw [bareChars, whole, List.filter_eq_self]
    intro c member
    rw [(mem_searchChars (inOrder c member)).2.1]
    rfl
  calc searchChars (searchChars text)
      = Unicode.trim (Unicode.lowercase (bareChars (searchChars text))) := rfl
    _ = Unicode.trim (Unicode.orderMarks (searchChars text)) := by
      rw [bare, Unicode.lowercase_of_isSmall fun c member => (mem_searchChars (inOrder c member)).2.2]
    _ = Unicode.orderMarks (searchChars text) := Unicode.trim_orderMarks_trim _

theorem isOrdered_searchChars_iff {text : List Char} :
    IsOrdered (searchChars text) ↔ IsOrdered (bareChars text) :=
  Unicode.isOrdered_trim_iff.trans
    (Unicode.isOrdered_lowercase_iff fun _ => isSimple_of_mem_bareChars)

/-! ### The grapheme joiner -/

/-- A diacritic is a mark, apart from the grapheme joiner. -/
theorem mark_of_isDiacritic {c : Char} (diacritic : isDiacritic c = true) (other : c ≠ '\u034F') :
    0 < combiningClass c := by
  have each : ∀ code ∈ List.range' 0x300 0x70,
      code = 0x34F ∨ 0 < Unicode.classIn Unicode.combiningClasses code := by decide +kernel
  rw [isDiacritic, Bool.and_eq_true, decide_eq_true_iff, decide_eq_true_iff] at diacritic
  rcases each c.toNat (List.mem_range'_1.mpr (by omega)) with joiner | mark
  · exact absurd (Char.toNat_inj.mp joiner) other
  · exact mark

/-- The grapheme joiner is a part of no other character. -/
theorem mem_of_joiner_mem_decompose {text : List Char} (member : '\u034F' ∈ Unicode.decompose text) :
    '\u034F' ∈ text := by
  have other : ∀ code ∈ Unicode.pieces, code ≠ 0x34F := by decide +kernel
  obtain ⟨c, inside, part⟩ := Unicode.mem_decompose.mp member
  rcases Unicode.mem_decomposeChar part with ⟨code, among, same⟩ | ⟨rfl, -⟩
  · have valid := (Unicode.pieces_simple code among).1
    have code : (Char.ofNat code).toNat = code := Unicode.toNat_ofNat_of_isValidChar valid
    rw [← same] at code
    exact absurd code.symm (other _ among)
  · exact inside

/-- **Without a grapheme joiner the other marks are in order.** -/
theorem isOrdered_bareChars {text : List Char} (plain : '\u034F' ∉ text) :
    IsOrdered (bareChars text) := by
  apply Unicode.isOrdered_filter (Unicode.isOrdered_orderMarks _)
  intro c member dropped
  have diacritic : isDiacritic c = true := by simpa using dropped
  refine mark_of_isDiacritic diacritic ?_
  rintro rfl
  exact plain (mem_of_joiner_mem_decompose member)

/-! ### Search forms -/

/-- **The search form of a search form** is the form itself exactly if the marks that are no diacritics
are in order once the diacritics are taken out. They always are in a text without a grapheme joiner. -/
theorem searchForm_searchForm_iff (text : String) :
    (searchForm (searchForm text) = searchForm text ↔ IsOrdered (bareChars text.toList)) ∧
      ('\u034F' ∉ text.toList → searchForm (searchForm text) = searchForm text) := by
  have same : searchForm (searchForm text) = searchForm text ↔ IsOrdered (bareChars text.toList) := by
    rw [searchForm, searchForm, String.toList_ofList, String.ofList_inj,
      searchChars_searchChars, Unicode.orderMarks_eq_self_iff, isOrdered_searchChars_iff]
  exact ⟨same, fun plain => same.mpr (isOrdered_bareChars plain)⟩

/-- The search form of a name with accents. -/
theorem searchForm_searchForm_of_accents :
    '\u034F' ∉ "  Sim\u00F3n BOL\u00CDVAR ".toList ∧
      searchForm (searchForm "  Sim\u00F3n BOL\u00CDVAR ") = searchForm "  Sim\u00F3n BOL\u00CDVAR " :=
  ⟨by decide, (searchForm_searchForm_iff _).2 (by decide)⟩

/-- **A grapheme joiner between two accents of the Hebrew script** keeps them apart the first time
only. -/
theorem searchForm_searchForm_ne_of_joiner :
    searchForm (searchForm "\u0591\u034F\u05B0") ≠ searchForm "\u0591\u034F\u05B0" := by
  decide +kernel

end HistoricalFigures.Literal
