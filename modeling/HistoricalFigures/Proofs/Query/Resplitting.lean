import HistoricalFigures.Proofs.Query.Pieces
import HistoricalFigures.Proofs.Turtle.Abbreviation

/-!
**Splitting a block loses nothing but blanks, and splits its triples again as they are.** What is trimmed off
at a cut are blanks outside, so that a piece begins where its stretch does, and ends there as well.

* `IsClosed`: a text that is cut off behind its end wherever a blank follows.
* `isClosed_of_stretchesFrom`: whatever follows a stretch that is cut off may be exchanged.
* `IsSplit`: pieces that are split as they are; the last one may be left open.
* `isSplit_trimmed`: the pieces of a block, and where they stand in it.
* `splitTriples_stable`: the whole.
-/
namespace HistoricalFigures

namespace Unicode

/-- What is trimmed off are blanks at the start and at the end. -/
theorem exists_trim_append (text : List Char) : ∃ before behind,
    text = before ++ (trim text ++ behind) ∧ (∀ c ∈ before, isBlank c = true) ∧
      ∀ c ∈ behind, isBlank c = true := by
  obtain ⟨behind, whole, areBlanks⟩ := exists_trimEnd_append (trimStart text)
  refine ⟨text.takeWhile isBlank, behind, ?_, List.all_eq_true.mp List.all_takeWhile, areBlanks⟩
  rw [trim, ← whole]
  exact List.takeWhile_append_dropWhile.symm

/-- Of a text that ends with another character blanks at the start alone are trimmed off. -/
theorem exists_append_trim {text : List Char} {last : Char} (ends : text.getLast? = some last)
    (other : isBlank last = false) :
    ∃ before, text = before ++ trim text ∧ ∀ c ∈ before, isBlank c = true := by
  refine ⟨text.takeWhile isBlank, ?_, List.all_eq_true.mp List.all_takeWhile⟩
  rw [(trim_of_getLast? ends other).1]
  exact List.takeWhile_append_dropWhile.symm

/-- Nothing is left to be trimmed off. -/
theorem trim_trim (text : List Char) : trim (trim text) = trim text := by
  by_cases nothing : trim text = []
  · rw [nothing]
    rfl
  obtain ⟨front, last, ends, other⟩ := exists_of_trimEnd_ne_nil nothing
  have getLast : (trim text).getLast? = some last := by rw [trim, ends, List.getLast?_concat]
  rw [(trim_of_getLast? getLast other).1]
  -- What is trimmed at both ends begins as what is trimmed at the start does.
  cases start : trim text with
  | nil => exact absurd start nothing
  | cons c later =>
    obtain ⟨more, whole⟩ := isPrefix_dropEndWhile isBlank (trimStart text)
    have begins : trimStart text = c :: (later ++ more) := by
      rw [← whole, ← List.cons_append, ← start]
      rfl
    refine List.dropWhile_cons_of_neg ?_
    rw [isBlank_of_trimStart begins]
    exact Bool.false_ne_true

end Unicode

namespace Query

open Turtle (Breaks IsSpaced)

/-! ### Stretches that are cut off -/

/-- A text is cut off behind its end wherever a blank follows, or nothing. -/
def IsClosed (text : List Char) : Prop :=
  ∀ rest, Breaks rest → stretches (text ++ rest) = text :: stretches rest

section Cuts

variable {place : Place} {text rest : List Char} {more : List (List Char)}

/-- Only the last stretch may be empty. -/
theorem eq_nil_of_stretchesFrom (cut : stretchesFrom place text = [] :: more) : more = [] := by
  cases text with
  | nil =>
    cases cut
    rfl
  | cons c later =>
    unfold stretchesFrom at cut
    dsimp only at cut
    split at cut
    · cases cut
    · split at cut <;> cases cut

/-- **A stretch is cut off whatever follows**, as long as a blank or nothing does. -/
theorem isClosed_of_stretchesFrom (cut : stretchesFrom place (text ++ rest) = text :: more)
    (others : more ≠ []) {other : List Char} (breaks : Breaks other) :
    stretchesFrom place (text ++ other) = text :: stretches other := by
  induction text generalizing place with
  | nil => exact absurd (eq_nil_of_stretchesFrom cut) others
  | cons c later found =>
    rw [List.cons_append, stretchesFrom] at cut
    cases ends : place.endsTriple c (later ++ rest) with
    | true =>
      rw [ends, if_pos rfl] at cut
      obtain rfl : [] = later := (List.cons.inj (List.cons.inj cut).1).2
      simp only [Place.endsTriple, Bool.and_eq_true, decide_eq_true_eq] at ends
      obtain ⟨⟨rfl, rfl⟩, _⟩ := ends
      rw [List.singleton_append, stretchesFrom, Place.endsTriple, breaks.all_head?]
      rfl
    | false =>
      rw [ends, if_neg Bool.false_ne_true] at cut
      split at cut
      · rename_i nothing
        exact absurd nothing (stretchesFrom_ne_nil _ _)
      · rename_i first more' parts
        obtain ⟨same, rfl⟩ := List.cons.inj cut
        obtain rfl := (List.cons.inj same).2
        have again := found parts
        cases first with
        | nil => exact absurd (eq_nil_of_stretchesFrom parts) others
        | cons d first =>
          have goesOn : place.endsTriple c (d :: first ++ other) = false := ends
          rw [List.cons_append, stretchesFrom, goesOn, if_neg Bool.false_ne_true, again]

/-- Blanks before a stretch are a part of it. -/
theorem stretches_blanks_append {blanks : List Char} (areBlanks : ∀ c ∈ blanks, Unicode.isBlank c = true)
    (text : List Char) : stretches (blanks ++ text) = (stretches text).modifyHead (blanks ++ ·) :=
  passes_blanks ⟨blanks, areBlanks⟩ text

/-- A stretch is cut off where it is without the blanks before it. -/
theorem eq_of_stretches_blanks_append {blanks : List Char}
    (areBlanks : ∀ c ∈ blanks, Unicode.isBlank c = true) {front : List Char}
    (cut : stretches (blanks ++ text) = (blanks ++ front) :: more) : stretches text = front :: more := by
  rw [stretches_blanks_append areBlanks] at cut
  cases parts : stretches text with
  | nil => exact absurd parts (stretchesFrom_ne_nil _ text)
  | cons first others =>
    rw [parts, List.modifyHead_cons] at cut
    obtain ⟨same, rfl⟩ := List.cons.inj cut
    rw [List.append_cancel_left same]

/-- **A text that is not cut is not cut without the blanks around it.** -/
theorem stretches_trim (uncut : stretches text = [text]) :
    stretches (Unicode.trim text) = [Unicode.trim text] := by
  obtain ⟨before, behind, whole, leading, trailing⟩ := Unicode.exists_trim_append text
  generalize Unicode.trim text = inner at whole ⊢
  subst whole
  have start := eq_of_stretches_blanks_append leading uncut
  obtain ⟨front, last, cut⟩ := stretchesFrom_append .outside inner
  have breaks : Breaks behind := fun c first => trailing c (List.mem_of_head? first)
  rw [stretches, cut behind breaks, stretchesFrom_blanks _ trailing, List.modifyHead_cons] at start
  obtain ⟨rfl, same⟩ : front = [] ∧ [last ++ behind] = [inner ++ behind] := by
    cases front with
    | nil => exact ⟨rfl, start⟩
    | cons first others => exact absurd (List.cons.inj start).2 (by simp)
  obtain rfl := List.append_cancel_right (List.cons.inj same).1
  have alone := cut [] Turtle.breaks_nil
  rwa [List.append_nil, stretchesFrom, List.modifyHead_cons, List.append_nil] at alone

end Cuts

/-- A space before a block does not count. -/
theorem pieces_space_cons (text : List Char) : pieces (' ' :: text) = pieces text := by
  have first : stretches (' ' :: text) = (stretches text).modifyHead (' ' :: ·) :=
    stretches_blanks_append (List.forall_mem_singleton.mpr (by decide)) text
  rw [pieces, first]
  cases cut : stretches text with
  | nil => exact absurd cut (stretchesFrom_ne_nil _ text)
  | cons part others =>
    rw [pieces, cut]
    rfl

/-- The pieces of a block that begins with a piece of its own. -/
theorem IsClosed.pieces_append {piece rest : List Char} (closed : IsClosed piece)
    (kept : trimmed [piece] = [piece]) (breaks : Breaks rest) :
    pieces (piece ++ rest) = piece :: pieces rest := by
  have here : pieces (piece ++ rest) = trimmed ([piece] ++ stretches rest) :=
    congrArg trimmed (closed rest breaks)
  rw [here, trimmed_append, kept]
  rfl

/-! ### Pieces that are split as they are -/

/-- Pieces without blanks around them that are split as they are: each is cut off behind its point, and the
last one may be left open. -/
inductive IsSplit : List (List Char) → Prop
  | nil : IsSplit []
  | last {piece : List Char} (uncut : stretches piece = [piece]) (kept : trimmed [piece] = [piece]) :
    IsSplit [piece]
  | cons {piece : List Char} {more : List (List Char)} (closed : IsClosed piece)
      (ends : piece.getLast? = some '.') (kept : trimmed [piece] = [piece]) (later : IsSplit more) :
    IsSplit (piece :: more)

namespace IsSplit

variable {parts : List (List Char)}

/-- Some of the pieces may be left out. -/
theorem filter (isSplit : IsSplit parts) (keep : List Char → Bool) : IsSplit (parts.filter keep) := by
  induction isSplit with
  | nil => exact .nil
  | @last piece uncut kept =>
    cases keeps : keep piece with
    | true =>
      rw [List.filter_cons_of_pos keeps]
      exact .last uncut kept
    | false =>
      rw [List.filter_cons_of_neg (by rw [keeps]; exact Bool.false_ne_true)]
      exact .nil
  | @cons piece more closed ends kept _ found =>
    cases keeps : keep piece with
    | true =>
      rw [List.filter_cons_of_pos keeps]
      exact .cons closed ends kept found
    | false =>
      rw [List.filter_cons_of_neg (by rw [keeps]; exact Bool.false_ne_true)]
      exact found

/-- Every piece but the last ends with its point. -/
theorem getLast?_of_mem_dropLast (isSplit : IsSplit parts) :
    ∀ piece ∈ parts.dropLast, piece.getLast? = some '.' := by
  induction isSplit with
  | nil | last => exact fun piece member => absurd member List.not_mem_nil
  | @cons piece more _ ends _ _ found =>
    cases more with
    | nil => exact fun piece member => absurd member List.not_mem_nil
    | cons next others => exact List.forall_mem_cons.mpr ⟨ends, found⟩

/-- **Joined by single spaces the pieces are split as they were.** -/
theorem pieces_intercalate (isSplit : IsSplit parts) : pieces ([' '].intercalate parts) = parts := by
  induction isSplit with
  | nil => rfl
  | last uncut kept =>
    rw [List.intercalate_singleton]
    exact (congrArg trimmed uncut).trans kept
  | @cons piece more closed _ kept _ found =>
    cases more with
    | nil =>
      have alone := closed.pieces_append kept Turtle.breaks_nil
      rw [List.append_nil] at alone
      rw [List.intercalate_singleton]
      exact alone
    | cons next others =>
      rw [List.intercalate_cons_cons, List.append_assoc, List.singleton_append,
        closed.pieces_append kept (Turtle.breaks_space _), pieces_space_cons, found]

end IsSplit

/-- Blanks may stand before a text that consists of words. -/
theorem isSpaced_blanks_append {words : List (List Char)} {blanks text : List Char}
    (areBlanks : ∀ c ∈ blanks, Unicode.isBlank c = true) (spaced : IsSpaced words text) :
    IsSpaced words (blanks ++ text) := by
  induction blanks with
  | nil => exact spaced
  | cons c later found =>
    obtain ⟨here, others⟩ := List.forall_mem_cons.mp areBlanks
    exact .blank here (found others)

/-- The characters of a text that are no blanks are those of its words. -/
theorem filter_of_isSpaced {words : List (List Char)} {text : List Char} (spaced : IsSpaced words text) :
    words.flatten.filter (fun c => !Unicode.isBlank c) = text.filter fun c => !Unicode.isBlank c := by
  induction spaced with
  | nil => rfl
  | blank isBlank _ found =>
    rw [found, List.filter_cons_of_neg (by rw [isBlank]; exact Bool.false_ne_true)]
  | word _ _ found => rw [List.flatten_cons, List.filter_append, List.filter_append, found]

/-- What is kept of a stretch is kept again. -/
theorem trimmed_trim {part : List Char} (nonempty : Unicode.trim part ≠ []) :
    trimmed [Unicode.trim part] = [Unicode.trim part] := by
  rw [trimmed_singleton (by rwa [Unicode.trim_trim]), Unicode.trim_trim]

/-- A text that ends with its point is cut off where it is without the blanks before it. -/
theorem IsClosed.trim {text : List Char} (closed : IsClosed text) (ends : text.getLast? = some '.') :
    IsClosed (Unicode.trim text) := by
  obtain ⟨before, whole, leading⟩ := Unicode.exists_append_trim ends (by decide)
  intro rest breaks
  refine eq_of_stretches_blanks_append leading ?_
  rw [← List.append_assoc, ← whole]
  exact closed rest breaks

/-- A block that is not cut has one piece or none. -/
theorem isSplit_uncut {block : List Char} (uncut : stretches block = [block]) :
    IsSplit (trimmed [block]) ∧ IsSpaced (trimmed [block]) block := by
  obtain ⟨before, behind, whole, leading, trailing⟩ := Unicode.exists_trim_append block
  have tail : IsSpaced [] behind := by
    have all := isSpaced_blanks_append trailing IsSpaced.nil
    rwa [List.append_nil] at all
  by_cases nothing : Unicode.trim block = []
  · have none_ : trimmed [block] = [] := by
      rw [trimmed, List.map_singleton, nothing]
      rfl
    rw [nothing, List.nil_append] at whole
    rw [none_, whole]
    exact ⟨.nil, isSpaced_blanks_append leading tail⟩
  · have breaks : Breaks behind := fun c head => trailing c (List.mem_of_head? head)
    have all : IsSpaced [Unicode.trim block] (before ++ (Unicode.trim block ++ behind)) :=
      isSpaced_blanks_append leading (.word breaks tail)
    rw [← whole] at all
    rw [trimmed_singleton nothing]
    exact ⟨.last (stretches_trim uncut) (trimmed_trim nothing), all⟩

/-- **The pieces of a block are split as they are**, and there are only blanks between them. -/
theorem isSplit_trimmed (parts : List (List Char)) : ∀ block, stretches block = parts →
    IsSplit (trimmed parts) ∧ IsSpaced (trimmed parts) block := by
  induction parts with
  | nil => exact fun block cut => absurd cut (stretchesFrom_ne_nil _ block)
  | cons first more found =>
    intro block cut
    rcases exists_of_stretchesFrom cut with rfl | ⟨rest, rfl, ends, breaks, cutRest⟩
    · obtain rfl : first = block := by
        have flat := flatten_stretches block
        rwa [cut, List.flatten_singleton] at flat
      exact isSplit_uncut cut
    · have closed : IsClosed first := fun other =>
        isClosed_of_stretchesFrom cut (cutRest ▸ stretchesFrom_ne_nil _ rest)
      obtain ⟨before, whole, leading⟩ := Unicode.exists_append_trim ends (by decide)
      have trimEnds : (Unicode.trim first).getLast? = some '.' := by
        obtain ⟨trims, trimEnds⟩ := Unicode.trim_of_getLast? ends (by decide)
        rwa [trims]
      have nonempty : Unicode.trim first ≠ [] := fun nothing => by
        rw [nothing] at trimEnds
        cases trimEnds
      obtain ⟨isSplit, others⟩ := found rest cutRest
      have all : IsSpaced (Unicode.trim first :: trimmed more) (before ++ (Unicode.trim first ++ rest)) :=
        isSpaced_blanks_append leading (.word breaks others)
      rw [← List.append_assoc, ← whole] at all
      have kept : trimmed (first :: more) = Unicode.trim first :: trimmed more := by
        rw [← List.singleton_append, trimmed_append, trimmed_singleton nonempty]
        rfl
      rw [kept]
      exact ⟨.cons (closed.trim ends) trimEnds (trimmed_trim nonempty) isSplit, all⟩

theorem isSplit_pieces (block : List Char) : IsSplit (pieces block) ∧ IsSpaced (pieces block) block :=
  isSplit_trimmed (stretches block) block rfl

/-- **Splitting a block loses nothing but blanks, and is stable.** The pieces stand in the block one after
the other, and all that is not in them is blanks; every piece but the last ends with its point. Joined by
single spaces the triples of a block are split as they were. -/
theorem splitTriples_stable (block : String) :
    IsSpaced (pieces block.toList) block.toList ∧
      (pieces block.toList).flatten.filter (fun c => !Unicode.isBlank c) =
        block.toList.filter (fun c => !Unicode.isBlank c) ∧
      (∀ piece ∈ (pieces block.toList).dropLast, piece.getLast? = some '.') ∧
      splitTriples (" ".intercalate (splitTriples block)) = splitTriples block := by
  obtain ⟨isSplit, spaced⟩ := isSplit_pieces block.toList
  refine ⟨spaced, filter_of_isSpaced spaced, isSplit.getLast?_of_mem_dropLast, ?_⟩
  have kept := isSplit.filter fun piece => !isDeclaration piece
  have joined : (" ".intercalate (splitTriples block)).toList =
      [' '].intercalate ((pieces block.toList).filter fun piece => !isDeclaration piece) := by
    have written : String.toList ∘ String.ofList = id := funext fun _ => String.toList_ofList
    rw [String.toList_intercalate, splitTriples, List.map_map, written, List.map_id]
    rfl
  rw [splitTriples, joined, kept.pieces_intercalate, List.filter_filter]
  simp only [Bool.and_self]
  rfl

/-- A point in a string ends no triple, and the last string is left open. -/
example : splitTriples "<a> <b> \x27x. y\x27 .  <c> <d> \x22z. " =
    ["<a> <b> \x27x. y\x27 .", "<c> <d> \x22z."] := by
  decide +kernel

end Query

end HistoricalFigures
