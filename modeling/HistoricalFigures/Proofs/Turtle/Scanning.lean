import HistoricalFigures.Proofs.Loop
import HistoricalFigures.Proofs.Turtle.Pattern
import Mathlib.Data.List.Basic

/-!
**Scanning a document piece by piece.** Each turn matches the token pattern behind what is already matched,
until nothing is left or nothing matches.

* `pieceAt?`: the piece at the beginning of a text.
* `pieceAt?_spec`: it has the form of its kind and lies within the text.
* `Scan.turn`, `scanning`: one turn, and the loop.
* `scanned_tokens`: the tokens are the pieces that are neither blanks nor comments.
* `scanned_text`: the pieces together are the document.
* `isMatch_of_tokens`: the forms of the tokens.
-/
namespace HistoricalFigures.Turtle

/-! ### Pieces -/

/-- What is matched at one place: blanks or a comment, which have no kind, or a token. It begins on a
line. -/
structure Piece where
  kind : Option TokenKind
  text : List Char
  line : Nat

/-- A piece has the form of its kind, and a token is neither blanks nor a comment. -/
structure Piece.IsWellFormed (piece : Piece) : Prop where
  isMatch : IsMatch piece.kind piece.text
  isToken : piece.kind ≠ none → ¬ IsMatch none piece.text

/-- The token that a piece is. -/
def Piece.token? (piece : Piece) : Option Token :=
  piece.kind.map fun kind => ⟨kind, piece.text, piece.line⟩

/-- The piece at the beginning of a text; blanks that stand together are one piece. -/
def pieceAt? (line : Nat) : List Char → Option Piece
  | [] => none
  | c :: rest =>
    if Unicode.isBlank c then some ⟨none, (c :: rest).takeWhile Unicode.isBlank, line⟩
    else (extent? c rest).map fun (kind, extent) => ⟨kind, c :: rest.take extent, line⟩

section Pieces

variable {line : Nat} {text : List Char} {piece : Piece}

/-- What is neither a blank nor the sign of a comment begins neither. -/
theorem not_isMatch_none {c : Char} {rest : List Char} (noBlank : Unicode.isBlank c ≠ true)
    (noComment : c ≠ '#') : ¬ IsMatch none (c :: rest) := by
  intro isMatch
  cases isMatch with
  | blanks _ _ areBlanks => exact noBlank (areBlanks c List.mem_cons_self)
  | comment => exact noComment rfl

/-- **A piece is well formed and lies within the text.** -/
theorem pieceAt?_spec (found : pieceAt? line text = some piece) :
    piece.IsWellFormed ∧ piece.text <+: text := by
  cases text with
  | nil => cases found
  | cons c rest =>
    rw [pieceAt?] at found
    split at found
    · rename_i isBlank
      cases found
      refine ⟨?_, List.takeWhile_prefix _⟩
      have areBlanks : ∀ d ∈ (c :: rest).takeWhile Unicode.isBlank, Unicode.isBlank d = true :=
        List.all_eq_true.mp List.all_takeWhile
      rw [List.takeWhile_cons_of_pos isBlank] at areBlanks ⊢
      exact ⟨.blanks c _ areBlanks, fun other => absurd rfl other⟩
    · rename_i noBlank
      obtain ⟨⟨kind, extent⟩, reach, same⟩ := Option.map_eq_some_iff.mp found
      cases same
      refine ⟨⟨isMatch_of_extent? reach, fun isKind => not_isMatch_none noBlank fun comment => ?_⟩,
        (List.prefix_cons_inj c).mpr (List.take_prefix extent rest)⟩
      rw [comment, extent?_comment] at reach
      cases reach
      exact isKind rfl

theorem tokensFrom_blanks {blanks : List Char} (areBlanks : ∀ c ∈ blanks, Unicode.isBlank c = true)
    (line : Nat) (rest : List Char) :
    tokensFrom line 0 (blanks ++ rest) = tokensFrom (lineBehind line blanks) 0 rest := by
  induction blanks generalizing line with
  | nil => rfl
  | cons c later found =>
    obtain ⟨here, others⟩ := List.forall_mem_cons.mp areBlanks
    have nothing : extent? c (later ++ rest) = some (none, 0) := by rw [extent?, if_pos here]
    rw [List.cons_append, tokensFrom_cons, nothing]
    exact found others (lineAfter line c)

/-- **The tokens of a text are that of its first piece**, if it is one, and those behind it. -/
theorem tokensFrom_eq_of_pieceAt? (found : pieceAt? line text = some piece) :
    tokensFrom line 0 text =
      (tokensFrom (lineBehind line piece.text) 0 (text.drop piece.text.length)).map
        (piece.token?.toList ++ ·) := by
  have noneBefore : ∀ outcome : Except Error (List Token), outcome.map ([] ++ ·) = outcome := by
    intro outcome
    cases outcome <;> rfl
  cases text with
  | nil => cases found
  | cons c rest =>
    rw [pieceAt?] at found
    split at found
    · cases found
      have areBlanks : ∀ d ∈ (c :: rest).takeWhile Unicode.isBlank, Unicode.isBlank d = true :=
        List.all_eq_true.mp List.all_takeWhile
      rw [drop_length_takeWhile, ← tokensFrom_blanks areBlanks, List.takeWhile_append_dropWhile]
      exact (noneBefore _).symm
    · obtain ⟨⟨kind, extent⟩, reach, same⟩ := Option.map_eq_some_iff.mp found
      cases same
      have within := extent?_le reach
      -- What the piece takes is skipped.
      have skip : tokensFrom (lineAfter line c) extent rest =
          tokensFrom (lineBehind (lineAfter line c) (rest.take extent)) 0 (rest.drop extent) := by
        have here := tokensFrom_skip (lineAfter line c) (rest.take extent) (rest.drop extent)
        rwa [List.take_append_drop, List.length_take, Nat.min_eq_left within] at here
      rw [tokensFrom_cons, reach, List.length_cons, List.length_take, Nat.min_eq_left within,
        List.drop_succ_cons]
      cases kind with
      | none => exact skip.trans (noneBefore _).symm
      | some kind => exact congrArg (Except.map _) skip

/-- Where there is no piece there is no token either, unless the text ends. -/
theorem tokensFrom_eq_of_pieceAt?_none (nothing : pieceAt? line text = none) (more : text ≠ []) :
    tokensFrom line 0 text = .error (.noToken line (Unicode.firstLine (text.take 20))) := by
  cases text with
  | nil => exact absurd rfl more
  | cons c rest =>
    rw [pieceAt?] at nothing
    split at nothing
    · cases nothing
    · rw [tokensFrom_cons, Option.map_eq_none_iff.mp nothing]

end Pieces

/-! ### The loop -/

/-- A scan under way: the pieces so far, the last one first, the line, and what is left. -/
structure Scan where
  pieces : List Piece
  line : Nat
  rest : List Char

/-- The scan that a document begins with. -/
def Scan.start (text : List Char) : Scan := ⟨[], 1, text⟩

/-- The scan behind one more piece. -/
def Scan.behind (scan : Scan) (piece : Piece) : Scan where
  pieces := piece :: scan.pieces
  line := lineBehind scan.line piece.text
  rest := scan.rest.drop piece.text.length

/-- One turn of a scan. -/
def Scan.turn (scan : Scan) : Turn Scan (Except Error (List Piece)) :=
  if scan.rest = [] then .done (.ok scan.pieces.reverse)
  else match pieceAt? scan.line scan.rest with
    | some piece => .again (scan.behind piece)
    | none => .done (.error (.noToken scan.line (Unicode.firstLine (scan.rest.take 20))))

section Scanning

variable {scan next : Scan} {outcome : Except Error (List Piece)}

theorem Scan.exists_of_turn_again (turn : scan.turn = .again next) :
    ∃ piece, pieceAt? scan.line scan.rest = some piece ∧ next = scan.behind piece := by
  unfold Scan.turn at turn
  split at turn
  · cases turn
  · split at turn
    · rename_i piece found
      cases turn
      exact ⟨piece, found, rfl⟩
    · cases turn

theorem Scan.turn_done_cases (turn : scan.turn = .done outcome) :
    scan.rest = [] ∧ outcome = .ok scan.pieces.reverse ∨
      (scan.rest ≠ [] ∧ pieceAt? scan.line scan.rest = none) ∧
        outcome = .error (.noToken scan.line (Unicode.firstLine (scan.rest.take 20))) := by
  unfold Scan.turn at turn
  split at turn
  · cases turn
    exact .inl ⟨‹_›, rfl⟩
  · split at turn
    · cases turn
    · cases turn
      exact .inr ⟨⟨‹_›, ‹_›⟩, rfl⟩

/-- What is left behind a piece, with the piece in front of it, is what was left before. -/
theorem Scan.text_append_rest {piece : Piece} (found : pieceAt? scan.line scan.rest = some piece) :
    piece.text ++ (scan.behind piece).rest = scan.rest := by
  have start := List.prefix_iff_eq_take.mp (pieceAt?_spec found).2
  exact (congrArg (· ++ scan.rest.drop piece.text.length) start).trans (List.take_append_drop _ _)

end Scanning

/-- **The scan of a document.** Each turn takes a piece away from what is left. -/
def scanning : Loop Scan (Except Error (List Piece)) where
  turn := Scan.turn
  size scan := scan.rest.length
  shrinks {scan next} turn := by
    obtain ⟨piece, found, rfl⟩ := Scan.exists_of_turn_again turn
    have positive := List.length_pos_iff.mpr (pieceAt?_spec found).1.isMatch.ne_nil
    rw [← Scan.text_append_rest found, List.length_append]
    omega

/-- **The tokens that are left are those of the pieces that a scan goes on to.** -/
theorem map_run_scanning (scan : Scan) :
    (scanning.run scan).map (List.filterMap Piece.token?) =
      (tokensFrom scan.line 0 scan.rest).map (scan.pieces.reverse.filterMap Piece.token? ++ ·) := by
  induction scan using scanning.run_induction with
  | done ends =>
    rcases Scan.turn_done_cases ends with ⟨nothing, rfl⟩ | ⟨⟨more, nothing⟩, rfl⟩
    · rw [nothing]
      exact congrArg Except.ok (List.append_nil _).symm
    · rw [tokensFrom_eq_of_pieceAt?_none nothing more]
      rfl
  | again goesOn later =>
    rename_i scan _ _
    obtain ⟨piece, found, rfl⟩ := Scan.exists_of_turn_again goesOn
    rw [later, tokensFrom_eq_of_pieceAt? found, Scan.behind, List.reverse_cons, List.filterMap_append]
    rw [List.filterMap_eq_flatMap_toList Piece.token? [piece], List.flatMap_singleton]
    cases tokensFrom (lineBehind scan.line piece.text) 0 (scan.rest.drop piece.text.length) with
    | error cause => rfl
    | ok tokens => exact congrArg Except.ok (List.append_assoc _ _ _)

/-- **The tokens of a document are its pieces that are neither blanks nor comments.** -/
theorem scanned_tokens (text : List Char) :
    tokens text = (scanning.run (.start text)).map (List.filterMap Piece.token?) := by
  rw [map_run_scanning, tokens, Scan.start]
  cases tokensFrom 1 0 text <;> rfl

/-- **The pieces that a scan ends with** are those so far and the pieces of what is left of the text. -/
theorem run_scanning_ok (scan : Scan) : ∀ pieces, scanning.run scan = .ok pieces →
    ∃ more, pieces = scan.pieces.reverse ++ more ∧ (more.map Piece.text).flatten = scan.rest ∧
      ∀ piece ∈ more, piece.IsWellFormed := by
  induction scan using scanning.run_induction with
  | done ends =>
    rcases Scan.turn_done_cases ends with ⟨nothing, rfl⟩ | ⟨_, rfl⟩ <;> intro pieces same <;> cases same
    exact ⟨[], (List.append_nil _).symm, nothing.symm, fun _ member => absurd member List.not_mem_nil⟩
  | again goesOn later =>
    obtain ⟨piece, found, rfl⟩ := Scan.exists_of_turn_again goesOn
    intro pieces same
    obtain ⟨more, rfl, together, forms⟩ := later pieces same
    refine ⟨piece :: more, ?_, ?_, List.forall_mem_cons.mpr ⟨(pieceAt?_spec found).1, forms⟩⟩
    · rw [Scan.behind, List.reverse_cons, List.append_assoc, List.singleton_append]
    · rw [List.map_cons, List.flatten_cons, together, Scan.text_append_rest found]

/-- **The pieces of a document together are the document.** -/
theorem scanned_text {text : List Char} {pieces : List Piece}
    (scanned : scanning.run (.start text) = .ok pieces) :
    (pieces.map Piece.text).flatten = text ∧ ∀ piece ∈ pieces, piece.IsWellFormed := by
  obtain ⟨more, rfl, together, forms⟩ := run_scanning_ok _ pieces scanned
  exact ⟨together, forms⟩

/-- **The tokens of a document have the forms of their kinds**, and none of them is blanks or a comment. -/
theorem isMatch_of_tokens {text : List Char} {found : List Token} (lexed : tokens text = .ok found) :
    ∀ token ∈ found, IsMatch (some token.kind) token.text ∧ ¬ IsMatch none token.text := by
  rw [scanned_tokens] at lexed
  obtain ⟨pieces, scanned, rfl⟩ := eq_ok_of_map lexed
  intro token member
  obtain ⟨piece, among, isToken⟩ := List.mem_filterMap.mp member
  obtain ⟨kind, isKind, rfl⟩ := Option.map_eq_some_iff.mp isToken
  have wellFormed := (scanned_text scanned).2 piece among
  exact ⟨isKind ▸ wellFormed.isMatch, wellFormed.isToken (isKind ▸ Option.some_ne_none kind)⟩

end HistoricalFigures.Turtle
