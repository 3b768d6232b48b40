import HistoricalFigures.Proofs.Literal.Encoded
import HistoricalFigures.Proofs.Query.Answer
import HistoricalFigures.Proofs.Query.Splitting

/-!
**Which triples an insertion drops.** What begins like a declaration is left out of a block, also
where it is a triple, and the answer tells nothing of it.

* `replaceAll_pieces`: decoding leaves the pieces of a block as they are where it leaves the block.
* `DropsNothing`: all statements that a block has as a document are in a store.
* `insertTriples_eq_ok`, `mem_insertTriples_iff`: what is in the store behind an insertion that
  succeeds.
* `dropsNothing_iff`: the insertions of plain blocks that drop nothing.
-/
namespace HistoricalFigures

namespace Literal

/-! ### Pieces of a text that decoding leaves as it is -/

theorem replaceAll_trimStart {text : List Char}
    (kept : Text.replaceAll quotedSegment text = text) :
    Text.replaceAll quotedSegment (Unicode.trimStart text) = Unicode.trimStart text := by
  have whole : text.takeWhile Unicode.isBlank ++ Unicode.trimStart text = text :=
    List.takeWhile_append_dropWhile
  have parted : IsParted (text.takeWhile Unicode.isBlank) (Unicode.trimStart text) := .inl fun c last =>
    isApart_of_isBlank (List.all_eq_true.mp List.all_takeWhile c (List.mem_of_getLast? last))
  rw [← whole] at kept
  exact (replaceAll_of_append parted kept).2

theorem replaceAll_trimEnd {text : List Char}
    (kept : Text.replaceAll quotedSegment text = text) :
    Text.replaceAll quotedSegment (Unicode.trimEnd text) = Unicode.trimEnd text := by
  obtain ⟨blanks, whole, areBlanks⟩ := Unicode.exists_trimEnd_append text
  have parted : IsParted (Unicode.trimEnd text) blanks :=
    .inr fun c first => isApart_of_isBlank (areBlanks c (List.mem_of_head? first))
  rw [whole] at kept
  exact (replaceAll_of_append parted kept).1

end Literal

namespace Query

open Rdf (Namespaces Statement Store)
open Turtle (IsPlainText)

/-- **Decoding leaves the pieces of a block as they are** where it leaves the block as it is. -/
theorem replaceAll_pieces {block : List Char}
    (kept : Text.replaceAll Literal.quotedSegment block = block) :
    ∀ piece ∈ pieces block, Text.replaceAll Literal.quotedSegment piece = piece := by
  have each : ∀ parts, stretches block = parts → ∀ stretch ∈ parts,
      Text.replaceAll Literal.quotedSegment stretch = stretch := by
    intro parts
    induction parts generalizing block with
    | nil => exact fun _ stretch member => absurd member List.not_mem_nil
    | cons first more found =>
      intro cut
      rcases exists_of_stretchesFrom cut with rfl | ⟨rest, rfl, ends, _, later⟩
      · have whole := flatten_stretches block
        rw [cut, List.flatten_singleton] at whole
        rw [List.forall_mem_singleton, whole]
        exact kept
      · have parted : Literal.IsParted first rest := .inl fun c last => by
          rw [ends, Option.mem_some_iff] at last
          rw [← last]
          exact ⟨by decide, by decide⟩
        obtain ⟨here, behind⟩ := Literal.replaceAll_of_append parted kept
        exact List.forall_mem_cons.mpr ⟨here, found behind later⟩
  intro piece member
  obtain ⟨trimmed, _⟩ := List.mem_filter.mp member
  obtain ⟨stretch, inside, rfl⟩ := List.mem_map.mp trimmed
  exact Literal.replaceAll_trimEnd (Literal.replaceAll_trimStart (each _ rfl stretch inside))

/-! ### Insertions that succeed -/

/-- Every statement that a block has as a document is in a store. -/
def DropsNothing (namespaces : Namespaces) (block : List Char) (after : Store) : Prop :=
  ∀ statements, Turtle.parse namespaces (String.ofList block) = .ok statements →
    ∀ statement ∈ statements, statement ∈ after.statements

variable {namespaces : Namespaces} {triples : List String} {store after : Store}
  {told : List Statement}

/-- An insertion that succeeds tells the statements of each piece that is no declaration. -/
theorem mem_told_of_piece {block : List Char}
    (reads : readTriples namespaces (splitTriples (String.ofList block)) = .ok told)
    {piece : List Char} (member : piece ∈ pieces block) (isTriple : isDeclaration piece = false)
    (ends : piece.getLast? = some '.')
    (kept : Text.replaceAll Literal.quotedSegment piece = piece) {part : List Statement}
    (parsed : Turtle.parse namespaces (String.ofList piece) = .ok part) :
    ∀ statement ∈ part, statement ∈ told := by
  obtain ⟨parts, each, rfl⟩ := eq_ok_of_map reads
  have inside : String.ofList piece ∈ splitTriples (String.ofList block) := by
    rw [splitTriples, String.toList_ofList]
    exact List.mem_map_of_mem (List.mem_filter.mpr ⟨member, by rw [isTriple]; rfl⟩)
  obtain ⟨other, among, read⟩ := (mem_of_mapM_eq_ok each).1 _ inside
  obtain ⟨before, whole⟩ := List.getLast?_eq_some_iff.mp ends
  have plain : Literal.decodeQuotedSegments (String.ofList piece) = String.ofList piece := by
    rw [Literal.decodeQuotedSegments, String.toList_ofList, kept]
  rw [readTriple_eq (String.toList_ofList.trans whole) plain parsed] at read
  split at read
  · cases read
  · cases read
    exact fun statement member => List.mem_flatten_of_mem among member

theorem triples_of_parse {text : String} {block : List Char}
    (parsed : parse text = .ok ⟨namespaces, .insert triples⟩)
    (hasBlock : insertBlock? (Unicode.trim text.toList) = some block) :
    triples = splitTriples (String.ofList block) := by
  have classified := classify_of_parse parsed
  unfold parse at parsed
  rw [classified, ok_bind] at parsed
  obtain ⟨body, reads, same⟩ := eq_ok_of_bind parsed
  cases same
  rw [Body.kind, parseBody, hasBlock] at reads
  cases reads
  rfl

/-- **The insertions of plain blocks that drop nothing** are those in which each statement of a triple
that begins like a declaration is in the store already or is that of another triple. -/
theorem dropsNothing_iff {text : String} {block : List Char}
    (parsed : parse text = .ok ⟨namespaces, .insert triples⟩)
    (hasBlock : insertBlock? (Unicode.trim text.toList) = some block) (plain : IsPlainText block)
    (unchanged : Literal.decodeQuotedSegments (String.ofList block) = String.ofList block)
    {statements : List Statement}
    (accepted : Turtle.parse namespaces (String.ofList block) = .ok statements)
    (inserts : insertTriples namespaces triples store = (after, .ok told)) :
    DropsNothing namespaces block after ↔
      ∀ piece ∈ pieces block, isDeclaration piece = true →
        ∀ dropped, Turtle.parse namespaces (String.ofList piece) = .ok dropped →
          ∀ statement ∈ dropped, statement ∈ store.statements ∨ statement ∈ told := by
  obtain rfl := triples_of_parse parsed hasBlock
  obtain ⟨reads, among⟩ := insertTriples_eq_ok inserts
  obtain ⟨ends, tolds, rfl, parses⟩ := parse_pieces plain accepted
  have kept : Text.replaceAll Literal.quotedSegment block = block := by
    have same := congrArg String.toList unchanged
    rwa [Literal.decodeQuotedSegments, String.toList_ofList, String.toList_ofList] at same
  constructor
  · intro dropsNothing piece member _ dropped parsed statement inside
    obtain ⟨part, listed, same⟩ := (mem_of_mapM_eq_ok parses).1 piece member
    obtain rfl := Except.ok.inj (same.symm.trans parsed)
    exact (among statement).mp
      (dropsNothing _ accepted statement (List.mem_flatten_of_mem listed inside))
  · intro found statements same statement inside
    obtain rfl := Except.ok.inj (accepted.symm.trans same)
    obtain ⟨part, listed, inside⟩ := List.mem_flatten.mp inside
    obtain ⟨piece, member, parsed⟩ := (mem_of_mapM_eq_ok parses).2 part listed
    rw [among]
    cases isDeclaration_ : isDeclaration piece with
    | true => exact found piece member isDeclaration_ part parsed statement inside
    | false =>
      exact .inr (mem_told_of_piece reads member isDeclaration_ (ends piece member)
        (replaceAll_pieces kept piece member) parsed statement inside)

/-- **A name in a namespace called prefix begins like a declaration**, and its triple is dropped. -/
theorem dropsNothing_iff_of_prefixName : ∃ namespaces triples block statements after told,
    parse "PREFIX prefix: <http://x/> INSERT DATA \x7b <a> <b> <c> . prefix:a <b> <c> . \x7d" =
        .ok ⟨namespaces, .insert triples⟩ ∧
      insertBlock? (Unicode.trim
        "PREFIX prefix: <http://x/> INSERT DATA \x7b <a> <b> <c> . prefix:a <b> <c> . \x7d".toList) =
          some block ∧
      IsPlainText block ∧
      Literal.decodeQuotedSegments (String.ofList block) = String.ofList block ∧
      Turtle.parse namespaces (String.ofList block) = .ok statements ∧
      insertTriples namespaces triples Store.empty = (after, .ok told) ∧
      (DropsNothing namespaces block after ↔
        ∀ piece ∈ pieces block, isDeclaration piece = true →
          ∀ dropped, Turtle.parse namespaces (String.ofList piece) = .ok dropped →
            ∀ statement ∈ dropped, statement ∈ Store.empty.statements ∨ statement ∈ told) := by
  have parsed : parse
      "PREFIX prefix: <http://x/> INSERT DATA \x7b <a> <b> <c> . prefix:a <b> <c> . \x7d" =
        .ok ⟨Rdf.defaultNamespaces.put "prefix" "http://x/", .insert ["<a> <b> <c> ."]⟩ := by rfl
  have hasBlock : insertBlock? (Unicode.trim
      "PREFIX prefix: <http://x/> INSERT DATA \x7b <a> <b> <c> . prefix:a <b> <c> . \x7d".toList) =
        some " <a> <b> <c> . prefix:a <b> <c> . ".toList := by rfl
  have plain := Turtle.isPlainText_of_isPlainFrom
    (by decide +kernel : Turtle.isPlainFrom 0 " <a> <b> <c> . prefix:a <b> <c> . ".toList = true)
  have unchanged : Literal.decodeQuotedSegments (String.ofList " <a> <b> <c> . prefix:a <b> <c> . ".toList) =
      String.ofList " <a> <b> <c> . prefix:a <b> <c> . ".toList := by decide +kernel
  have accepted : Turtle.parse (Rdf.defaultNamespaces.put "prefix" "http://x/")
      (String.ofList " <a> <b> <c> . prefix:a <b> <c> . ".toList) =
        .ok [⟨"a", "b", .uri "c"⟩, ⟨"http://x/a", "b", .uri "c"⟩] := by rfl
  have inserts : insertTriples (Rdf.defaultNamespaces.put "prefix" "http://x/") ["<a> <b> <c> ."]
      Store.empty = (⟨[⟨"a", "b", .uri "c"⟩], by decide, by decide⟩, .ok [⟨"a", "b", .uri "c"⟩]) := by rfl
  exact ⟨_, _, _, _, _, _, parsed, hasBlock, plain.2, unchanged, accepted, inserts,
    dropsNothing_iff parsed hasBlock plain.2 unchanged accepted inserts⟩

/-- **A string between triple quotes is cut within**: its statement is lost, and the halves are added
as two others. -/
theorem not_dropsNothing_of_longString : ∃ namespaces triples block statements after told,
    parse "INSERT DATA \x7b <x> <y> \x22\x22\x22a\x22. <x> <y> \x22c\x22\x22\x22 . \x7d" =
        .ok ⟨namespaces, .insert triples⟩ ∧
      insertBlock? (Unicode.trim
        "INSERT DATA \x7b <x> <y> \x22\x22\x22a\x22. <x> <y> \x22c\x22\x22\x22 . \x7d".toList) =
          some block ∧
      Literal.decodeQuotedSegments (String.ofList block) = String.ofList block ∧
      Turtle.parse namespaces (String.ofList block) = .ok statements ∧
      insertTriples namespaces triples Store.empty = (after, .ok told) ∧
      ¬ DropsNothing namespaces block after := by
  have parsed : parse
      "INSERT DATA \x7b <x> <y> \x22\x22\x22a\x22. <x> <y> \x22c\x22\x22\x22 . \x7d" =
        .ok ⟨Rdf.defaultNamespaces,
          .insert ["<x> <y> \x22\x22\x22a\x22.", "<x> <y> \x22c\x22\x22\x22 ."]⟩ := by rfl
  have hasBlock : insertBlock? (Unicode.trim
      "INSERT DATA \x7b <x> <y> \x22\x22\x22a\x22. <x> <y> \x22c\x22\x22\x22 . \x7d".toList) =
        some " <x> <y> \x22\x22\x22a\x22. <x> <y> \x22c\x22\x22\x22 . ".toList := by rfl
  have unchanged : Literal.decodeQuotedSegments
      (String.ofList " <x> <y> \x22\x22\x22a\x22. <x> <y> \x22c\x22\x22\x22 . ".toList) =
        String.ofList " <x> <y> \x22\x22\x22a\x22. <x> <y> \x22c\x22\x22\x22 . ".toList := by
    decide +kernel
  have accepted : Turtle.parse Rdf.defaultNamespaces
      (String.ofList " <x> <y> \x22\x22\x22a\x22. <x> <y> \x22c\x22\x22\x22 . ".toList) =
        .ok [⟨"x", "y", .plain "a\x22. <x> <y> \x22c"⟩] := by rfl
  have left : (insertTriples Rdf.defaultNamespaces
      ["<x> <y> \x22\x22\x22a\x22.", "<x> <y> \x22c\x22\x22\x22 ."] Store.empty).1.statements =
        [⟨"x", "y", .plain "\x22\x22a"⟩, ⟨"x", "y", .plain "c\x22\x22"⟩] := by decide +kernel
  have works : (insertTriples Rdf.defaultNamespaces
      ["<x> <y> \x22\x22\x22a\x22.", "<x> <y> \x22c\x22\x22\x22 ."] Store.empty).2.isOk = true := by
    decide +kernel
  rcases inserts : insertTriples Rdf.defaultNamespaces
    ["<x> <y> \x22\x22\x22a\x22.", "<x> <y> \x22c\x22\x22\x22 ."] Store.empty with
    ⟨after, failure | told⟩
  · rw [inserts] at works
    cases works
  · rw [inserts] at left
    refine ⟨_, _, _, _, _, _, parsed, hasBlock, unchanged, accepted, inserts, fun dropsNothing => ?_⟩
    have member := dropsNothing _ accepted _ List.mem_cons_self
    rw [left] at member
    revert member
    decide

end Query

end HistoricalFigures
