import HistoricalFigures.Proofs.Turtle.Lexeme

/-!
**Reading the namespaces and the resources of a written document.**

* `Declares`: a reading knows the namespaces that a document is written with.
* `reads_declarations`: the declarations make them known, whatever was known before.
* `resource_formatIri`: a written resource is a lexeme that names the resource.
-/
namespace HistoricalFigures.Turtle

open Rdf (Namespaces Statement Term)

/-! ### Steps in front of a space and at the end of a line -/

theorem Reads.spaced {reading next : Reading} {kind : TokenKind} {text rest : List Char}
    (isLexeme : IsLexeme kind text (' ' :: rest))
    (step : ∀ line, reading.step ⟨kind, text, line⟩ = .ok next) :
    Reads reading (text ++ [' ']) rest next :=
  (Reads.lexeme isLexeme step).append (Reads.blank next (by decide) rest)

theorem Reads.point {reading next : Reading}
    (step : ∀ line, reading.step ⟨.punctuation, ['.'], line⟩ = .ok next) (rest : List Char) :
    Reads reading ['.', '\n'] rest next :=
  (Reads.lexeme (isLexeme_point _) step).append (Reads.blank next (by decide) rest)

/-! ### Namespaces -/

/-- A map knows the namespaces of another one. -/
def Declares (declared namespaces : Namespaces) : Prop :=
  ∀ name ∈ namespaces, declared.get? name.1 = some name.2

/-- The declaration of a namespace that can be read: its name is one, and the namespace needs no
escapes. -/
def IsDeclarable (name : String × String) : Prop :=
  IsNamespaceName name.1.toList ∧ ∀ c ∈ name.2.toList, isIriChar c = true

/-- Putting other names leaves a name as it was. -/
theorem get?_putAll_of_notMem {namespaces : Namespaces} {name : String}
    (absent : name ∉ namespaces.names) (known : Namespaces) :
    (known.putAll namespaces).get? name = known.get? name := by
  induction namespaces generalizing known with
  | nil => rfl
  | cons first rest found =>
    rw [Assoc.names_cons, List.mem_cons, not_or] at absent
    exact (found absent.2 (known.put first.1 first.2)).trans
      (Assoc.get?_put_of_ne known first.2 absent.1)

/-- **Names that are put once each are known afterwards.** -/
theorem declares_putAll {namespaces : Namespaces} (once : namespaces.names.Nodup)
    (known : Namespaces) : Declares (known.putAll namespaces) namespaces := by
  induction namespaces generalizing known with
  | nil => intro name member; exact absurd member List.not_mem_nil
  | cons first rest found =>
    rw [Assoc.names_cons, List.nodup_cons] at once
    intro name member
    rcases List.mem_cons.mp member with rfl | later
    · exact (get?_putAll_of_notMem once.1 _).trans (Assoc.get?_put_self known name.1 name.2)
    · exact found once.2 _ name later

theorem formatDeclaration_eq (name : String × String) :
    formatDeclaration name = (('@' :: ['p', 'r', 'e', 'f', 'i', 'x']) ++ [' ']) ++
      (((name.1.toList ++ ':' :: []) ++ [' ']) ++
        ((('<' :: name.2.toList ++ ['>']) ++ [' ']) ++ ['.', '\n'])) := by
  have start : "@prefix ".toList = ['@', 'p', 'r', 'e', 'f', 'i', 'x', ' '] := by decide
  have middle : ": <".toList = [':', ' ', '<'] := by decide
  have last : "> .\n".toList = ['>', ' ', '.', '\n'] := by decide
  unfold formatDeclaration
  rw [start, middle, last]
  simp only [List.append_assoc, List.cons_append, List.nil_append]

theorem takeWhile_colon {name : List Char} (absent : ':' ∉ name) (rest : List Char) :
    (name ++ ':' :: rest).takeWhile (· ≠ ':') = name := by
  rw [List.takeWhile_append_of_pos, List.takeWhile_cons_of_neg (by simp), List.append_nil]
  intro c member
  simpa using ne_of_mem_of_not_mem member absent

theorem iriValue_formatIriChars (text : List Char) (line : Nat) :
    Reading.iriValue ⟨.iri, '<' :: text.flatMap formatIriChar ++ ['>'], line⟩ =
      .ok (String.ofList text) := by
  rw [Reading.iriValue]
  simp only [List.cons_append, List.drop_one, List.tail_cons, List.dropLast_concat,
    unescape_formatIriChars]
  rfl

/-- **A declaration makes its namespace known.** -/
theorem reads_declaration {name : String × String} (declarable : IsDeclarable name)
    (known : Namespaces) (done : List Statement) (rest : List Char) :
    Reads ⟨known, done, .sentence⟩ (formatDeclaration name) rest
      ⟨known.put name.1 name.2, done, .sentence⟩ := by
  obtain ⟨grammar, safe⟩ := declarable
  have takesDirective : ∀ line, Reading.step ⟨known, done, .sentence⟩
      ⟨.directive, '@' :: ['p', 'r', 'e', 'f', 'i', 'x'], line⟩ =
        .ok ⟨known, done, .namespaceName true⟩ := by
    intro line
    have other : ('@' :: ['p', 'r', 'e', 'f', 'i', 'x']) ≠ "@base".toList := by decide
    unfold Reading.step Reading.beginSentence
    simp only [if_true, if_neg other]
  have takesName : ∀ line, Reading.step ⟨known, done, .namespaceName true⟩
      ⟨.name, name.1.toList ++ ':' :: [], line⟩ =
        .ok ⟨known, done, .namespaceIri true name.1.toList⟩ := by
    intro line
    unfold Reading.step Reading.takeNamespaceName
    simp only [takeWhile_colon (colon_notMem_of_isNamespaceName grammar), and_self, if_true]
  have takesIri : ∀ line, Reading.step ⟨known, done, .namespaceIri true name.1.toList⟩
      ⟨.iri, '<' :: name.2.toList ++ ['>'], line⟩ =
        .ok ⟨known.put name.1 name.2, done, .declarationEnd⟩ := by
    intro line
    have value := iriValue_formatIriChars name.2.toList line
    rw [formatIriChars_eq_self safe] at value
    unfold Reading.step Reading.takeNamespaceIri
    simp only [if_true, value, Except.map, String.ofList_toList]
  have takesPoint : ∀ line, Reading.step ⟨known.put name.1 name.2, done, .declarationEnd⟩
      ⟨.punctuation, ['.'], line⟩ = .ok ⟨known.put name.1 name.2, done, .sentence⟩ :=
    fun line => rfl
  have isIri : ∀ rest, IsLexeme .iri ('<' :: name.2.toList ++ ['>']) rest := by
    intro rest
    have lexeme := isLexeme_iri name.2.toList rest
    rwa [formatIriChars_eq_self safe] at lexeme
  have isDirective : ∀ rest, IsLexeme .directive ('@' :: ['p', 'r', 'e', 'f', 'i', 'x']) (' ' :: rest) :=
    fun rest => isLexeme_directive (by decide) fun c first => by
      obtain rfl : ' ' = c := by simpa using first
      decide
  rw [formatDeclaration_eq]
  exact (Reads.spaced (isDirective _) takesDirective).append
    ((Reads.spaced (isLexeme_name grammar (.inl rfl) _) takesName).append
      ((Reads.spaced (isIri _) takesIri).append (Reads.point takesPoint rest)))

/-- **The declarations of namespaces make them known**, whatever was known before. -/
theorem reads_declarations {namespaces : Namespaces}
    (declarable : ∀ name ∈ namespaces, IsDeclarable name) (known : Namespaces)
    (done : List Statement) (rest : List Char) :
    Reads ⟨known, done, .sentence⟩ (namespaces.flatMap formatDeclaration) rest
      ⟨known.putAll namespaces, done, .sentence⟩ := by
  induction namespaces generalizing known with
  | nil => exact Reads.nil _ rest
  | cons first later found =>
    rw [List.flatMap_cons]
    exact (reads_declaration (declarable first List.mem_cons_self) known done _).append
      (found (fun name member => declarable name (List.mem_cons_of_mem first member)) _)

/-! ### Resources -/

/-- A resource that is written by a name: its namespace, and what stands behind the colon. -/
theorem abbreviate?_eq_some {iri text : List Char} {name : String × String}
    (found : abbreviate? iri name = some text) :
    ∃ behind, iri = name.2.toList ++ behind ∧ isSafeLocal behind = true ∧
      text = name.1.toList ++ ':' :: behind := by
  unfold abbreviate? at found
  simp only [Option.ite_none_right_eq_some, Bool.and_eq_true, List.isPrefixOf_iff_prefix,
    Option.some.injEq] at found
  obtain ⟨⟨⟨behind, rfl⟩, safe⟩, rfl⟩ := found
  rw [List.drop_left] at safe ⊢
  exact ⟨behind, rfl, safe, rfl⟩

/-- **A written resource is a lexeme that names the resource.** -/
theorem resource_formatIri {declared namespaces : Namespaces}
    (declares : Declares declared namespaces)
    (declarable : ∀ name ∈ namespaces, IsDeclarable name) (iri : String) (rest : List Char) :
    ∃ kind, (kind = .iri ∨ kind = .name) ∧ IsLexeme kind (formatIri namespaces iri) (' ' :: rest) ∧
      ∀ expected line, Reading.resource declared expected ⟨kind, formatIri namespaces iri, line⟩ =
        .ok iri := by
  unfold formatIri
  cases abbreviated : namespaces.findSome? (abbreviate? iri.toList) with
  | none =>
    refine ⟨.iri, .inl rfl, isLexeme_iri iri.toList _, fun expected line => ?_⟩
    exact (iriValue_formatIriChars iri.toList line).trans (by rw [String.ofList_toList])
  | some text =>
    obtain ⟨name, member, found⟩ := List.exists_of_findSome?_eq_some abbreviated
    obtain ⟨behind, whole, safe, rfl⟩ := abbreviate?_eq_some found
    have grammar := (declarable name member).1
    refine ⟨.name, .inr rfl, isLexeme_name grammar (.inr safe) rest, fun expected line => ?_⟩
    have front := takeWhile_colon (colon_notMem_of_isNamespaceName grammar) behind
    have known : declared.get? (String.ofList name.1.toList) = some name.2 := by
      rw [String.ofList_toList]
      exact declares name member
    have later : (name.1.toList ++ ':' :: behind).drop (name.1.toList.length + 1) = behind := by
      rw [← List.drop_drop, List.drop_left, List.drop_one, List.tail_cons]
    have joined : name.2 ++ String.ofList behind = iri := by
      rw [← String.toList_inj, String.toList_append, String.toList_ofList, whole]
    simp only [Reading.resource, Reading.expand, front, known, later, joined]

end HistoricalFigures.Turtle
