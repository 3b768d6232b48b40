import HistoricalFigures.Json.Basic

/-!
Terms and statements.

* `Term`: what stands in object position.
* `Statement`: a subject, a predicate and an object.
* `Term.toJson`: a term as an entry of a query result.
-/
namespace HistoricalFigures.Rdf

/-- The kinds of terms. Kinds of other sources keep their name. -/
inductive TermKind where
  | uri
  | literal
  | other (name : String)
  deriving DecidableEq

/-- The name of a kind. -/
def TermKind.name : TermKind → String
  | .uri => "uri"
  | .literal => "literal"
  | .other name => name

/-- The kind with a name. -/
def TermKind.ofName (name : String) : TermKind :=
  if name = "uri" then .uri else if name = "literal" then .literal else .other name

/-- What stands in object position. A missing datatype or language differs from an empty one. -/
structure Term where
  value : String
  kind : TermKind
  datatype : Option String
  language : Option String
  deriving DecidableEq

namespace Term

/-- The term that names a resource. -/
def uri (value : String) : Term := ⟨value, .uri, none, none⟩

/-- A literal without datatype and language. -/
def plain (value : String) : Term := ⟨value, .literal, none, none⟩

/-- A literal of a datatype. -/
def typed (value datatype : String) : Term := ⟨value, .literal, some datatype, none⟩

/-- A literal in a language. -/
def tagged (value language : String) : Term := ⟨value, .literal, none, some language⟩

end Term

/-- A member of a JSON object that is left out where the text is missing or empty. -/
def optionalMember (name : String) : Option String → Assoc Json
  | some value => if value = "" then [] else [(name, .str value)]
  | none => []

/-- The entry of a query result for a value of a kind. -/
def bindingJson (value : Json) (kind : TermKind) (datatype language : Option String) : Json :=
  .obj ([("value", value), ("type", .str kind.name)] ++ optionalMember "datatype" datatype ++
    optionalMember "xml:lang" language)

/-- A term as an entry of a query result. -/
def Term.toJson (term : Term) : Json :=
  bindingJson (.str term.value) term.kind term.datatype term.language

/-- A subject, a predicate and an object. -/
structure Statement where
  subject : String
  predicate : String
  object : Term
  deriving DecidableEq

/-- Whether a statement has a subject and a predicate. -/
def Statement.IsComplete (statement : Statement) : Prop :=
  statement.subject ≠ "" ∧ statement.predicate ≠ ""

instance (statement : Statement) : Decidable statement.IsComplete :=
  inferInstanceAs (Decidable (_ ∧ _))

end HistoricalFigures.Rdf
