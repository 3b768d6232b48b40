import HistoricalFigures.Assoc

/-!
The names that the ontology is written in.

* `typePredicate`, `figureClass`: what makes a resource a historical figure.
* `defaultNamespaces`: the namespaces that every document begins with.
-/
namespace HistoricalFigures.Rdf

/-- The namespaces that names stand for. -/
abbrev Namespaces := Assoc String

/-- The namespace of the RDF vocabulary. -/
def rdfNamespace : String := "http://www.w3.org/1999/02/22-rdf-syntax-ns#"

/-- The namespace of the datatypes. -/
def datatypeNamespace : String := "http://www.w3.org/2001/XMLSchema#"

/-- The namespace of the ontology. -/
def ontologyNamespace : String := "http://example.org/personasHistoricasBolivianas#"

/-- The predicate between a resource and its class. -/
def typePredicate : String := rdfNamespace ++ "type"

/-- The local name of the class of historical figures. -/
def figureClassName : String := "PersonaHistoricaBoliviana"

/-- The class of historical figures. -/
def figureClass : String := ontologyNamespace ++ figureClassName

/-- The namespaces that every document begins with. -/
def defaultNamespaces : Namespaces := [("rdf", rdfNamespace), ("phb", ontologyNamespace)]

/-- The datatype of integers. -/
def integerDatatype : String := datatypeNamespace ++ "integer"

/-- The datatype of numbers with a fraction. -/
def decimalDatatype : String := datatypeNamespace ++ "decimal"

/-- The datatype of numbers with an exponent. -/
def doubleDatatype : String := datatypeNamespace ++ "double"

/-- The datatype of truth values. -/
def booleanDatatype : String := datatypeNamespace ++ "boolean"

end HistoricalFigures.Rdf
