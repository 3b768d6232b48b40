import HistoricalFigures.Action
import HistoricalFigures.Assoc
import HistoricalFigures.Command.Arguments
import HistoricalFigures.Command.Basic
import HistoricalFigures.Command.Kind
import HistoricalFigures.Command.Run
import HistoricalFigures.Dataset.Engine
import HistoricalFigures.Dataset.Gateway
import HistoricalFigures.Dbpedia.QueryText
import HistoricalFigures.Dbpedia.Search
import HistoricalFigures.Disk.Basic
import HistoricalFigures.Disk.Directories
import HistoricalFigures.Disk.Files
import HistoricalFigures.Disk.Path
import HistoricalFigures.Encoding.Base64
import HistoricalFigures.Encoding.Percent
import HistoricalFigures.Encoding.Utf8
import HistoricalFigures.Failure
import HistoricalFigures.Federated
import HistoricalFigures.Figure.Basic
import HistoricalFigures.Figure.Entity
import HistoricalFigures.Figure.Identifier
import HistoricalFigures.Figure.QueryText
import HistoricalFigures.Figure.Service
import HistoricalFigures.Fuseki.Client
import HistoricalFigures.Fuseki.QueryText
import HistoricalFigures.Http.Headers
import HistoricalFigures.Import.FromDbpedia
import HistoricalFigures.Import.History
import HistoricalFigures.Json.Access
import HistoricalFigures.Json.Basic
import HistoricalFigures.Json.Lexeme
import HistoricalFigures.Json.Printing
import HistoricalFigures.Json.Reading
import HistoricalFigures.Literal.Encoded
import HistoricalFigures.Literal.Escaping
import HistoricalFigures.Literal.SearchForm
import HistoricalFigures.Main
import HistoricalFigures.Mappings
import HistoricalFigures.Number.Binary64
import HistoricalFigures.Number.Hex
import HistoricalFigures.Number.Integer
import HistoricalFigures.Number.Shortest
import HistoricalFigures.Proofs.Action
import HistoricalFigures.Proofs.Dataset.Document
import HistoricalFigures.Proofs.Dataset.Elsewhere
import HistoricalFigures.Proofs.Dataset.Execution
import HistoricalFigures.Proofs.Dataset.Failing
import HistoricalFigures.Proofs.Dataset.Gateway
import HistoricalFigures.Proofs.Dataset.Importing
import HistoricalFigures.Proofs.Dataset.Listing
import HistoricalFigures.Proofs.Dataset.Loading
import HistoricalFigures.Proofs.Dataset.ReadOnly
import HistoricalFigures.Proofs.Dataset.Requests
import HistoricalFigures.Proofs.Dataset.Runs
import HistoricalFigures.Proofs.Dataset.Serialization
import HistoricalFigures.Proofs.Dataset.Serving
import HistoricalFigures.Proofs.Dataset.Within
import HistoricalFigures.Proofs.Dbpedia.Completion
import HistoricalFigures.Proofs.Dbpedia.Details
import HistoricalFigures.Proofs.Dbpedia.Enrichment
import HistoricalFigures.Proofs.Dbpedia.Search
import HistoricalFigures.Proofs.Disk.Extension
import HistoricalFigures.Proofs.Disk.Place
import HistoricalFigures.Proofs.Disk.Replacement
import HistoricalFigures.Proofs.Disk.Way
import HistoricalFigures.Proofs.Disk.Writing
import HistoricalFigures.Proofs.Encoding.Base64
import HistoricalFigures.Proofs.Figure.Description
import HistoricalFigures.Proofs.Figure.Entity
import HistoricalFigures.Proofs.Figure.Identifier
import HistoricalFigures.Proofs.Figure.Insertion
import HistoricalFigures.Proofs.Figure.QueryText
import HistoricalFigures.Proofs.Figure.Rows
import HistoricalFigures.Proofs.Figure.Search
import HistoricalFigures.Proofs.Figure.Service
import HistoricalFigures.Proofs.Fuseki.Failing
import HistoricalFigures.Proofs.Import.Backends
import HistoricalFigures.Proofs.Import.History
import HistoricalFigures.Proofs.Import.Population
import HistoricalFigures.Proofs.Inquiry
import HistoricalFigures.Proofs.Json.Access
import HistoricalFigures.Proofs.Json.Printing
import HistoricalFigures.Proofs.Literal.DecodedForm
import HistoricalFigures.Proofs.Literal.Decoding
import HistoricalFigures.Proofs.Literal.Encoded
import HistoricalFigures.Proofs.Literal.Escaping
import HistoricalFigures.Proofs.Literal.Rewriting
import HistoricalFigures.Proofs.Literal.SearchForm
import HistoricalFigures.Proofs.Loop
import HistoricalFigures.Proofs.Number.Digits
import HistoricalFigures.Proofs.Outcome
import HistoricalFigures.Proofs.Query.Answer
import HistoricalFigures.Proofs.Query.Arguments
import HistoricalFigures.Proofs.Query.Atomicity
import HistoricalFigures.Proofs.Query.Candidates
import HistoricalFigures.Proofs.Query.Classification
import HistoricalFigures.Proofs.Query.Contributions
import HistoricalFigures.Proofs.Query.Deletion
import HistoricalFigures.Proofs.Query.Dropping
import HistoricalFigures.Proofs.Query.Insertion
import HistoricalFigures.Proofs.Query.Kind
import HistoricalFigures.Proofs.Query.Namespaces
import HistoricalFigures.Proofs.Query.PatternTerms
import HistoricalFigures.Proofs.Query.Pieces
import HistoricalFigures.Proofs.Query.Prologue
import HistoricalFigures.Proofs.Query.Quoting
import HistoricalFigures.Proofs.Query.Resplitting
import HistoricalFigures.Proofs.Query.Searching
import HistoricalFigures.Proofs.Query.Selection
import HistoricalFigures.Proofs.Query.Splitting
import HistoricalFigures.Proofs.Query.TokenPassage
import HistoricalFigures.Proofs.Query.Triples
import HistoricalFigures.Proofs.Rdf.History
import HistoricalFigures.Proofs.Rdf.Store
import HistoricalFigures.Proofs.Text.Runs
import HistoricalFigures.Proofs.Text.Search
import HistoricalFigures.Proofs.Turtle.Abbreviation
import HistoricalFigures.Proofs.Turtle.Advance
import HistoricalFigures.Proofs.Turtle.Codes
import HistoricalFigures.Proofs.Turtle.Concatenation
import HistoricalFigures.Proofs.Turtle.Declarations
import HistoricalFigures.Proofs.Turtle.Descent
import HistoricalFigures.Proofs.Turtle.Escape
import HistoricalFigures.Proofs.Turtle.Form
import HistoricalFigures.Proofs.Turtle.Grammar
import HistoricalFigures.Proofs.Turtle.Lexeme
import HistoricalFigures.Proofs.Turtle.Lexes
import HistoricalFigures.Proofs.Turtle.LooseNames
import HistoricalFigures.Proofs.Turtle.LooseTriple
import HistoricalFigures.Proofs.Turtle.Numeral
import HistoricalFigures.Proofs.Turtle.Objects
import HistoricalFigures.Proofs.Turtle.Pattern
import HistoricalFigures.Proofs.Turtle.Progress
import HistoricalFigures.Proofs.Turtle.RawIri
import HistoricalFigures.Proofs.Turtle.Reach
import HistoricalFigures.Proofs.Turtle.ReadTerms
import HistoricalFigures.Proofs.Turtle.Returns
import HistoricalFigures.Proofs.Turtle.Rewriting
import HistoricalFigures.Proofs.Turtle.RoundTrip
import HistoricalFigures.Proofs.Turtle.Scanning
import HistoricalFigures.Proofs.Turtle.Separation
import HistoricalFigures.Proofs.Turtle.StringShape
import HistoricalFigures.Proofs.Turtle.TokenShape
import HistoricalFigures.Proofs.Turtle.Values
import HistoricalFigures.Proofs.Unicode.Ascii
import HistoricalFigures.Proofs.Unicode.Blank
import HistoricalFigures.Proofs.Unicode.Codes
import HistoricalFigures.Proofs.Unicode.Decomposition
import HistoricalFigures.Proofs.Unicode.Lowercase
import HistoricalFigures.Proofs.World
import HistoricalFigures.Query.Basic
import HistoricalFigures.Query.Error
import HistoricalFigures.Query.Evaluation
import HistoricalFigures.Query.Kind
import HistoricalFigures.Query.Parsing
import HistoricalFigures.Query.Results
import HistoricalFigures.Query.Searching
import HistoricalFigures.Query.Triples
import HistoricalFigures.Rdf.Store
import HistoricalFigures.Rdf.Term
import HistoricalFigures.Rdf.Vocabulary
import HistoricalFigures.Settings
import HistoricalFigures.Text.Lines
import HistoricalFigures.Text.Search
import HistoricalFigures.Text.Shown
import HistoricalFigures.Text.Styling
import HistoricalFigures.Turtle.Error
import HistoricalFigures.Turtle.Escape
import HistoricalFigures.Turtle.Printing
import HistoricalFigures.Turtle.Reading
import HistoricalFigures.Turtle.Token
import HistoricalFigures.Turtle.Triple
import HistoricalFigures.Unicode.Blank
import HistoricalFigures.Unicode.CaseRun
import HistoricalFigures.Unicode.CombiningClass
import HistoricalFigures.Unicode.Decomposition
import HistoricalFigures.Unicode.Digit
import HistoricalFigures.Unicode.Lowercase
import HistoricalFigures.Unicode.Parts
import HistoricalFigures.Unicode.Printable
import HistoricalFigures.Unicode.Ranges
import HistoricalFigures.Unicode.Scalar
import HistoricalFigures.Unicode.Uppercase
import HistoricalFigures.Unicode.Word
import HistoricalFigures.World
