/-!
Texts made of lines, and clauses of queries.

* `lines`: the text of lines, each with a line feed at its end.
* `optionalClause`: the clause for a pattern that need not hold.
-/
namespace HistoricalFigures.Text

/-- The text of lines, each with a line feed at its end. -/
def lines (texts : List String) : String := String.join (texts.map (· ++ "\n"))

/-- The clause of a query for a pattern that need not hold. -/
def optionalClause (pattern : String) : String := "OPTIONAL \x7b " ++ pattern ++ " \x7d"

end HistoricalFigures.Text
