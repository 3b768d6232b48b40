import HistoricalFigures.Assoc
import HistoricalFigures.Number.Integer
import HistoricalFigures.Text.Shown
import HistoricalFigures.Unicode.Lowercase

/-!
Headers of requests, and the lines that the log has on them.

* `redact`: the headers without credentials.
* `logLine`: the line on a request or on its response.
-/
namespace HistoricalFigures.Http

/-- Headers by their names. -/
abbrev Headers := Assoc String

/-- The names, in lower case, of the headers that carry credentials. -/
def credentialNames : List String := ["authorization", "x-api-key", "proxy-authorization"]

/-- Whether a header carries credentials. -/
def isCredential (name : String) : Bool :=
  credentialNames.contains (String.ofList (Unicode.lowercase name.toList))

/-- The headers with the values of credentials replaced. -/
def redact (headers : Headers) : Headers :=
  headers.map fun (name, value) => (name, if isCredential name then "REDACTED" else value)

/-- Headers as the log shows them. -/
def shownHeaders (headers : Headers) : String :=
  "\x7b" ++ ", ".intercalate (headers.map fun (name, value) =>
    Text.shown name ++ ": " ++ Text.shown value) ++ "\x7d"

/-- The line of the log on a request, or on its response if it has a status. -/
def logLine (method url : String) (headers : Headers) (status : Option Int) : String :=
  "[HTTP] " ++ method ++ " " ++ url ++
    (if headers.isEmpty then "" else " headers=" ++ shownHeaders (redact headers)) ++
    match status with
    | some code => " -> " ++ String.ofList (Number.intText code)
    | none => ""

end HistoricalFigures.Http
