import Runbook.Word
import Runbook.Text.Blank
import Runbook.Text.Line
import Runbook.Json.Reader
import Runbook.Json.Writer
import Runbook.Yaml.Reader
import Runbook.Pattern.Search
import Runbook.Query.Reader
import Runbook.Query.Evaluation
import Runbook.Workflow.Basic

/-!
Captures: values taken from the lines that a command printed.
-/

namespace Runbook.Extraction

/-- The first group of the first match, unless it is empty. -/
def patternValue? (regex text : String) : Option String := do
  let p ← Pattern.read? regex
  (Pattern.firstGroup? p 1 text).filter fun s => !s.isEmpty

def queryText (path : String) : String :=
  let path := trimmed path
  if path.startsWith "$" then path
  else if path.startsWith "[" then "$" ++ path
  else "$." ++ path

/-- The text of the first value that a path finds; a null has none. -/
def pathValue? (path : String) (d : Document) : Option String := do
  let query ← Query.read? (queryText path)
  match ← Query.first? query d with
  | .text s => some s
  | .null => none
  | other => some (Json.compact other)

/-- The text without one pair of equal quotes around it. -/
def unquoted (s : List Char) : List Char :=
  match s with
  | first :: rest =>
    if (first == '"' || first == '\'') && rest.getLast? == some first then rest.dropLast else s
  | [] => []

def lineValue? (key line : List Char) : Option (List Char) :=
  let line := Text.trim line
  if line.head? == some '#' then none
  else do
    let (name, value) ← Text.cut ['='] line
    let value := Text.trim value
    if Text.trimEnd name = key ∧ value ≠ [] then some (unquoted value) else none

def keyValue? (key : String) (lines : List String) : Option String :=
  let key := Text.trim key.toList
  if key.isEmpty then none
  else (lines.findSome? fun line => lineValue? key line.toList).map String.ofList

/-- The parts of a text around the first occurrence of a marker that is not empty. -/
def cutAt? (marker : String) (s : List Char) : Option (List Char × List Char) :=
  if marker.isEmpty then none else Text.cut marker.toList s

def trimmedString (s : List Char) : String := String.ofList (Text.trim s)

def between? (opening closing : String) (s : List Char) : Option String :=
  if closing.isEmpty then none
  else do
    let (_, rest) ← cutAt? opening s
    let (value, _) ← cutAt? closing rest
    return trimmedString value

/-- The lines with numbers from `first` to `last`, counted from one, as far as there are some. How
many are left out is the word before `first`. -/
def lineRange? (first last : Int64) (lines : List String) : Computed (Option String) :=
  if last < first then return none
  else do
    let start := (max (← Word.previous first) 0).toInt.toNat
    let stop := (min last.toInt lines.length).toNat
    return if stop ≤ start then none else some (joinLines ((lines.take stop).drop start))

def apply (e : Extraction) (lines : List String) : Computed (Option String) :=
  let text := joinLines lines
  match e with
  | .full => return some text
  | .pattern regex => return patternValue? regex text
  | .jsonPath path => return ((Json.read? text).map Document.settled).bind (pathValue? path)
  | .yamlPath path => return ((Yaml.read? text).map Document.settled).bind (pathValue? path)
  | .keyValue key => return keyValue? key lines
  | .after marker => return (cutAt? marker text.toList).map fun parts => trimmedString parts.2
  | .before marker => return (cutAt? marker text.toList).map fun parts => trimmedString parts.1
  | .between opening closing => return between? opening closing text.toList
  | .lines first last => lineRange? first last lines

end Runbook.Extraction
