import Runbook.Text.Age
import Runbook.Text.Boundary
import Runbook.Text.Script

/-!
Sets of characters by the names of properties: a general category, a script or a property on its
own, or the kind of a property with its value.
-/

namespace Runbook.Pattern

open Text (CodeSet)

inductive PropertyName where
  | plain (name : String)
  | valued (kind value : String) (isNegated : Bool)
  deriving DecidableEq, Repr

/-- A name without what is not told apart in it: the case of letters, blanks, hyphens and low lines,
characters beyond ASCII, and the word "is" before the name. -/
def looseName (name : String) : String :=
  let s := name.toList
  let isPart := fun c : Char => c.toNat < 0x80 && c != ' ' && c != '_' && c != '-'
  let loose := fun s : List Char => String.ofList ((s.filter isPart).map Char.toLower)
  match s with
  | i :: n :: rest =>
    if i.toLower == 'i' && n.toLower == 's' then
      if loose rest == "c" then "isc" else loose rest
    else loose s
  | s => loose s

/-- The names of the general categories, without those of surrogates, which are no characters. -/
def categoryNames : List (String × List String) := [
  ("l letter", ["Lu", "Ll", "Lt", "Lm", "Lo"]),
  ("lc casedletter", ["Lu", "Ll", "Lt"]),
  ("lu uppercaseletter", ["Lu"]), ("ll lowercaseletter", ["Ll"]), ("lt titlecaseletter", ["Lt"]),
  ("lm modifierletter", ["Lm"]), ("lo otherletter", ["Lo"]),
  ("m mark combiningmark", ["Mn", "Mc", "Me"]),
  ("mn nonspacingmark", ["Mn"]), ("mc spacingmark", ["Mc"]), ("me enclosingmark", ["Me"]),
  ("n number", ["Nd", "Nl", "No"]),
  ("nd decimalnumber digit", ["Nd"]), ("nl letternumber", ["Nl"]), ("no othernumber", ["No"]),
  ("p punctuation punct", ["Pc", "Pd", "Ps", "Pe", "Pi", "Pf", "Po"]),
  ("pc connectorpunctuation", ["Pc"]), ("pd dashpunctuation", ["Pd"]),
  ("ps openpunctuation", ["Ps"]), ("pe closepunctuation", ["Pe"]),
  ("pi initialpunctuation", ["Pi"]), ("pf finalpunctuation", ["Pf"]),
  ("po otherpunctuation", ["Po"]),
  ("s symbol", ["Sm", "Sc", "Sk", "So"]),
  ("sm mathsymbol", ["Sm"]), ("sc currencysymbol", ["Sc"]), ("sk modifiersymbol", ["Sk"]),
  ("so othersymbol", ["So"]),
  ("z separator", ["Zs", "Zl", "Zp"]),
  ("zs spaceseparator", ["Zs"]), ("zl lineseparator", ["Zl"]), ("zp paragraphseparator", ["Zp"]),
  ("c other", ["Cc", "Cf", "Cn", "Co"]),
  ("cc control cntrl", ["Cc"]), ("cf format", ["Cf"]), ("cn unassigned", ["Cn"]),
  ("co privateuse", ["Co"])]

def ofCategory? (name : String) : Option CodeSet :=
  match name with
  | "any" => some .any
  | "ascii" => some .ascii
  | "assigned" => some (Text.ofCategories ["Cn"]).complement
  | _ =>
    (categoryNames.find? fun (names, _) => (names.splitOn " ").contains name).map fun (_, kinds) =>
      Text.ofCategories kinds

/-- The characters that a name on its own stands for. The short names of two categories and of the
cased letters are those of kinds of properties too, and mean the categories. -/
def ofPlainName? (name : String) : Option CodeSet :=
  match Text.charsOf? Text.properties name with
  | some s => some s
  | none =>
    match ofCategory? name with
    | some s => some s
    | none => Text.ofScript? name

def ofValue? (kind value : String) : Option CodeSet :=
  match kind with
  | "gc" | "generalcategory" => ofCategory? value
  | "sc" | "script" => Text.ofScript? value
  | "scx" | "scriptextensions" => Text.usedInScript? value
  | "age" => Text.knownTo? value
  | "gcb" | "graphemeclusterbreak" => Text.charsOf? Text.clusterBreaks value
  | "wb" | "wordbreak" => Text.charsOf? Text.wordBreaks value
  | "sb" | "sentencebreak" => Text.charsOf? Text.sentenceBreaks value
  | _ => none

def PropertyName.chars? : PropertyName → Option CodeSet
  | .plain name => ofPlainName? (looseName name)
  | .valued kind value _ => ofValue? (looseName kind) (looseName value)

def PropertyName.isNegated : PropertyName → Bool
  | .plain _ => false
  | .valued _ _ isNegated => isNegated

end Runbook.Pattern
