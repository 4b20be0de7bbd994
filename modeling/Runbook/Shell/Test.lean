import Runbook.Shell.Session
import Runbook.Shell.Arithmetic

/-!
Test expressions: on texts, on numbers and on files. The arguments are read from left to right, and
what has been read last stays at the head of those that are left.
-/

namespace Runbook.Shell.Test

abbrev Testing (α : Type) := ExceptT String (StateT Session (Program ShellCall.interface)) α

/-! ### Operators -/

/-- What an argument is where a test is expected to begin or to go on. -/
inductive Token where
  | missing | operand | unary | binary | negation | both | either | opening | closing
  deriving DecidableEq, Repr

def unaries : List String :=
  ["-r", "-w", "-x", "-e", "-f", "-d", "-c", "-b", "-p", "-u", "-g", "-k", "-s", "-t", "-z", "-n",
    "-h", "-O", "-G", "-L", "-S"]

def binaries : List String :=
  ["=", "!=", "<", ">", "-eq", "-ne", "-ge", "-gt", "-le", "-lt", "-nt", "-ot", "-ef"]

def isBinary (s : String) : Bool := binaries.contains s

/-- Whether an operator of one operand is an operand itself, as what follows it shows. -/
def isOperand : List String → Bool
  | [] => true
  | [_] => false
  | operator :: _ => isBinary operator

def token : List String → Token
  | [] => .missing
  | a :: rest =>
    if unaries.contains a then if isOperand rest then .operand else .unary
    else if isBinary a then .binary
    else if a == "!" then .negation
    else if a == "-a" then .both
    else if a == "-o" then .either
    else if a == "(" then if rest.isEmpty then .operand else .opening
    else if a == ")" then .closing
    else .operand

/-! ### Files -/

def system (c : SystemCall) : Testing c.Reply :=
  ExceptT.lift (StateT.lift (Program.call (I := ShellCall.interface) (.system c)))

def located (path : String) : Testing FilePath := do
  return FilePath.join (← ExceptT.lift get).directory (Octets.read path)

def devices : List String := ["/dev/null", "/dev/zero", "/dev/full", "/dev/random", "/dev/urandom"]

def kind? (path : String) : Testing (Option NodeKind) := do
  if path.isEmpty then return none
  else if devices.contains path then return some .file
  else system (.kind (← located path))

/-- Whether the first of two files was changed after the second. -/
def isNewer (a b : String) : Testing Bool := do
  match ← system (.modified (← located a)), ← system (.modified (← located b)) with
  | some s, some t => return decide (t.seconds < s.seconds) ||
      (t.seconds == s.seconds && decide (t.nanosecond < s.nanosecond))
  | _, _ => return false

def isSame (a b : String) : Testing Bool := do
  match ← system (.canonicalize (← located a)), ← system (.canonicalize (← located b)) with
  | .ok p, .ok q => return p == q
  | _, _ => return false

/-! ### Tests of one or two operands -/

def number (s : String) : Testing Int := do
  let (negative, unsigned) := Numeral.sign (s.toList.dropWhile Arithmetic.isSpace)
  let (magnitude, rest) := Arithmetic.digits 10 unsigned
  let n : Int := if negative then -magnitude else magnitude
  if unsigned.head?.any Char.isDigit && rest.all Arithmetic.isSpace && Arithmetic.fits n then
    return n
  else throw ("Illegal number: " ++ s)

def unary (operator operand : String) : Testing Bool := do
  match operator with
  | "-z" => return operand.isEmpty
  | "-n" => return !operand.isEmpty
  | "-f" => return (← kind? operand) == some .file && !devices.contains operand
  | "-d" => return (← kind? operand) == some .directory
  | "-e" | "-r" | "-w" | "-O" | "-G" => return (← kind? operand).isSome
  | "-c" => return devices.contains operand
  | "-x" =>
    let isProgram := ["/bin/", "/usr/bin/"].any fun d => operand.startsWith d
    match ← kind? operand with
    | some .directory => return true
    | some .file => return isProgram
    | none => return false
  | "-s" =>
    match ← kind? operand with
    | some .directory => return true
    | some .file =>
      match ← system (.read (← located operand)) with
      | .ok text => return !text.isEmpty
      | .error _ => return false
    | none => return false
  | "-t" =>
    let _ ← number operand
    return false
  | _ => return false

def binary (a operator b : String) : Testing Bool := do
  match operator with
  | "=" => return a == b
  | "!=" => return a != b
  | "<" => return a < b
  | ">" => return b < a
  | "-eq" => return (← number a) == (← number b)
  | "-ne" => return (← number a) != (← number b)
  | "-lt" => return (← number a) < (← number b)
  | "-le" => return (← number a) ≤ (← number b)
  | "-gt" => return (← number b) < (← number a)
  | "-ge" => return (← number b) ≤ (← number a)
  | "-nt" => isNewer a b
  | "-ot" => isNewer b a
  | _ => isSame a b

/-! ### Expressions -/

mutual

/-- Tests joined by `-o`; all of them are made. -/
def either : Nat → List String → Testing (Bool × List String)
  | 0, s => return (false, s)
  | fuel + 1, s => do
    let (first, s) ← both fuel s
    if token s.tail = .either then
      let (second, s) ← either fuel (s.drop 2)
      return (first || second, s)
    else return (first, s)

/-- Tests joined by `-a`; all of them are made. -/
def both : Nat → List String → Testing (Bool × List String)
  | 0, s => return (false, s)
  | fuel + 1, s => do
    let (first, s) ← single fuel s
    if token s.tail = .both then
      let (second, s) ← both fuel (s.drop 2)
      return (first && second, s)
    else return (first, s)

def single : Nat → List String → Testing (Bool × List String)
  | 0, s => return (false, s)
  | fuel + 1, s => do
    match token s, s with
    | .missing, _ => return (false, s)
    | .negation, [_] => return (true, s)
    | .negation, _ =>
      let (result, s) ← single fuel s.tail
      return (!result, s)
    | .opening, _ =>
      if token s.tail = .closing then return (false, s.tail)
      else
        let (result, s) ← either fuel s.tail
        if token s.tail = .closing then return (result, s.tail)
        else throw "closing paren expected"
    | .unary, operator :: operand :: rest => return (← unary operator operand, operand :: rest)
    | .unary, operator :: [] => throw (operator ++ ": argument expected")
    | _, a :: operator :: rest =>
      if token (operator :: rest) = .binary then
        match rest with
        | b :: _ => return (← binary a operator b, rest)
        | [] => throw (operator ++ ": argument expected")
      else return (!a.isEmpty, s)
    | _, _ => return (!(s.headD "").isEmpty, s)

end

def whole (arguments : List String) : Testing Bool := do
  let (result, s) ← either (4 * arguments.length + 8) arguments
  match s with
  | last :: _ :: _ => throw (if last.isEmpty then "unexpected operator"
      else last ++ ": unexpected operator")
  | _ => return result

/-- The result of a test with two operands, whatever they look like. -/
def betweenTwo (arguments : List String) : Testing Bool :=
  match arguments with
  | [a, operator, b] => binary a operator b
  | _ => return false

/-- The result of a test. Three arguments of which the middle one is an operator are its operands;
an exclamation mark before two or three others negates them. -/
def evaluate : List String → Testing Bool
  | [] => return false
  | ["(", a, ")"] => if isBinary a then betweenTwo ["(", a, ")"] else whole [a]
  | ["(", a, b, ")"] => whole [a, b]
  | [a, operator, b] =>
    if isBinary operator then betweenTwo [a, operator, b]
    else if a == "!" then return !(← whole [operator, b])
    else whole [a, operator, b]
  | [a, b, c, d] =>
    if a == "!" then negated [b, c, d] else whole [a, b, c, d]
  | arguments => whole arguments
where
  /-- The negated result of three arguments; a second exclamation mark does not count. -/
  negated : List String → Testing Bool
    | ["(", a, ")"] =>
      if isBinary a then return !(← betweenTwo ["(", a, ")"]) else return !(← whole [a])
    | [a, operator, b] =>
      if isBinary operator then return !(← betweenTwo [a, operator, b])
      else if a == "!" then return !(← whole [operator, b])
      else return !(← whole [a, operator, b])
    | _ => return false

end Runbook.Shell.Test
