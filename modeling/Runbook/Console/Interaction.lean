import Runbook.Word
import Runbook.Run.Execution
import Runbook.Run.Task
import Runbook.Text.Blank
import Runbook.Decimal.Reading
import Runbook.Workflow.Basic

/-!
What the program asks of the terminal it is called from: the calls of the system, output, lines of
the input, and the wait until it is told to stop. A line that a user types stands for an option of a
list, by its number or its name, or for a text or its default.
-/

namespace Runbook.Console

def wordBound : Nat := Word.count 64

/-- The option that an answer picks: by its number, counted from one, or else by its name. An answer
that is a number never picks by name. -/
def selectOption? (answer : String) (options : List ChoiceOption) : Option ChoiceOption :=
  let answer := Text.trim answer.toList
  match Numeral.natural? wordBound answer with
  | some 0 => none
  | some (i + 1) => options[i]?
  | none => options.find? fun o => o.id.toList == answer

/-- The text of an answer without its line ending, or the default if there is nothing but blanks. -/
def enteredText (answer : String) (default : Option String) : String :=
  let isLineEnd := fun c => c == '\r' || c == '\n'
  let text := String.ofList (answer.toList.reverse.dropWhile isLineEnd).reverse
  match default with
  | some value => if isBlank text then value else text
  | none => text

inductive ConsoleCall where
  | system (call : SystemCall)
  | write (stream : OutputStream) (text : String)
  /-- The next line of the input, if there is one. -/
  | readLine
  /-- What is left of the input, for a command that the program carries out. -/
  | takeInput
  | returnInput (octets : List UInt8)
  /-- Waits until the program is told to stop, for a limited time if one is given. -/
  | awaitStop (limit : Option Duration)
  /-- Starts the program again as a process on its own, with other arguments. -/
  | launch (arguments : List String)
  deriving DecidableEq, Repr

/-- What the terminal replies. The wait gives whether the program was told to stop; a process that
was started has a number. -/
abbrev ConsoleCall.Reply : ConsoleCall → Type
  | .system call => call.Reply
  | .readLine => Option String
  | .takeInput => List UInt8
  | .awaitStop _ => Bool
  | .launch _ => Except SystemError Nat
  | _ => Unit

abbrev ConsoleCall.interface : Interface := ⟨ConsoleCall, ConsoleCall.Reply⟩

abbrev Interaction (α : Type) := Program ConsoleCall.interface α

namespace Interaction

def call (c : ConsoleCall) : Interaction c.Reply := Program.call (I := ConsoleCall.interface) c

def procedure {α : Type} (p : Procedure α) : Interaction α :=
  p.interpret fun c => call (.system c)

def write (stream : OutputStream) (text : String) : Interaction Unit := call (.write stream text)

def writeLine (stream : OutputStream) (line : String) : Interaction Unit :=
  write stream (line ++ "\n")

def say (line : String) : Interaction Unit := writeLine .stdout line

def complain (line : String) : Interaction Unit := writeLine .stderr line

def tell (lines : List (OutputStream × String)) : Interaction Unit :=
  lines.forM fun (stream, line) => writeLine stream line

/-! ### Questions -/

/-- Why a question has no answer: the input is over. -/
def inputClosed : String := "Input closed before an answer was given"

/-- Asks for one of some options until a line picks one. -/
def choose (options : List ChoiceOption) : Nat → Interaction (Except String String)
  | 0 => .unbounded
  | attempts + 1 => do
    write .stdout s!"Select 1-{options.length}: "
    match ← call .readLine with
    | none => return .error inputClosed
    | some line =>
      match selectOption? line options with
      | some option => return .ok option.id
      | none =>
        say ("Invalid selection: " ++ trimmed line)
        choose options attempts

/-- How many lines are read at most until one picks an option. -/
def attemptBound : Nat := Word.count 32

def ask : Question → Interaction (Except String String)
  | .choose message options => do
    say ("? " ++ message)
    for (option, i) in options.zipIdx do say s!"  {i + 1}) {option.label}"
    choose options attemptBound
  | .enter message default => do
    let hint := (default.map fun text => s!"({text}) ").getD ""
    write .stdout s!"? {message} {hint}"
    match ← call .readLine with
    | none => return .error inputClosed
    | some line => return .ok (enteredText line default)

end Interaction

end Runbook.Console
