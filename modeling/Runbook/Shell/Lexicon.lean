/-!
The characters and the words of the language of the shell, the options of the shell by their names
and letters, and the signals by their names and numbers.
-/

namespace Runbook.Shell.Lexicon

/-! ### Characters -/

def isBlank (c : Char) : Bool := c == ' ' || c == '\t'

def isOperatorChar (c : Char) : Bool :=
  c == ';' || c == '&' || c == '|' || c == '<' || c == '>' || c == '(' || c == ')' || c == '\n'

def endsWord (c : Char) : Bool := isBlank c || isOperatorChar c

def isNameStart (c : Char) : Bool := c.isAlpha || c == '_'

def isNameChar (c : Char) : Bool := c.isAlphanum || c == '_'

def isName (s : String) : Bool := s.toList.head?.any isNameStart && s.toList.all isNameChar

/-- The parameters that are named by a single mark. -/
def isSpecial (c : Char) : Bool :=
  c == '@' || c == '*' || c == '#' || c == '?' || c == '-' || c == '$' || c == '!'

def backquote : Char := Char.ofNat 96

/-! ### Words -/

def keywords : List String :=
  ["!", "\x7b", "\x7d", "case", "do", "done", "elif", "else", "esac", "fi", "for", "if", "in",
    "then", "until", "while"]

def closers : List String := ["then", "else", "elif", "fi", "do", "done", "esac", "\x7d"]

/-- The commands that end the shell where they cannot go on, and whose assignments stay. -/
def specialCommands : List String :=
  [".", ":", "break", "continue", "eval", "exec", "exit", "export", "local", "readonly", "return",
    "set", "shift", "times", "trap", "unset"]

end Runbook.Shell.Lexicon

namespace Runbook.Shell

structure Options where
  on : List String
  deriving DecidableEq, Repr

namespace Options

/-- The options in their order. Not all of them have letters. -/
def known : List (String × Option Char) :=
  [("errexit", some 'e'), ("noglob", some 'f'), ("ignoreeof", some 'I'), ("interactive", some 'i'),
    ("monitor", some 'm'), ("noexec", some 'n'), ("stdin", some 's'), ("xtrace", some 'x'),
    ("verbose", some 'v'), ("vi", some 'V'), ("emacs", some 'E'), ("noclobber", some 'C'),
    ("allexport", some 'a'), ("notify", some 'b'), ("nounset", some 'u'), ("privileged", some 'p'),
    ("nolog", none), ("debug", none)]

def names : List String := known.map Prod.fst

def ofLetter? (letter : Char) : Option String :=
  (known.find? fun o => o.2 == some letter).map Prod.fst

def isOn (o : Options) (letter : Char) : Bool := (ofLetter? letter).any o.on.contains

def exclusive (name : String) : Option String := [("vi", "emacs"), ("emacs", "vi")].lookup name

def turn (o : Options) (isOn : Bool) (name : String) : Options :=
  let others := o.on.filter fun n => n != name && (!isOn || some n != exclusive name)
  ⟨if isOn then name :: others else others⟩

def letters (o : Options) : String :=
  String.ofList ((known.filter fun e => o.on.contains e.1).reverse.filterMap Prod.snd)

def listing (o : Options) : List String := names.map fun name =>
  name ++ "".pushn ' ' (16 - name.length) ++ if o.on.contains name then "on" else "off"

def commands (o : Options) : List String := names.map fun name =>
  "set " ++ (if o.on.contains name then "-" else "+") ++ "o " ++ name

end Options

end Runbook.Shell

namespace Runbook.Shell.Signal

/-- The names of the signals in the order of their numbers. The first one stands for the end of the
shell. -/
def names : List String :=
  ["EXIT", "HUP", "INT", "QUIT", "ILL", "TRAP", "ABRT", "BUS", "FPE", "KILL", "USR1", "SEGV",
    "USR2", "PIPE", "ALRM", "TERM", "16", "CHLD", "CONT", "STOP", "TSTP", "TTIN", "TTOU", "URG",
    "XCPU", "XFSZ", "VTALRM", "PROF", "WINCH", "IO", "PWR", "SYS", "32", "33", "RTMIN"] ++
    (List.range 15).map (fun i => s!"RTMIN+{i + 1}") ++
    (List.range 14).map (fun i => s!"RTMAX-{14 - i}") ++ ["RTMAX"]

def terminate : Nat := 15

def kill : Nat := 9

/-- The number that a text of digits writes. -/
def numeral? (s : String) : Option Nat :=
  if !s.isEmpty && s.toList.all Char.isDigit then s.toNat? else none

def ofNumeral? (s : String) : Option Nat := (numeral? s).filter fun n => n < names.length

/-- The signal that a number or a name in any case stands for, from a least one on. -/
def number? (least : Nat) (s : String) : Option Nat :=
  match numeral? s with
  | some n => if n < names.length then some n else none
  | none => ((names.drop least).findIdx? fun n => n.toUpper == s.toUpper).map (· + least)

def name (n : Nat) : String := names.getD n ""

def isHarmless (n : Nat) : Bool :=
  n = 0 || ["CHLD", "CONT", "STOP", "TSTP", "TTIN", "TTOU", "URG", "WINCH"].contains (name n)

/-- What is told of a command that a signal ended, if anything is. -/
def report? (n : Nat) : Option String :=
  [("HUP", "Hangup"), ("QUIT", "Quit"), ("ILL", "Illegal instruction"),
    ("TRAP", "Trace/breakpoint trap"), ("ABRT", "Aborted"), ("BUS", "Bus error"),
    ("FPE", "Floating point exception"), ("KILL", "Killed"), ("USR1", "User defined signal 1"),
    ("SEGV", "Segmentation fault"), ("USR2", "User defined signal 2"), ("ALRM", "Alarm clock"),
    ("TERM", "Terminated"), ("XCPU", "CPU time limit exceeded"),
    ("XFSZ", "File size limit exceeded"), ("VTALRM", "Virtual timer expired"),
    ("PROF", "Profiling timer expired"), ("IO", "I/O possible"), ("PWR", "Power failure"),
    ("SYS", "Bad system call")].lookup (name n)

end Runbook.Shell.Signal
