import Runbook.Console.Interaction

/-!
A terminal on a machine: an input that is given in advance, what was written, and whether the
program is to be stopped as soon as it waits for that. It answers the calls of interactions.
-/

namespace Runbook.Console

structure Terminal where
  machine : Machine
  input : List UInt8
  /-- What was read of the input beyond the lines taken from it. Commands do not get it. -/
  readAhead : List UInt8
  output : String
  errors : String
  deriving DecidableEq, Repr

namespace Terminal

def readSize : Nat := 8192

def newline : UInt8 := 10

def textOf (octets : List UInt8) : String := Text.Utf8.decode octets

/-- The next line with its end, from what was read ahead and from the rest of the input. `reads`
bounds how often more is read. -/
def nextLine (t : Terminal) : Nat → Option String × Terminal
  | 0 =>
    let last := if t.readAhead.isEmpty then none else some (textOf t.readAhead)
    (last, { t with readAhead := [] })
  | reads + 1 =>
    if t.readAhead.contains newline then
      let line := t.readAhead.takeWhile (· != newline)
      let readAhead := t.readAhead.drop (line.length + 1)
      (some (textOf (line ++ [newline])), { t with readAhead })
    else
      nextLine { t with
        readAhead := t.readAhead ++ t.input.take readSize
        input := t.input.drop readSize } reads

def readLine (t : Terminal) : Option String × Terminal :=
  t.nextLine (t.input.length / readSize + 2)

def write (t : Terminal) (stream : OutputStream) (text : String) : Terminal :=
  match stream with
  | .stdout => { t with output := t.output ++ text }
  | .stderr => { t with errors := t.errors ++ text }

/-- Answers a call. The program is told to stop as soon as it waits for that; it cannot start
processes. -/
def host : Host ConsoleCall.interface Terminal
  | t, .system c =>
    let (reply, machine) := t.machine.reply c
    (reply, { t with machine })
  | t, .write stream text => ((), t.write stream text)
  | t, .readLine => t.readLine
  | t, .takeInput => (t.input, { t with input := [] })
  | t, .returnInput octets => ((), { t with input := octets })
  | t, .awaitStop _ => (true, t)
  | t, .launch _ => (.error .notPermitted, t)

end Terminal

end Runbook.Console
