import Runbook.Document
import Runbook.Run.Rehearsal

/-!
Rehearsals described by documents: the outcomes of commands by their texts, the answers to
questions, and the files that there are.
-/

namespace Runbook

namespace Document

def fieldOrNull (d : Document) (name : String) : Document := (d.field? name).getD .null

def itemsOf (d : Document) (name : String) : List Document :=
  ((d.fieldOrNull name).asList?).getD []

def textOrEmpty (d : Document) : String := d.asText?.getD ""

end Document

/-- An outcome; an exit code that is left out stands for zero, and success for the exit code
zero. -/
def CommandOutcome.ofDocument (d : Document) : CommandOutcome :=
  let exitCode := match d.field? "exit" with
    | none => some 0
    | some (.integer n) => some n
    | some _ => none
  { success := ((d.fieldOrNull "success").asBool?).getD (exitCode == some 0)
    exitCode
    stdout := (d.itemsOf "stdout").map Document.textOrEmpty
    stderr := (d.itemsOf "stderr").map Document.textOrEmpty
    timedOut := ((d.fieldOrNull "timedOut").asBool?).getD false
    duration := .zero }

/-- A reply: a text, null for the default, or an error that may have a context. -/
def Reply.ofDocument : Document → Reply
  | .text s => .value s
  | .null => .default
  | d =>
    let cause := (d.fieldOrNull "error").textOrEmpty
    match (d.fieldOrNull "context").asText? with
    | some context => .refusal (context ++ ": " ++ cause)
    | none => .refusal cause

/-- The rehearsal that a document describes by its fields for commands, answers and files. -/
def Rehearsal.ofDocument (d : Document) : Rehearsal :=
  let runner := d.fieldOrNull "runner"
  { outcomes := ((runner.fieldOrNull "commands").asObject?.getD []).map fun (command, outcomes) =>
      (command, (outcomes.asList?.getD []).map CommandOutcome.ofDocument)
    otherwise := .ofDocument (runner.fieldOrNull "default")
    answers := (d.itemsOf "answers").map Reply.ofDocument
    files := (d.itemsOf "files").map Document.textOrEmpty
    now := .zero
    wakeTimes := [] }

end Runbook
