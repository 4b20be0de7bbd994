import Runbook.Run.Workflow

/-!
Rehearsals: runs whose commands, answers and files come from a script, on a clock that jumps over
every wait.
-/

namespace Runbook

/-- A reply to a question: what is entered or chosen, the default, or a refusal. -/
inductive Reply where
  | value (text : String)
  | default
  | refusal (cause : String)
  deriving DecidableEq, Repr

structure Rehearsal where
  /-- The outcomes of commands in turn; the last of them stays. -/
  outcomes : Bindings (List CommandOutcome)
  /-- The outcome of all other commands. -/
  otherwise : CommandOutcome
  answers : List Reply
  files : List FilePath
  /-- The time that has passed. -/
  now : Duration
  /-- The times at which waiting branches go on. -/
  wakeTimes : Bindings Duration Nat
  deriving DecidableEq, Repr

namespace Rehearsal

def outcome (r : Rehearsal) (command : String) : CommandOutcome × Rehearsal :=
  match r.outcomes.find? command with
  | some (o :: next :: rest) =>
    (o, { r with outcomes := r.outcomes.bind command (next :: rest) })
  | some [o] => (o, r)
  | _ => (r.otherwise, r)

def chosen (options : List ChoiceOption) (id : String) : Except String String :=
  if options.any (·.id == id) then .ok id else .error ("unknown option " ++ id)

/-- What a question makes of a reply; for a choice the default is the option without a name. -/
def interpret : Question → Reply → Except String String
  | _, .refusal cause => .error cause
  | .choose _ options, .value id => chosen options id
  | .choose _ options, .default => chosen options ""
  | .enter .., .value text => .ok text
  | .enter _ (some text), .default => .ok text
  | .enter _ none, .default => .error "no default"

def answer (r : Rehearsal) (question : Question) : Except String String × Rehearsal :=
  match r.answers with
  | [] => (.error "no answer left", r)
  | reply :: rest => (interpret question reply, { r with answers := rest })

def plus (a b : Duration) : Duration := ⟨a.nanoseconds + b.nanoseconds⟩

def wakeTime (r : Rehearsal) (branch : Nat) : Duration := (r.wakeTimes.find? branch).getD r.now

/-- Lets time pass for a branch, or for the whole run. -/
def pause (r : Rehearsal) (branch : Option Nat) (delay : Duration) : Rehearsal :=
  match branch with
  | some b => { r with wakeTimes := r.wakeTimes.bind b (plus (r.wakeTime b) delay) }
  | none => { r with now := plus r.now delay }

/-- The time once all branches have gone on. -/
def settle (r : Rehearsal) : Rehearsal :=
  let latest := r.wakeTimes.foldl (fun t entry => max t entry.2.nanoseconds) r.now.nanoseconds
  { r with now := ⟨latest⟩, wakeTimes := [] }

def stamp (r : Rehearsal) : Stamp := ⟨"", (Timestamp.mk 0 0).later r.now⟩

/-- Of several branches, the one that goes on at the earliest time, and of those the first. -/
def pick (r : Rehearsal) (places : List Nat) : Nat :=
  let earlier := fun a b =>
    let t := (r.wakeTime a).nanoseconds
    let u := (r.wakeTime b).nanoseconds
    if t < u ∨ (t = u ∧ a < b) then a else b
  match places with
  | [] => 0
  | place :: rest => rest.foldl earlier place

def host : RunHost Rehearsal := fun r effect => match effect with
  | .record _ => (r.stamp, r)
  | .display (.parallelFinished ..) => ((), r.settle)
  | .display _ => ((), r)
  | .check path => (r.files.contains path, r)
  | .start _ => ((), r)
  | .finish request => r.outcome request.command
  | .ask question => r.answer question
  | .pause label delay => ((), r.pause label.branch delay)
  | .save _ => ((), r)
  | .clock => (r.stamp, r)
  | .pick places => (r.pick places, r)

end Rehearsal

end Runbook
