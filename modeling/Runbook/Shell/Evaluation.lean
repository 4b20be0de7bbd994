import Runbook.Shell.Call
import Runbook.Shell.Job
import Runbook.Shell.Lookup
import Runbook.Shell.Reader
import Runbook.Shell.Redirection

/-!
The evaluation of scripts. `fuel` bounds the nesting of commands and the passes of loops; where it
is used up, the shell would go on.
-/

namespace Runbook.Shell

/-- Where a script goes on after a command: at the next one, after a number of loops, at the next
pass of one, or after the function. -/
inductive Flow where
  | next | breaks (levels : Nat) | continues (levels : Nat) | returns
  deriving DecidableEq, Repr

/-- Where a script goes on if the body of a loop ends so; nothing if the loop goes on. -/
def Flow.leaving? : Flow → Option Flow
  | .next => none
  | .breaks (n + 2) => some (.breaks (n + 1))
  | .breaks _ => some .next
  | .continues (n + 2) => some (.continues (n + 1))
  | .continues _ => none
  | .returns => some .returns

namespace Evaluation

open Eval Lookup

def unbounded {α : Type} : Eval α := fun _ => .unbounded

/-- Ends the shell if a command failed that is not tested, where an option asks for it. -/
def heed (tested : Bool) : Eval Flow := do
  let s ← get
  if !tested && s.status ≠ 0 && s.options.isOn 'e' then throw .exit else return .next

/-- What a part of the shell's work comes to: nothing, if it is not ended early. -/
def attempt (act : Eval Flow) : Eval (Option Abort) := do
  try
    let _ ← act
    return none
  catch abort => return some abort

def collect (act : Eval Unit) : Eval (List UInt8) := do
  let before ← get
  let index := before.buffers.length
  set { before with
    buffers := before.buffers ++ [#[]]
    targets := before.targets.bind 1 (.buffer index) }
  act.followedBy (modify fun s => { s with targets := before.targets })
  let after ← get
  set { after with buffers := after.buffers.take index }
  return (after.buffers[index]?.getD #[]).toList

def withoutLastLines (s : String) : String :=
  String.ofList (s.toList.reverse.dropWhile (· == '\n')).reverse

/-! ### Parts of the work -/

/-- Tells of a command before it is run, if an option asks for that. -/
def trace (targets : Bindings Target Nat) (words : List String) : Eval Unit := do
  let s ← get
  if s.options.isOn 'x' && !words.isEmpty then
    modify fun t => { t with targets }
    complain ((s.vars.find? "PS4").getD "" ++ " ".intercalate words)
    modify fun t => { t with targets := s.targets }

/-- What the options of a shell ask for: letters to turn on, whether the commands are the next
argument, and the other arguments. -/
def shellOptions : List String → List Char × Bool × List String
  | [] => ([], false, [])
  | a :: rest =>
    match a.toList with
    | '-' :: letters =>
      if letters.isEmpty || letters == ['-'] then ([], false, rest)
      else
        let (more, asks, operands) := shellOptions rest
        (letters.filter (· != 'c') ++ more, asks || letters.contains 'c', operands)
    | _ => ([], false, a :: rest)

/-- The first lines of a text that make up a script, as many as there are. -/
def readableStart (lines : List String) : Nat → Script
  | 0 => []
  | n + 1 =>
    match Script.read ("\n".intercalate (lines.take (n + 1))) with
    | .ok script => script
    | .error _ => readableStart lines n

def rebound (vars : Bindings String) (name : String) (value? : Option String) : Bindings String :=
  match value? with
  | some value => vars.bind name value
  | none => vars.filter fun e => e.1 != name

def restored (before : Bindings String) (names : List String) (vars : Bindings String) :
    Bindings String :=
  names.foldl (fun vars name => rebound vars name (before.find? name)) vars

/-- How many loops a command is to leave or to go on with. -/
def levelsOf (arguments : List String) : Eval Nat := do
  match arguments with
  | [] => return 1
  | a :: _ =>
    let n ← Builtin.number a
    if n = 0 then fail s!"Illegal number: {a}" else return n

/-- Runs a command of the shell under its name. One that cannot go on ends the shell only if it is a
special one. -/
def guarded (isSpecial : Bool) (name : String) (act : Eval Flow) : Eval Flow := do
  try named name act
  catch
    | .failed => if isSpecial then throw .failed else return .next
    | abort => throw abort

mutual

def script (tested : Bool) : Nat → Script → Eval Flow
  | 0, _ => unbounded
  | _ + 1, [] => return .next
  | fuel + 1, c :: rest => do
    match ← command tested fuel c with
    | .next => script tested fuel rest
    | flow => return flow

/-- Evaluates a command; a failure of one that is tested does not end the shell. -/
def command (tested : Bool) : Nat → Command → Eval Flow
  | 0, _ => unbounded
  | fuel + 1, c => do
    if (← get).options.isOn 'n' then return .next
    match c with
    | .simple line assignments words redirections =>
      modify fun s => { s with line }
      match ← simple tested fuel assignments words redirections with
      | .next => heed tested
      | flow => return flow
    | .pipeline negated commands =>
      let flow ← match commands with
        | [c] => command (tested || negated) fuel c
        | _ => do
          let targets := (← get).targets
          (piped (tested || negated) fuel commands).followedBy
            (modify fun s => { s with targets })
          pure .next
      if negated then
        setStatus (if (← get).status = 0 then 1 else 0)
        return flow
      else if flow = .next then heed tested
      else return flow
    | .both first second =>
      let flow ← command true fuel first
      if flow = .next && (← get).status = 0 then command tested fuel second else return flow
    | .either first second =>
      let flow ← command true fuel first
      if flow = .next && (← get).status ≠ 0 then command tested fuel second else return flow
    | .background c =>
      modify fun s => { s with
        jobs := s.jobs ++
          [⟨s.process + s.started + 1, c, s.vars, s.arguments, s.directory, s.targets⟩]
        started := s.started + 1
        status := 0 }
      return .next
    | .group commands redirections =>
      redirected fuel false redirections (script tested fuel commands)
    | .subshell commands redirections =>
      let flow ← redirected fuel false redirections do
        isolated fuel (script tested fuel commands)
        return .next
      if flow = .next then heed tested else return flow
    | .choice condition body otherwise redirections =>
      redirected fuel false redirections do
        match ← script true fuel condition with
        | .next =>
          if (← get).status = 0 then script tested fuel body
          else do
            if otherwise.isEmpty then setStatus 0
            script tested fuel otherwise
        | flow => return flow
    | .loop untilTrue condition body redirections =>
      redirected fuel false redirections do
        modify fun s => { s with loops := s.loops + 1 }
        (loop tested untilTrue condition body 0 fuel).followedBy
          (modify fun s => { s with loops := s.loops - 1 })
    | .each name words? body redirections =>
      redirected fuel false redirections do
        let values ← match words? with
          | some words => Expansion.fields (capture fuel) fuel words
          | none => do pure (← get).arguments
        modify fun s => { s with loops := s.loops + 1, status := 0 }
        (each tested name body fuel values).followedBy
          (modify fun s => { s with loops := s.loops - 1 })
    | .cases word arms redirections =>
      redirected fuel false redirections do
        let value ← Expansion.text (capture fuel) fuel word
        setStatus 0
        cases tested value.toList fuel arms
    | .define name body =>
      modify fun s => { s with functions := (name, body) :: s.functions, status := 0 }
      return .next

def loop (tested untilTrue : Bool) (condition body : Script) (last : Nat) : Nat → Eval Flow
  | 0 => unbounded
  | fuel + 1 => do
    match (← script true fuel condition).leaving? with
    | some flow => return flow
    | none =>
      if ((← get).status == 0) != untilTrue then
        let flow ← script tested fuel body
        match flow.leaving? with
        | some flow => return flow
        | none => loop tested untilTrue condition body (← get).status fuel
      else
        setStatus last
        return .next

def each (tested : Bool) (name : String) (body : Script) : Nat → List String → Eval Flow
  | 0, _ => unbounded
  | _ + 1, [] => return .next
  | fuel + 1, value :: rest => do
    assign name value
    let flow ← script tested fuel body
    match flow.leaving? with
    | some flow => return flow
    | none => each tested name body fuel rest

def cases (tested : Bool) (value : List Char) : Nat → List (List Word × Script) → Eval Flow
  | 0, _ => unbounded
  | _ + 1, [] => return .next
  | fuel + 1, (patterns, body) :: rest => do
    let accepted ← patterns.anyM fun p => do
      return (← Expansion.pattern (capture fuel) fuel p).accepts value
    if accepted then script tested fuel body else cases tested value fuel rest

def piped (tested : Bool) : Nat → List Command → Eval Unit
  | 0, _ => unbounded
  | _ + 1, [] => return ()
  | fuel + 1, [c] => isolated fuel (command tested fuel c)
  | fuel + 1, c :: rest => do
    let octets ← collect (isolated fuel (command tested fuel c))
    modify fun s => s.open 0 octets
    piped tested fuel rest

/-- What commands write, without line feeds at its end and without zeros. -/
def capture : Nat → Script → Eval String
  | 0, _ => unbounded
  | fuel + 1, commands => do
    let status := (← get).status
    let octets ← collect (isolated fuel (script false fuel commands))
    modify fun s => { s with captured := s.status, status }
    return withoutLastLines (Octets.text (octets.filter (· ≠ 0)))

/-- Runs an action whose changes of the session are forgotten. Signals that it sends to the shell
come after it. -/
def isolated : Nat → Eval Flow → Eval Unit
  | 0, _ => unbounded
  | fuel + 1, act => do
    let outer ← get
    set { outer with
      traps := outer.traps.filter fun e => e.2.isEmpty
      jobs := []
      isPart := true }
    let killed? ← concluded fuel act
    let inner ← get
    set { outer with
      status := inner.status % 256
      buffers := inner.buffers
      sources := inner.sources
      pending := inner.pending }
    if let some signal := killed? then throw (.killed signal)
    if !outer.isPart then
      modify fun s => { s with pending := [] }
      heedAll fuel inner.pending

def heedAll : Nat → List Nat → Eval Unit
  | 0, _ => unbounded
  | _ + 1, [] => return ()
  | fuel + 1, n :: rest => do
    heedSignal fuel n
    heedAll fuel rest

/-- Does what is to be done at a signal that the shell gets, which ends it if that is nothing. -/
def heedSignal : Nat → Nat → Eval Unit
  | 0, _ => unbounded
  | fuel + 1, n => do
    let s ← get
    match s.traps.find? (Signal.name n), n == Signal.kill with
    | some action, false =>
      let _ ← text true fuel action
      setStatus s.status
    | _, _ => if !Signal.isHarmless n then throw (.killed n)

/-- Runs an action to the end of its shell, which gives the signal that ended it, if one did. -/
def concluded : Nat → Eval Flow → Eval (Option Nat)
  | 0, _ => unbounded
  | fuel + 1, act => do
    match ← attempt act with
    | some (.killed signal) => return some signal
    | _ =>
      let s ← get
      let ended ← match s.traps.find? "EXIT" with
        | none => pure none
        | some action => do
          set { s with traps := s.traps.filter fun e => e.1 != "EXIT" }
          let ended ← attempt (text false fuel action)
          if ended.isNone then setStatus s.status
          pure ended
      match ended with
      | some (.killed signal) => return some signal
      | _ =>
        let status := (← get).status
        await fuel
        setStatus status
        return none

/-- Runs the commands that are beside the script. -/
def await : Nat → Eval Unit
  | 0 => unbounded
  | fuel + 1 => do
    match (← get).jobs with
    | [] => return ()
    | job :: rest =>
      modify fun s => { s with jobs := rest }
      let s ← get
      let inner := { s with
        vars := job.vars
        arguments := job.arguments
        directory := job.directory
        targets := job.targets }
      set (inner.open 0 [])
      isolated fuel (command false fuel job.command)
      modify fun t => { t with
        vars := s.vars
        arguments := s.arguments
        directory := s.directory
        targets := s.targets
        finished := (job.process, t.status) :: t.finished }
      await fuel

/-- Evaluates the commands of a text. What can be read before a fault is evaluated first. -/
def text (tested : Bool) : Nat → String → Eval Flow
  | 0, _ => unbounded
  | fuel + 1, t => do
    match Script.read t with
    | .ok [] =>
      setStatus 0
      return .next
    | .ok commands => script tested fuel commands
    | .error fault =>
      let lines := t.splitOn "\n"
      match ← script tested fuel (readableStart lines (lines.length - 1)) with
      | .next =>
        modify fun s => { s with line := fault.line }
        fail fault.message
      | flow => return flow

/-- Evaluates an action with its streams led elsewhere. Where that is not possible, a special
command ends the shell. -/
def redirected : Nat → Bool → List Redirection → Eval Flow → Eval Flow
  | 0, _, _, _ => unbounded
  | fuel + 1, isSpecial, redirections, act => do
    if redirections.isEmpty then act
    else
      let targets := (← get).targets
      let all : Eval Flow := do
        if ← redirections.allM (redirection fuel) then act
        else
          setStatus 2
          if isSpecial then throw .failed else return .next
      all.followedBy (modify fun s => { s with targets })

def redirection : Nat → Redirection → Eval Bool
  | 0, _ => unbounded
  | fuel + 1, r => do
    match r with
    | .file stream mode target =>
      Redirection.redirect stream mode (← Expansion.text (capture fuel) fuel target)
    | .here stream word =>
      let t ← Expansion.text (capture fuel) fuel word
      modify fun s => s.open stream (Octets.ofText t)
      return true

/-- Binds the variables of assignments in turn, and gives what is bound as it is told. -/
def assignAll : Nat → List (String × Word) → Eval (List String)
  | 0, _ => unbounded
  | _ + 1, [] => return []
  | fuel + 1, (name, word) :: rest => do
    let value ← Expansion.assigned (capture fuel) fuel word
    assign name value
    return s!"{name}={value}" :: (← assignAll fuel rest)

/-- Evaluates an action, which gets what is bound as it is told, with variables that commands see.
They are then what they were before. -/
def withAssigned : Nat → List (String × Word) → (List String → Eval Flow) → Eval Flow
  | 0, _, _ => unbounded
  | fuel + 1, assignments, act => do
    let s ← get
    let all : Eval Flow := do
      let told ← assignAll fuel assignments
      modify fun t => { t with exported := assignments.map Prod.fst ++ t.exported }
      act told
    if assignments.isEmpty then all
    else all.followedBy (modify fun t => { t with
      exported := s.exported
      vars := restored s.vars (assignments.map Prod.fst) t.vars })

def simple (tested : Bool) : Nat → List (String × Word) → List Word → List Redirection → Eval Flow
  | 0, _, _, _ => unbounded
  | fuel + 1, assignments, words, redirections => do
    modify fun s => { s with captured := 0 }
    let words ← Call.expand (capture fuel) fuel [] words
    let s ← get
    let call := Call.ofWords (fun n => (s.functions.lookup n).isSome) words.length words
    match call.words with
    | [] =>
      redirected fuel false redirections do
        trace s.targets (← assignAll fuel assignments)
        modify fun t => { t with status := t.captured }
        return .next
    | name :: arguments =>
      let isSpecial := call.takesFunction && Lexicon.specialCommands.contains name
      let body? := if call.takesFunction && !isSpecial then s.functions.lookup name else none
      let traced := fun told => trace s.targets (told ++ words)
      match body? with
      | some body =>
        redirected fuel false redirections <| withAssigned fuel assignments fun told => do
          traced told
          Evaluation.call tested fuel body arguments
      | none =>
        let act := if isBuiltin name then guarded isSpecial name (invoke tested fuel name arguments)
          else do
            search fuel name arguments
            return .next
        if name == "exec" && arguments.isEmpty then
          if ← redirections.allM (redirection fuel) then
            traced (← assignAll fuel assignments)
            setStatus 0
            return .next
          else
            setStatus 2
            if isSpecial then throw .failed else return .next
        else if isSpecial then
          redirected fuel true redirections do
            traced (← assignAll fuel assignments)
            act
        else
          redirected fuel false redirections <| withAssigned fuel assignments fun told => do
            traced told
            act

def call (tested : Bool) : Nat → Command → List String → Eval Flow
  | 0, _, _ => unbounded
  | fuel + 1, body, arguments => do
    let s ← get
    set { s with arguments, locals := [], loops := 0, isInFunction := true, cursor := .start }
    let flow ← (command tested fuel body).followedBy <| modify fun t => { t with
      vars := t.locals.foldl (fun vars (name, value?) => rebound vars name value?) t.vars
      arguments := s.arguments
      locals := s.locals
      loops := s.loops
      isInFunction := s.isInFunction
      cursor := s.cursor }
    return if flow = .returns then .next else flow

def invoke (tested : Bool) : Nat → String → List String → Eval Flow
  | 0, _, _ => unbounded
  | fuel + 1, name, arguments => do
    match name, arguments with
    | "exit", [] => throw .exit
    | "exit", a :: _ => exitWith (← Builtin.number a)
    | "return", [] => return .returns
    | "return", a :: _ =>
      setStatus (← Builtin.number a)
      return .returns
    | "break", _ =>
      let levels ← levelsOf arguments
      setStatus 0
      let loops := (← get).loops
      return if loops = 0 then .next else .breaks (min levels loops)
    | "continue", _ =>
      let levels ← levelsOf arguments
      setStatus 0
      let loops := (← get).loops
      return if loops = 0 then .next else .continues (min levels loops)
    | "eval", _ => text tested fuel (" ".intercalate arguments)
    | ".", _ =>
      let (_, operands) ← Builtin.options "" "" arguments
      match operands with
      | [] =>
        setStatus 0
        return .next
      | path :: _ =>
        if !path.toList.contains '/' then fail s!"{path}: not found"
        match ← readFile path with
        | .ok octets =>
          let flow ← named path (text tested fuel (Octets.text octets))
          return if flow = .returns then .next else flow
        | .error e =>
          let _ ← Redirection.openFault "open" path "No such file" e
          setStatus 2
          throw .failed
    | "exec", _ =>
      let (_, operands) ← Builtin.options "" "" arguments
      match operands with
      | [] => return .next
      | program :: rest =>
        modify fun s => { s with traps := s.traps.filter fun e => e.2.isEmpty }
        search fuel program rest
        throw .exit
    | "command", _ =>
      let (asked, operands) ← Builtin.options "pvV" "" arguments
      match (asked.filter fun o => o.1 != 'p').getLast?, operands with
      | some (kind, _), name :: _ => setStatus (← describe (kind == 'V') name)
      | _, _ => setStatus 0
      return .next
    | "type", names =>
      let codes ← names.mapM (describe true)
      setStatus (codes.foldl max 0)
      return .next
    | "wait", _ =>
      let (_, operands) ← Builtin.options "" "" arguments
      let processes ← operands.mapM Job.processOf
      await fuel
      if operands.isEmpty then modify fun s => { s with untold := [] }
      let codes ← processes.mapM Job.statusOf
      setStatus (codes.getLast?.getD 0)
      return .next
    | "kill", _ => do
      signal fuel arguments
      return .next
    | _, _ =>
      match name with
      | "hash" => setStatus (← findPrograms arguments)
      | "fg" | "bg" => fail "No current job"
      | "alias" | "unalias" =>
        for a in arguments do complain s!"{name}: {a} not found"
        setStatus (if arguments.isEmpty then 0 else 1)
      | "times" => printLine "0m0.000000s 0m0.000000s\n0m0.000000s 0m0.000000s"
      | _ => if let some run := Builtin.table.lookup name then setStatus (← run arguments)
      return .next

def signal : Nat → List String → Eval Unit
  | 0, _ => unbounded
  | fuel + 1, arguments => do
    let (isList, signal?, targets) ← Job.signalRequest arguments
    if isList && signal?.isNone then Job.listSignals targets
    match signal?, targets.isEmpty || isList with
    | some number, false =>
      let codes ← targets.mapM (send fuel number)
      setStatus (codes.foldl max 0)
    | some _, true =>
      fail ("Usage: kill [-s sigspec | -signum | -sigspec] [pid | job]... or\n" ++
        "kill -l [exitstatus]")
    | none, _ => setStatus 0

/-- Sends a signal to a process, which gives the exit code of that. -/
def send : Nat → Nat → String → Eval Nat
  | 0, _, _ => unbounded
  | fuel + 1, number, target => do
    let process ← if target.startsWith "-" then Builtin.number (target.drop 1).toString
      else Job.processOf target
    let s ← get
    let isOwn := s.process < process && process ≤ s.process + s.started
    if target.startsWith "-" then refuse
    else if process = s.process then
      if number ≠ 0 && s.isPart then modify fun s => { s with pending := s.pending ++ [number] }
      else if number ≠ 0 then heedSignal fuel number
      return 0
    else if isOwn then
      if (s.jobs.any fun j => j.process == process) then
        if !Signal.isHarmless number then Job.terminate process number
        return 0
      else if (s.finished.lookup process).isSome then refuse
      else return 0
    else if ← system (.isAlive process) then
      if number = Signal.kill then system (.signal process .forced)
      else if number ≠ 0 then system (.signal process .graceful)
      return 0
    else refuse
where
  refuse : Eval Nat := do
    complainAt "No such process\n"
    return 1

/-- Runs a program that a command names. -/
def search : Nat → String → List String → Eval Unit
  | 0, _, _ => unbounded
  | fuel + 1, command, arguments => do
    match ← programPath? command with
    | some path =>
      if path != command then modify fun s => { s with found := s.found.bind command path }
      let s ← get
      set { s with context := "" }
      (external fuel command arguments).followedBy
        (modify fun t => { t with context := s.context })
    | none => complainOfMissing command

def external : Nat → String → List String → Eval Unit
  | 0, _, _ => unbounded
  | fuel + 1, path, arguments => do
    let name := programName path
    if shellNames.contains name then
      if let some number ← shell fuel path arguments then
        if let some report := Signal.report? number then complain report
        setStatus (128 + number)
    else if name == "env" then
      let s ← get
      let isBare := arguments.head? == some "-i" || arguments.head? == some "-"
      let arguments := if isBare then arguments.drop 1 else arguments
      if isBare then modify fun s => { s with exported := [] }
      let assigned := arguments.takeWhile fun a => a.toList.contains '='
      for a in assigned do
        let (name, value?) := Builtin.assignment a
        modify fun s => { s with
          vars := s.vars.bind name (value?.getD "")
          exported := name :: s.exported }
      match arguments.drop assigned.length with
      | program :: rest => search fuel program rest
      | [] => setStatus (← Utility.printVariables [])
      modify fun t => { t with vars := s.vars, exported := s.exported }
    else
      match plainCommand? name with
      | some run => setStatus (← run arguments)
      | none => complainOfMissing path

/-- Runs a shell in the shell, with the variables that commands see, and gives the signal that ended
it, if one did. -/
def shell : Nat → String → List String → Eval (Option Nat)
  | 0, _, _ => unbounded
  | fuel + 1, path, arguments => do
    let (letters, asks, operands) := shellOptions arguments
    let outer ← get
    let vars ← environment
    let (source?, name, given) ← match operands with
      | [] => do pure (some (Octets.text (← takeInput)), path, [])
      | first :: rest => do
        if asks then pure (some first, rest.headD path, rest.drop 1)
        else
          match ← readFile first with
          | .ok octets => pure (some (Octets.text octets), first, rest)
          | .error _ => pure (none, first, [])
    match source? with
    | none =>
      complain s!"{path}: 0: cannot open {name}: No such file"
      setStatus 2
      return none
    | some source =>
      set { (← get) with
        name
        arguments := given
        vars := Session.initial vars
        exported := vars.names
        constant := []
        functions := []
        locals := []
        isInFunction := false
        isPart := false
        context := ""
        loops := 0
        traps := outer.traps.filter fun e => e.2.isEmpty
        pending := []
        options := letters.foldl (fun o l => (Options.ofLetter? l).elim o (o.turn true)) ⟨[]⟩
        cursor := .start
        found := []
        jobs := []
        finished := []
        untold := []
        process := outer.process + 1 + outer.started
        started := 0
        line := 1
        status := 0
        captured := 0 }
      let killed? ← concluded fuel (text false fuel source)
      let inner ← get
      set { outer with
        status := inner.status % 256
        buffers := inner.buffers
        sources := inner.sources }
      return killed?

end

end Evaluation

end Runbook.Shell
