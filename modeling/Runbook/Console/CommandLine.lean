import Runbook.Console.Usage

/-!
The commands of the program, their help, and the command lines that call them.
-/

namespace Runbook.Console

def programName : String := "tp"

def versionText : String := "tp 0.1.0"

inductive ScheduleCommand where
  | add (file : FilePath)
  | list
  | remove (id : String)
  | toggle (id : String)
  | start (asDaemon : Bool)
  | stop
  | status
  deriving DecidableEq, Repr

inductive HistoryCommand where
  | list
  | timeline (file : String)
  | remove (file : String)
  | clear
  deriving DecidableEq, Repr

structure RunRequest where
  file : FilePath
  profile : Option String
  settings : List (String × String)
  isSilent : Bool
  deriving DecidableEq, Repr

inductive Command where
  | run (request : RunRequest)
  | schedule (command : ScheduleCommand)
  | history (command : HistoryCommand)
  deriving DecidableEq, Repr

structure CommandLine where
  home : Option FilePath
  command : Command
  deriving DecidableEq, Repr

/-! ### The description of the commands -/

def homeOption : Parameter :=
  ⟨"home", none, some "home", .path, "State directory for history, schedules and daemon files"⟩

def leaf (name about : String) (options : List Parameter) (operand : Option Parameter) :
    CommandForm :=
  ⟨name, about, options, operand, []⟩

def operandOf (id : String) (kind : ValueKind) (about : String) : Option Parameter :=
  some ⟨id, none, none, kind, about⟩

def runForm : CommandForm :=
  leaf "run" "Run a workflow file"
    [homeOption,
      ⟨"profile", some 'p', some "profile", .text, "Profile whose variables answer prompts"⟩,
      ⟨"vars", some 'v', some "var", .setting,
        "Variable override, KEY=VALUE. Wins over profile values"⟩,
      ⟨"silent", some 's', some "silent", .flag, "Suppress step output"⟩]
    (operandOf "file" .path "Workflow file (.yaml, .yml or .json)")

def scheduleForm : CommandForm where
  name := "schedule"
  about := "Manage cron schedules and the scheduler daemon"
  options := [homeOption]
  operand := none
  commands :=
    [leaf "add" "Add the schedules defined in a schedule file" [homeOption]
        (operandOf "file" .path ""),
      leaf "list" "List schedules" [homeOption] none,
      leaf "remove" "Remove a schedule" [homeOption] (operandOf "id" .text ""),
      leaf "toggle" "Enable or disable a schedule" [homeOption] (operandOf "id" .text ""),
      leaf "start" "Run the scheduler"
        [⟨"daemon", some 'd', some "daemon", .flag, "Detach and run in the background"⟩,
          homeOption] none,
      leaf "stop" "Stop the background scheduler" [homeOption] none,
      leaf "status" "Show whether the background scheduler is running" [homeOption] none]

def historyForm : CommandForm where
  name := "history"
  about := "Inspect stored execution history"
  options := [homeOption]
  operand := none
  commands :=
    [leaf "list" "List stored runs, newest first" [homeOption] none,
      leaf "show" "Show the timeline of a stored run" [homeOption] (operandOf "file" .text ""),
      leaf "remove" "Delete one stored run" [homeOption] (operandOf "file" .text ""),
      leaf "clean" "Delete every stored run" [homeOption] none]

def programForm : CommandForm where
  name := programName
  about := "Declarative task pipeline runner with cron scheduling"
  options := [homeOption]
  operand := none
  commands := [runForm, scheduleForm, historyForm]

/-! ### Command lines -/

namespace Given

def value? (g : Given) (id : String) : Option String := List.lookup id g.values

def isSet (g : Given) (id : String) : Bool := (g.value? id).isSome

def command? (g : Given) : Option Command :=
  let operand := fun id => (g.value? id).getD ""
  match g.commands with
  | ["run"] =>
    let settings := g.values.filterMap fun v => if v.1 == "vars" then setting? v.2 else none
    some (.run ⟨operand "file", g.value? "profile", settings, g.isSet "silent"⟩)
  | ["schedule", "add"] => some (.schedule (.add (operand "file")))
  | ["schedule", "list"] => some (.schedule .list)
  | ["schedule", "remove"] => some (.schedule (.remove (operand "id")))
  | ["schedule", "toggle"] => some (.schedule (.toggle (operand "id")))
  | ["schedule", "start"] => some (.schedule (.start (g.isSet "daemon")))
  | ["schedule", "stop"] => some (.schedule .stop)
  | ["schedule", "status"] => some (.schedule .status)
  | ["history", "list"] => some (.history .list)
  | ["history", "show"] => some (.history (.timeline (operand "file")))
  | ["history", "remove"] => some (.history (.remove (operand "file")))
  | ["history", "clean"] => some (.history .clear)
  | _ => none

end Given

/-- The command line that arguments write. `home` is the state directory that is set otherwise. -/
def CommandLine.read (home : Option String) (arguments : List String) :
    Except UsageError CommandLine := do
  let given ← CommandForm.read home [] programForm .empty false arguments
  match given.command? with
  | some command => return ⟨given.value? "home" <|> home, command⟩
  | none => throw .missingSubcommand

/-! ### Help -/

/-- The description of the command that names lead to, if it is not the one that helps. -/
def CommandForm.find? (form : CommandForm) : List String → Option CommandForm
  | [] => some form
  | name :: rest =>
    match form.commands.find? fun c => c.name == name with
    | some inner => inner.find? rest
    | none => none

def Parameter.placeholder (p : Parameter) : String := "<" ++ p.id.toUpper ++ ">"

def Parameter.usage (p : Parameter) : String :=
  let short := match p.short with
    | some c => s!"-{c}, "
    | none => "    "
  let value := if p.kind = .flag then "" else " " ++ p.placeholder
  short ++ "--" ++ p.long.getD p.id ++ value

def helpWidth : Nat := 100

/-- Words in lines that are no wider than is allowed, as far as every word by itself is not. -/
def wrapped (width : Nat) (line : String) : List String → List String
  | [] => [line]
  | word :: rest =>
    if line.length + 1 + word.length ≤ width then wrapped width (line ++ " " ++ word) rest
    else line :: wrapped width word rest

def wrappedLines (width : Nat) (text : String) : List String :=
  match text.splitOn " " with
  | [] => []
  | first :: rest => wrapped width first rest

/-- Rows of two columns under a heading. The right one is wrapped. -/
def helpSection (heading : String) (rows : List (String × String)) : String :=
  let width := ((rows.map fun r => r.1.length).max?).getD 0
  let indent := width + 4
  let row := fun (r : String × String) =>
    let lines := wrappedLines (helpWidth - indent) r.2
    "  " ++ r.1 ++ "".pushn ' ' (width + 2 - r.1.length) ++
      ("\n" ++ "".pushn ' ' indent).intercalate lines ++ "\n"
  "\n" ++ heading ++ "\n" ++ String.join (rows.map row)

def helpAbout : String := "Print this message or the help of the given subcommand(s)"

def helpOnHelp (names : List String) : String :=
  let operand := "[COMMAND]..."
  helpAbout ++ "\n\nUsage: " ++ " ".intercalate (programName :: names) ++ " " ++ operand ++ "\n" ++
    helpSection "Arguments:" [(operand, "Print help for the subcommand(s)")]

/-- The help on a command under its names; `home` is the state directory that is set otherwise. -/
def formHelp (home : Option String) (names : List String) (form : CommandForm) : String :=
  let setting := " [env: PIPELINER_HOME=" ++ home.getD "" ++ "]"
  let optionRow := fun o : Parameter =>
    (o.usage, o.about ++ if o.id == "home" then setting else "")
  let own := form.options.map optionRow ++ [("-h, --help", "Print help")] ++
    if names.isEmpty then [("-V, --version", "Print version")] else []
  let inner := form.commands.map (fun c => (c.name, c.about)) ++ [(helpName, helpAbout)]
  let call := " ".intercalate (programName :: names) ++ " [OPTIONS]" ++
    (if form.commands.isEmpty then "" else " <COMMAND>") ++
    (form.operand.map fun o => " " ++ o.placeholder).getD ""
  form.about ++ "\n\nUsage: " ++ call ++ "\n" ++
    (if form.commands.isEmpty then "" else helpSection "Commands:" inner) ++
    (form.operand.map fun o => helpSection "Arguments:" [(o.placeholder, o.about)]).getD "" ++
    helpSection "Options:" own

def helpText (home : Option String) (names : List String) : String :=
  match programForm.find? names with
  | some form => formHelp home names form
  | none => helpOnHelp names

end Runbook.Console
