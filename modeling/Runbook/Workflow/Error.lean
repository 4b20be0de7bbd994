import Runbook.FilePath

/-!
Why a workflow could not be read: the issues of its document, what is wrong, where, and sometimes
why it matters, or another cause, and the texts that say so.
-/

namespace Runbook

inductive Location where
  | root
  | profile (index : Nat)
  | step (index : Nat)
  | branch (step branch : Nat)
  deriving DecidableEq, Repr

def Location.text? : Location → Option String
  | .root => none
  | .profile i => some s!"profiles[{i}]"
  | .step i => some s!"step {i + 1}"
  | .branch i j => some s!"step {i + 1} → parallel branch {j + 1}"

def stepKinds : List String := ["run", "choose", "prompt", "parallel", "fail"]

inductive Fault where
  | notAnObject
  | nameNotText | baseDirNotText
  | shellNotList | shellEmpty | shellPartNotText (index : Nat)
  | profilesNotList | profileName | profileVariable (name : String) | profileVariables
  | stepsMissing | stepsEmpty | stepsNotList
  | stepNotObject | stepKindUnknown (keys : List String) | stepKindsSeveral (kinds : List String)
  | notInParallel (kind : String) | parallelNested
  | commandEmpty (field : String) | commandNotText (field : String)
  | timeoutTooLarge | timeoutNotDuration | retryNotCount | continueNotBool | onErrorNotObject
  | capturesNotList | captureNotObject (index : Nat) | captureName (index : Nat)
  | captureNotText (index : Nat) (key : String) | captureLines (index : Nat)
  | chooseNotObject | chooseMessage | chooseOptionsEmpty | chooseOptionsNotList
  | optionId (index : Nat) | optionLabel (index : Nat) | chooseName
  | promptNotObject | promptMessage | promptName | promptDefault
  | parallelEmpty | parallelNotList
  | failMessage
  | conditionNotObject | conditionsNotList (key : String) | fileNotPath
  | varNotText (name : String) | varNotNameOrMap | hasNotName | statusIncomplete
  | stepSuccess | lastStepOutcome | choiceNotOption | conditionUnknown (keys : List String)
  deriving DecidableEq, Repr

namespace Fault

def listed (items : List String) : String := "[" ++ ", ".intercalate items ++ "]"

def message : Fault → String
  | .notAnObject => "Workflow must be an object with a 'steps' array"
  | .nameNotText => "'name' must be a string"
  | .baseDirNotText => "'baseDir' must be a string"
  | .shellNotList => "'shell' must be an array"
  | .shellEmpty => "'shell' cannot be empty"
  | .shellPartNotText i => s!"'shell[{i}]' must be a string"
  | .profilesNotList => "'profiles' must be an array"
  | .profileName => "Profile name must be a non-empty string"
  | .profileVariable name => s!"Profile variable '{name}' must be a string, number or boolean"
  | .profileVariables => "'var' must be a map of variable names to values"
  | .stepsMissing => "'steps' is required"
  | .stepsEmpty => "'steps' cannot be empty"
  | .stepsNotList => "'steps' must be an array"
  | .stepNotObject => "Step must be an object"
  | .stepKindUnknown keys =>
    s!"Unknown step type. Found keys: {listed keys}. Valid types: " ++ ", ".intercalate stepKinds
  | .stepKindsSeveral kinds => s!"Step has more than one type: {listed kinds}"
  | .notInParallel kind => s!"'{kind}' step is not allowed inside 'parallel' block"
  | .parallelNested => "'parallel' step is not allowed inside 'parallel' block"
  | .commandEmpty field => s!"'{field}' command cannot be empty"
  | .commandNotText field => s!"'{field}' must be a string command"
  | .timeoutTooLarge => "'timeout' is too large"
  | .timeoutNotDuration => "'timeout' must be a non-negative number of seconds"
  | .retryNotCount => "'retry' must be a non-negative integer or \"Infinity\""
  | .continueNotBool => "'continue' must be a boolean"
  | .onErrorNotObject => "'onError' must be an object with a 'run' command"
  | .capturesNotList => "'captures' must be an array"
  | .captureNotObject i => s!"'captures[{i}]' must be an object"
  | .captureName i => s!"'captures[{i}].as' is required"
  | .captureNotText i key => s!"'captures[{i}].{key}' must be a string"
  | .captureLines i => s!"'captures[{i}].line' must have numeric 'from' and 'to'"
  | .chooseNotObject => "'choose' must be an object with 'message' and 'options'"
  | .chooseMessage => "'choose.message' is required and must be a string"
  | .chooseOptionsEmpty => "'choose.options' cannot be empty"
  | .chooseOptionsNotList => "'choose.options' is required and must be an array"
  | .optionId i => s!"'choose.options[{i}].id' is required and must be a string"
  | .optionLabel i => s!"'choose.options[{i}].label' is required and must be a string"
  | .chooseName => "'choose.as' must be a string"
  | .promptNotObject => "'prompt' must be an object with 'message' and 'as'"
  | .promptMessage => "'prompt.message' is required and must be a string"
  | .promptName => "'prompt.as' is required and must be a string"
  | .promptDefault => "'prompt.default' must be a string"
  | .parallelEmpty => "'parallel' cannot be empty"
  | .parallelNotList => "'parallel' must be an array of steps"
  | .failMessage => "'fail.message' is required and must be a string"
  | .conditionNotObject => "'when' must be an object"
  | .conditionsNotList key => s!"'{key}' must be an array of conditions"
  | .fileNotPath => "'file' condition must be a path string"
  | .varNotText name => s!"'var.{name}' must be a string value"
  | .varNotNameOrMap => "'var' condition must be a name or a map of values"
  | .hasNotName => "'has' condition must be a variable name"
  | .statusIncomplete => "'status' condition needs 'fact' and 'is' (ready, failed or pending)"
  | .stepSuccess => "'step' condition needs a boolean 'success'"
  | .lastStepOutcome => "'last_step' must be \"success\" or \"failure\""
  | .choiceNotOption => "'choice' condition must be an option id"
  | .conditionUnknown keys => s!"Unknown condition. Found keys: {listed keys}"

def reason? : Fault → Option String
  | .shellEmpty => some "Shell configuration must have at least one element (program name)"
  | .stepsMissing => some "A workflow must have a 'steps' array with at least one step"
  | .stepsEmpty => some "Workflow must have at least one step"
  | .notInParallel _ => some "User input prompts cannot run in parallel"
  | .parallelNested => some "Parallel blocks cannot be nested"
  | .captureName _ => some "The 'as' field names the variable that receives the value"
  | .chooseOptionsEmpty => some "At least one option is required"
  | .promptName => some "The 'as' field specifies the variable name to store the user's input"
  | .parallelEmpty => some "At least one branch is required"
  | _ => none

end Fault

structure Issue where
  fault : Fault
  location : Location
  deriving DecidableEq, Repr

def issueText (message : String) (location reason : Option String) : String :=
  "  - " ++ message ++ (location.map (fun l => " (" ++ l ++ ")")).getD "" ++
    (reason.map ("\n    Reason: " ++ ·)).getD ""

def Issue.text (i : Issue) : String := issueText i.fault.message i.location.text? i.fault.reason?

inductive FileFormat where
  | yaml | json
  deriving DecidableEq, Repr

def FileFormat.name : FileFormat → String
  | .yaml => "YAML"
  | .json => "JSON"

inductive WorkflowError where
  | unsupportedFormat (path : FilePath)
  | format (format : FileFormat)
  | validation (issues : List Issue)
  | noProfiles (name : String)
  | profileNotFound (name : String) (available : List String)
  | unreadable (path : FilePath) (cause : String)
  deriving DecidableEq, Repr

namespace WorkflowError

def message : WorkflowError → String
  | .unsupportedFormat path => s!"Unsupported file format: {path}. Use .yaml, .yml or .json"
  | .format f => s!"Invalid {f.name} format: <detail>"
  | .validation issues =>
    "Invalid workflow structure:\n" ++ "\n".intercalate (issues.map Issue.text)
  | .noProfiles name =>
    s!"Profile \"{name}\" requested but workflow has no \"profiles\" defined"
  | .profileNotFound name available =>
    s!"Profile \"{name}\" not found. Available profile(s): " ++ ", ".intercalate available
  | .unreadable path cause => s!"Failed to read {path}: {cause}"

/-- The message with the cause after it, which the message of a file that cannot be read names
too. -/
def fullMessage (e : WorkflowError) : String :=
  match e with
  | .unreadable _ cause => e.message ++ ": " ++ cause
  | _ => e.message

end WorkflowError

/-- The format that the extension of a file's name says, in any case. -/
def FileFormat.ofPath? (path : FilePath) : Except WorkflowError FileFormat :=
  match (path.extension?.map String.toLower) with
  | some "yaml" => .ok .yaml
  | some "yml" => .ok .yaml
  | some "json" => .ok .json
  | _ => .error (.unsupportedFormat path)

end Runbook
