import Runbook.Word
import Std.Time.DateTime.Timestamp
import Runbook.Console.Application

/-!
The program on the system that it is called on: every call of an interaction is made there. Commands
of workflows are carried out by the program itself; it neither starts other processes nor signals
them.
-/

namespace Runbook.System

def errorWord : IO.Error → UInt32
  | .noFileOrDirectory _ code _ => code
  | .noSuchThing _ code _ => code
  | .alreadyExists _ code _ => code
  | .inappropriateType _ code _ => code
  | .unsatisfiedConstraints code _ => code
  | .resourceBusy code _ => code
  | .otherError code _ => code
  | _ => 0

/-- The error that a number stands for; all others count as refusals. -/
def errorOf (e : IO.Error) : SystemError :=
  let known : List SystemError := [.notFound, .exists, .notDirectory, .isDirectory, .notEmpty]
  let code := (errorWord e).toInt32.toInt.natAbs
  (known.find? fun k => k.code = code).getD .notPermitted

def attempt {α : Type} (action : IO α) : IO (Except SystemError α) := do
  try return .ok (← action) catch e => return .error (errorOf e)

def attempt? {α : Type} (action : IO α) : IO (Option α) := do
  try return some (← action) catch _ => return none

def millisecondsPerHour : Nat := 3600000

/-- Waits, rounded up to whole milliseconds. -/
def sleep (d : Duration) : IO Unit := do
  let milliseconds := (d.nanoseconds + 999999) / 1000000
  for _ in [0 : milliseconds / millisecondsPerHour] do
    IO.sleep millisecondsPerHour.toUInt32
  IO.sleep (milliseconds % millisecondsPerHour).toUInt32

def now : IO Timestamp := do
  let time ← Std.Time.Timestamp.now
  return ⟨time.val.second.val, time.val.nano.val.toNat⟩

def freshName : IO String := do
  let octets ← IO.getRandomBytes 16
  return String.join (octets.toList.map fun b => Machine.hexDigits 2 b.toNat)

def kindOf (type : IO.FS.FileType) : NodeKind :=
  match type with
  | .dir => .directory
  | _ => .file

def processId : IO Nat := do
  let status ← attempt (IO.FS.readFile ⟨"/proc/self/stat"⟩)
  return ((status.toOption.bind fun s => ((s.splitOn " ").head?).bind String.toNat?)).getD 0

/-- Whether there is a process with a number; zero stands for the process's own group. -/
def isAlive (pid : Nat) : IO Bool := do
  if pid = 0 then return true
  (System.mkFilePath ["/proc", toString pid]).pathExists

def reply : (call : SystemCall) → IO call.Reply
  | .read path => attempt (IO.FS.readFile ⟨path⟩)
  | .write path text => attempt (IO.FS.writeFile ⟨path⟩ text)
  | .append path text => attempt (IO.FS.withFile ⟨path⟩ .append fun h => h.putStr text)
  | .remove path => attempt (IO.FS.removeFile ⟨path⟩)
  | .rename source target => attempt (IO.FS.rename ⟨source⟩ ⟨target⟩)
  | .makeDirectories path =>
    if path.isEmpty then return .ok () else attempt (IO.FS.createDirAll ⟨path⟩)
  | .removeDirectory path => attempt (IO.FS.removeDir ⟨path⟩)
  | .list path => attempt do
    let names := (← (System.mkFilePath [path]).readDir).toList.map IO.FS.DirEntry.fileName
    return names.mergeSort fun a b => decide (a ≤ b)
  | .kind path => do
    let data ← attempt? (System.mkFilePath [path]).metadata
    return data.map fun m => kindOf m.type
  | .canonicalize path => attempt do return (← IO.FS.realPath ⟨path⟩).toString
  | .modified path => do
    let data ← attempt? (System.mkFilePath [path]).metadata
    return data.map fun m => ⟨m.modified.sec, m.modified.nsec.toNat⟩
  | .lock => return ()
  | .unlock => return ()
  | .processId => processId
  | .isAlive pid => isAlive pid
  | .signal _ _ => return ()
  | .hasExited pid => do return !(← isAlive pid)
  | .sleep d => sleep d
  | .now => now
  | .freshName => freshName

def environment : IO Environment := do
  let octets ← attempt? (IO.FS.readBinFile ⟨"/proc/self/environ"⟩)
  let entries := (Text.Utf8.decode (octets.getD ByteArray.empty).toList).splitOn "\x00"
  return .ofPairs <| entries.filterMap fun entry =>
    let name := entry.toList.takeWhile (· ≠ '=')
    if name.isEmpty || name.length = entry.length then none
    else some (String.ofList name, String.ofList (entry.toList.drop (name.length + 1)))

end Runbook.System

namespace Runbook.Console

def inputSize : USize := 65536

/-- What is left of the input; `reads` bounds how often it is read. -/
def readInput (input : IO.FS.Stream) : Nat → IO (List UInt8)
  | 0 => return []
  | reads + 1 => do
    let octets ← input.read inputSize
    if octets.isEmpty then return []
    return octets.toList ++ (← readInput input reads)

/-- Makes a call of an interaction. What is kept is what a command left of the input. The wait to be
told to stop ends with the process, or after an hour at the latest. -/
def reply : (call : ConsoleCall) → StateT (List UInt8) IO call.Reply
  | .system c => StateT.lift (Runbook.System.reply c)
  | .write stream text => do
    let out ← match stream with
      | .stdout => (IO.getStdout : IO IO.FS.Stream)
      | .stderr => (IO.getStderr : IO IO.FS.Stream)
    out.putStr text
    out.flush
  | .readLine => do
    let kept ← get
    if kept.isEmpty then
      let line ← (← (IO.getStdin : IO IO.FS.Stream)).getLine
      return if line.isEmpty then none else some line
    else
      let line := kept.takeWhile (· != 10)
      set (kept.drop (line.length + 1))
      return some (Text.Utf8.decode (line ++ [10]))
  | .takeInput => do
    let kept ← get
    let input ← (IO.getStdin : IO IO.FS.Stream)
    if ← input.isTty then return kept
    return kept ++ (← readInput input (Word.count 32))
  | .returnInput octets => set octets
  | .awaitStop limit => do
    let hour := Duration.ofSeconds 3600
    Runbook.System.sleep ((limit.getD hour).atMost hour)
    return false
  | .launch _ => return .error .notPermitted

def call (arguments : List String) : IO Exit := do
  let current ← IO.currentDir
  let environment ← Runbook.System.environment
  let invocation : Invocation := ⟨current.toString, environment, arguments, Word.count 48⟩
  let (ended, _) ← (invocation.run.runIn reply).run []
  return .ofEnd ended

end Runbook.Console

def main (arguments : List String) : IO UInt32 := do
  return (← Runbook.Console.call arguments).code.toUInt32
