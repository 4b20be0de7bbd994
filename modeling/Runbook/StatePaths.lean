import Runbook.Bindings
import Runbook.FilePath

/-!
Where the state is kept between runs: the directory of histories, the file of schedules, and the
files of the scheduler daemon.
-/

namespace Runbook

structure StatePaths where
  root : FilePath
  history : FilePath
  schedules : FilePath
  daemon : FilePath
  deriving DecidableEq, Repr

abbrev Environment := Bindings String

namespace StatePaths

def beneath (root : FilePath) : StatePaths where
  root
  history := root.join "history"
  schedules := root.join "schedules.json"
  daemon := root.join "daemon"

def configFile (p : StatePaths) : FilePath := p.root.join "config.toml"

def pidFile (p : StatePaths) : FilePath := p.daemon.join "scheduler.pid"

def startTimeFile (p : StatePaths) : FilePath := p.daemon.join "scheduler.started"

def errorLog (p : StatePaths) : FilePath := p.daemon.join "daemon-error.log"

def daemonLog (p : StatePaths) : FilePath := p.daemon.join "scheduler.log"

end StatePaths

namespace Environment

/-- The value of a variable that is set and not empty. -/
def filled? (e : Environment) (name : String) : Option String :=
  (e.find? name).filter fun value => !value.isEmpty

/-- The state directory: the one that is set, or else one of a fixed name in the user's own
directory, which is the current one if none is known. -/
def stateRoot (e : Environment) : FilePath :=
  match e.filled? "PIPELINER_HOME" with
  | some root => root
  | none =>
    let user := (e.find? "HOME" <|> e.find? "USERPROFILE").filter fun value => !value.isEmpty
    FilePath.join (user.getD ".") ".pipeliner"

def isDaemonProcess (e : Environment) : Bool := e.find? "PIPELINER_DAEMON_MODE" == some "true"

end Environment

end Runbook
