import Switchboard.Logging.Layout
import Switchboard.Program.Announcing
import Switchboard.Program.Calling
import Switchboard.Program.Limits
import Switchboard.Program.Watching
import Switchboard.Settings.Reader
import Switchboard.Variable
/-!
# A run of the program

From the command line to the exit status: the settings are read, the command starts, runs until
it is interrupted or fails, and everything worth telling is logged in the layout asked for.

* `Surroundings` — what a run finds around it.
* `Job` — a command at work.
* `start` — the command starts, or there is a reason why it does not.
* `prepare` — what is settled before that.
* `Transcript`, `transcript` — what a run that is interrupted at some point leaves behind.
-/

namespace Switchboard.Program

/-- What a run finds around it. -/
structure Surroundings where
  assigned : List (String × String) := []
  files : String → Except FileFault ByteArray := fun _ => .error .missing
  network : Agent.Network := .refusing
  peers : Peers := .absent
  /-- What the clock of the system reads as the command starts, in nanoseconds. -/
  uptime : Nat := 0

/-! ## Commands at work -/

/-- A command at work. -/
inductive Job
  | watching (w : Watching)
  | calling (c : Calling)
  | announcing (a : Announcing)

namespace Job

def log : Job → List LogLine
  | .watching w => w.log
  | .calling c => c.log
  | .announcing a => a.log

/-- The time that has gone by, in milliseconds. -/
def now : Job → Nat
  | .watching w => w.run.now
  | .calling c => c.now
  | .announcing _ => 0

/-- How the command broke down, if it did. -/
def broken : Job → Option Breakdown
  | .calling c => c.broken
  | _ => none

/-- How the command ended by itself, if it did: well, or with a fault. -/
def ending : Job → Option (Option Fault)
  | .watching _ | .calling _ => none
  | .announcing a => a.ending

/-- Is the command over by itself? -/
def isOver (job : Job) : Bool := job.ending.isSome || job.broken.isSome

/-- The command does the next thing that it does by itself. -/
def proceed (j : Nat → Jitter) : Job → Job
  | .calling c => .calling ((c.callOnce j).getD c)
  | job => job

/-- The command until enough was logged, or for `fuel` more things to do. -/
def proceedUntil (j : Nat → Jitter) (enough : List LogLine → Bool) : Nat → Job → Job
  | 0, job => job
  | fuel + 1, job =>
    if enough job.log || job.isOver then job
    else proceedUntil j enough fuel (job.proceed j)

def advance (j : Nat → Jitter) (ms : Nat) : Job → Job
  | .watching w => .watching (w.advance (j 0) ms)
  | .calling c => .calling (c.callsUntil j (c.due + ms))
  | job => job

def interrupt : Job → Job
  | .watching w => .watching w.interrupt
  | .calling c => .calling c
  | .announcing a => .announcing a.interrupt

end Job

/-! ## The start -/

/-- Why a command does not start. -/
inductive StartFault
  | settings (why : Settings.ReadFault)
  | broken (how : Breakdown)
  | unanswered
  deriving DecidableEq, Repr, Inhabited

/-- The settings that a command line names, or else the standard ones. -/
def settingsOf (c : CommandLine) (s : Surroundings) : Except Settings.ReadFault Settings :=
  match c.configPath with
  | some path => Settings.ofFile path (s.files path)
  | none => .ok .standard

/-- A command that started, or did not, and what was logged until then. -/
structure Started where
  log : List LogLine := []
  job : Except StartFault Job

/-- A command starts with settings. -/
def startWith (c : CommandLine) (settings : Settings) (s : Surroundings) (j : Jitter) : Started :=
  let origin := Origin.ofCommandLine c
  match c.command with
  | .watch args =>
    let settings := settings.merge args.tags args.passingOnly
    { log := [origin.line args.service]
      job :=
        match Watching.begin? (origin.backend args.service s.network) settings args.service with
        | some w => .ok (.watching (w.settle j))
        | none => .error .unanswered }
  | .call args payload interval =>
    let settings := settings.merge args.tags args.passingOnly
    let backend := origin.backend args.service s.network
    match Calling.begin? backend settings args.service payload interval s.peers s.uptime with
    | some calling =>
      match calling.broken with
      | some how => { log := origin.line args.service :: calling.log, job := .error (.broken how) }
      | none => { log := [origin.line args.service], job := .ok (.calling calling) }
    | none => { log := [origin.line args.service], job := .error .unanswered }
  | .register args =>
    let directory := origin.directory args.name s.network
    { log := [origin.line args.name]
      job := .ok (.announcing (Announcing.begin directory (registrationOf args))) }

def start (c : CommandLine) (s : Surroundings) (j : Jitter) : Started :=
  match settingsOf c s with
  | .ok settings => startWith c settings s j
  | .error why => { job := .error (.settings why) }

/-! ## Faults of the start -/

/-- Why a file cannot be read, below the fault that says so. -/
def unreadable (path reason : String) : Fault :=
  .context (Settings.missingMessage path) (.message reason)

/-- Settings that cannot be read, as a fault. -/
def faultOfSettings (path : String) : Settings.ReadFault → Fault
  | .unreadable path why => unreadable path why.text
  | .notText => unreadable path "stream did not contain valid UTF-8"
  | .json | .yaml => .message "the settings cannot be read"
  | .invalid why => .message why.message

/-- A fault that ends a run. -/
def exitLine (f : Fault) : LogLine := ⟨.error, target, "exited with error", [("err", f.report)]⟩

/-- A breakdown that ends a run. -/
def breakdownLine (how : Breakdown) : LogLine :=
  ⟨.error, target, "failed to start relay",
    [("err", "JoinError::Panic(Id(#), " ++ Text.quoted how.message ++ ", ...)")]⟩

/-- What is logged of a command that did not start. -/
def lineOfStart (c : CommandLine) : StartFault → List LogLine
  | .settings why => [exitLine (faultOfSettings (c.configPath.getD "") why)]
  | .broken how => [breakdownLine how]
  | .unanswered => []

/-- What is logged of a command that is over, after all that it logged itself. -/
def Job.lastWords (job : Job) : List LogLine :=
  match job.broken, job.ending with
  | some how, _ => [breakdownLine how]
  | none, some (some f) => [exitLine f]
  | none, _ => []

/-! ## Transcripts -/

/-- What a run leaves behind. -/
structure Transcript where
  exit : Nat
  /-- The lines of standard output, without the time in front of them. -/
  output : List String := []
  /-- What is written to standard error, where that is not left to others. -/
  complaint : Option String := none
  deriving DecidableEq, Repr, Inhabited

/-- All that is logged of a command, which is interrupted once there is enough of it. -/
def logOf (c : CommandLine) (s : Surroundings) (j : Nat → Jitter)
    (enough : List LogLine → Bool) (fuel : Nat) : List LogLine :=
  let started := start c s (j 0)
  started.log ++
    match started.job with
    | .error why => lineOfStart c why
    | .ok job =>
      let job := (job.proceedUntil j (fun log => enough (started.log ++ log)) fuel).interrupt
      job.log ++ job.lastWords

/-- The variable that names the layout of log lines. -/
def layoutVariable : String := "LOG_FORMAT"

/-- The layout of log lines. -/
def layoutOf (s : Surroundings) : Except Fault LogLayout :=
  Variable.readNamed LogLayout.read layoutVariable (s.assigned.lookup layoutVariable)
    LogLayout.standardName

/-- The variables that a run looks at. -/
def variablesRead : List String := layoutVariable :: CommandLine.variableNames

/-- What is settled before a command starts. -/
structure Prepared where
  line : CommandLine
  filter : LogFilter
  layout : LogLayout

def Prepared.rendered (p : Prepared) (log : List LogLine) : List String :=
  (log.filter (·.passes p.filter)).flatMap (·.render p.layout)

/-- Arguments and variables are read; if they are not right, the run is over already. -/
def prepare (args : List String) (s : Surroundings) : Except Transcript Prepared :=
  match CommandLine.read args s.assigned with
  | .error _ => .error { exit := 2 }
  | .ok line =>
    match layoutOf s with
    | .error f => .error { exit := 1, complaint := some ("Error: " ++ f.report ++ "\n") }
    | .ok layout =>
      match breakdownOfWorkers line.threads with
      | some _ => .error { exit := 101 }
      | none => .ok { line, filter := LogFilter.read line.logFilter, layout }

/-- A run that is interrupted once it has written so many lines of output. -/
def transcript (args : List String) (s : Surroundings) (j : Nat → Jitter)
    (interruptAfter : Nat) : Transcript :=
  match prepare args s with
  | .error t => t
  | .ok p =>
    let enough (log : List LogLine) : Bool := interruptAfter ≤ (p.rendered log).length
    { exit := 0
      output := p.rendered (logOf p.line s j enough (interruptAfter + 1))
      complaint := some "" }

end Switchboard.Program
