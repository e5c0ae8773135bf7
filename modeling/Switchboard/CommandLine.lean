import Switchboard.Arguments
import Switchboard.Duration
import Switchboard.Text.Numeral
/-!
# The command line of the program

The options of the program, some of which may come from variables, and its three commands.

* `Command` — what to do: watch a service, call it, or register an instance.
* `CommandLine` — everything that is given.
* `CommandLine.read` — the command line that arguments and variables make.
-/

namespace Switchboard

open Arguments

/-- Which service to resolve, and the filters on its instances. -/
structure ServiceArgs where
  service : String
  tags : List String := []
  passingOnly : Bool := false
  deriving DecidableEq, Repr, Inhabited

/-- The instance to register. -/
structure RegisterArgs where
  name : String
  address : String
  port : Nat
  id : Option String := none
  tags : List String := []
  deriving DecidableEq, Repr, Inhabited

/-- What to do. -/
inductive Command
  | watch (service : ServiceArgs)
  | call (service : ServiceArgs) (payload : String) (intervalMillis : Nat)
  | register (instance_ : RegisterArgs)
  deriving DecidableEq, Repr, Inhabited

namespace Command

def interval? : Command → Option Duration
  | .call _ _ ms => some (.ofMillis ms)
  | _ => none

end Command

/-- Everything that is given on the command line. -/
structure CommandLine where
  /-- The address of the agent, or the instances of an in-process catalog. -/
  consulAddr : String
  consulToken : Option String
  datacenter : Option String
  configPath : Option String
  threadName : String
  threads : Option Nat
  logFilter : String
  command : Command
  deriving DecidableEq, Repr, Inhabited

namespace CommandLine

/-! ## What is given when nothing is -/

def defaultConsulAddr : String := "http://127.0.0.1:8500"

def defaultThreadName : String := "relay-worker"

def defaultLogFilter : String := "info"

def defaultPayload : String := "ping"

def defaultIntervalMillis : Nat := 1000

/-! ## What the commands take -/

/-- Is the text a natural number of 64 bits? -/
def isCount (s : String) : Bool := (Text.readNatural Text.maxWord64 s.toList).isOk

/-- The port that a text stands for; it may have any sign that leaves it in range. -/
def port? (s : String) : Option Nat :=
  match Text.readInteger Text.maxWord64 Text.maxWord64 s.toList with
  | .ok n => if 0 ≤ n ∧ n ≤ Text.maxWord16 then some n.toNat else none
  | .error _ => none

/-- The options that show the help. -/
def helpOption : OptionSpec := { name := "help", letter := some 'h', arity := .help }

/-- What the program takes in front of a command. -/
def program : CommandSpec where
  options := [
    { name := "consul-addr", variable_ := some "CONSUL_ADDR" },
    { name := "consul-token", variable_ := some "CONSUL_TOKEN" },
    { name := "datacenter", variable_ := some "DATACENTER" },
    { name := "config-path", letter := some 'c', kind := .path, variable_ := some "CONFIG_PATH" },
    { name := "thread-name", variable_ := some "THREAD_NAME" },
    { name := "threads", kind := .read isCount, variable_ := some "THREADS" },
    { name := "relay-log", variable_ := some "RELAY_LOG" },
    helpOption]
  commands := ["watch", "call", "register", CommandSpec.helpCommand]

def serviceOperand : OptionSpec := { name := "service", required := true }

def serviceOptions : List OptionSpec :=
  [{ name := "tag", arity := .many }, { name := "passing-only", arity := .switch }]

def watchSpec : CommandSpec where
  options := serviceOptions ++ [helpOption]
  operand := some serviceOperand

def callSpec : CommandSpec where
  options := serviceOptions ++ [
    { name := "payload", variable_ := some "PAYLOAD" },
    { name := "interval-ms", kind := .read isCount, variable_ := some "INTERVAL_MS" },
    helpOption]
  operand := some serviceOperand

def registerSpec : CommandSpec where
  options := [
    { name := "address", required := true },
    { name := "port", kind := .read fun s => (port? s).isSome, required := true },
    { name := "id" },
    { name := "tag", arity := .many },
    helpOption]
  operand := some { name := "name", required := true }

/-- The variables that options may come from. -/
def variableNames : List String := (program.options ++ callSpec.options).filterMap (·.variable_)

/-! ## From values to the command line -/

/-- The count that a checked value stands for. -/
def countOf (s : String) : Nat := (Text.readNatural Text.maxWord64 s.toList).toOption.getD 0

def serviceOf (m : Matches) : ServiceArgs where
  service := (m.get? "service").getD ""
  tags := m.all "tag"
  passingOnly := m.has "passing-only"

def callOf (m : Matches) : Command :=
  .call (serviceOf m) ((m.get? "payload").getD defaultPayload)
    (((m.get? "interval-ms").map countOf).getD defaultIntervalMillis)

def registerOf (m : Matches) : RegisterArgs where
  name := (m.get? "name").getD ""
  address := (m.get? "address").getD ""
  port := ((m.get? "port").bind port?).getD 0
  id := m.get? "id"
  tags := m.all "tag"

/-- The command line of the values in front of the command. -/
def ofMatches (m : Matches) (command : Command) : CommandLine where
  consulAddr := (m.get? "consul-addr").getD defaultConsulAddr
  consulToken := m.get? "consul-token"
  datacenter := m.get? "datacenter"
  configPath := m.get? "config-path"
  threadName := (m.get? "thread-name").getD defaultThreadName
  threads := (m.get? "threads").map countOf
  logFilter := (m.get? "relay-log").getD defaultLogFilter
  command

/-- The arguments of a command without commands within it. -/
def readCommand (spec : CommandSpec) (assigned : List (String × String)) (args : List String) :
    Except UsageFault Matches := do
  let (s, _) ← spec.read {} args
  spec.finish assigned s false

/-- The command that a name and the arguments after it make. -/
def commandOf (assigned : List (String × String)) (name : String) (args : List String) :
    Except UsageFault Command :=
  match name with
  | "watch" => (readCommand watchSpec assigned args).map fun m => .watch (serviceOf m)
  | "call" => (readCommand callSpec assigned args).map callOf
  | _ => (readCommand registerSpec assigned args).map fun m => .register (registerOf m)

/-- The command line of the arguments after the program's name, with the values of variables. The
command's own arguments are looked at before what is left to check in front of it. -/
def read (args : List String) (assigned : List (String × String)) :
    Except UsageFault CommandLine := do
  let (s, command?) ← program.read {} args
  let command? ← command?.mapM fun c => commandOf assigned c.1 c.2
  let m ← program.finish assigned s command?.isSome
  match command? with
  | some command => return ofMatches m command
  | none => throw .noCommand

end CommandLine

end Switchboard
