/-!
# Reading command lines

Options, switches, one operand and commands, read from the left. An option takes its value from
the same argument after an equals sign, or else from the next one, unless that is an option too.
What an option was given is looked at when the next option, or the end, shows that it is complete;
so an argument that is no option at all is met before a value that is none.

* `UsageFault` — what is wrong with a command line.
* `OptionSpec`, `CommandSpec` — what a command takes.
* `Matches` — the values given.
* `CommandSpec.read` — the arguments of a command up to a command within it.
* `CommandSpec.finish` — the end: values from variables, and what has to be there.
-/

namespace Switchboard

/-- What is wrong with a command line. -/
inductive UsageFault
  | missing
  | unknown
  | badValue
  | noValue
  | unknownCommand
  | repeated
  | valueOfSwitch
  | help
  | nothing
  | noCommand
  deriving DecidableEq, Repr, Inhabited

def UsageFault.kind : UsageFault → String
  | .missing => "MissingRequiredArgument"
  | .unknown => "UnknownArgument"
  | .badValue => "ValueValidation"
  | .noValue => "InvalidValue"
  | .unknownCommand => "InvalidSubcommand"
  | .repeated => "ArgumentConflict"
  | .valueOfSwitch => "TooManyValues"
  | .help => "DisplayHelp"
  | .nothing => "DisplayHelpOnMissingArgumentOrSubcommand"
  | .noCommand => "MissingSubcommand"

namespace Arguments

/-- How an option is given. -/
inductive Arity
  | once
  | many
  | switch
  | help
  deriving DecidableEq, Repr, Inhabited

/-- What a value has to be. -/
inductive ValueKind
  | text
  | path
  | read (accepts : String → Bool)
  deriving Inhabited

/-- Why a value is none of its kind. -/
def ValueKind.fault? (k : ValueKind) (value : String) : Option UsageFault :=
  match k with
  | .text => none
  | .path => if value.isEmpty then some .noValue else none
  | .read accepts => if accepts value then none else some .badValue

/-- An option, or the operand of a command. -/
structure OptionSpec where
  name : String
  letter : Option Char := none
  arity : Arity := .once
  kind : ValueKind := .text
  /-- The variable that gives its value when the command line does not. -/
  variable_ : Option String := none
  required : Bool := false
  deriving Inhabited

/-- What a command takes. -/
structure CommandSpec where
  options : List OptionSpec
  operand : Option OptionSpec := none
  /-- The commands within it, of which one has to follow. -/
  commands : List String := []
  deriving Inhabited

/-- The values given, by option, in order. -/
structure Matches where
  values : List (String × String) := []
  deriving DecidableEq, Repr, Inhabited

namespace Matches

def has (m : Matches) (name : String) : Bool := m.values.any fun v => v.1 == name

def all (m : Matches) (name : String) : List String :=
  (m.values.filter fun v => v.1 == name).map (·.2)

def get? (m : Matches) (name : String) : Option String := m.values.lookup name

def add (m : Matches) (name value : String) : Matches := ⟨m.values ++ [(name, value)]⟩

end Matches

/-- A command line being read. -/
structure State where
  found : Matches := {}
  /-- The option or operand met last, with its value if it has one. -/
  pending : Option (OptionSpec × Option String) := none
  waiting : Bool := false
  operandMet : Bool := false
  operandsOnly : Bool := false
  deriving Inhabited

/-- An option is complete, with the values it was given. -/
def take (found : Matches) (o : OptionSpec) (value : Option String) : Except UsageFault Matches :=
  match o.arity, value with
  | .help, _ => .error .help
  | .switch, _ => if found.has o.name then .error .repeated else .ok (found.add o.name "")
  | _, none => .error .noValue
  | .once, some v =>
    if found.has o.name then .error .repeated
    else
      match o.kind.fault? v with
      | some f => .error f
      | none => .ok (found.add o.name v)
  | .many, some v =>
    match o.kind.fault? v with
    | some f => .error f
    | none => .ok (found.add o.name v)

namespace State

/-- The option or operand met last is complete. -/
def settle (s : State) : Except UsageFault State :=
  match s.pending with
  | none => .ok s
  | some (o, value) => (take s.found o value).map fun found => { s with found, pending := none }

/-- An option with all that it takes. -/
def whole (s : State) (o : OptionSpec) (value : Option String) : Except UsageFault State := do
  let s ← s.settle
  let found ← take s.found o value
  return { s with found, waiting := false }

/-- An option whose value is still to come. -/
def await (s : State) (o : OptionSpec) : Except UsageFault State := do
  let s ← s.settle
  return { s with pending := some (o, none), waiting := true }

/-- An option, with a value in the same argument or without. -/
def meet (s : State) (o : OptionSpec) (attached : Option String) : Except UsageFault State :=
  match attached with
  | some v => s.whole o (some v)
  | none => s.await o

end State

namespace CommandSpec

/-- An argument of two dashes and a name, which may have a value behind an equals sign. -/
def readLong (c : CommandSpec) (s : State) (text : List Char) : Except UsageFault State :=
  let name := String.ofList (text.takeWhile (· ≠ '='))
  let value : Option String :=
    match text.dropWhile (· ≠ '=') with
    | '=' :: rest => some (String.ofList rest)
    | _ => none
  match c.options.find? fun o => o.name == name with
  | none => .error .unknown
  | some o =>
    match o.arity, value with
    | .once, _ => s.meet o value
    | .many, _ => s.meet o value
    | _, some _ => .error .valueOfSwitch
    | _, none => s.whole o none

/-- An argument of one dash and letters; what follows the letter of an option is its value. -/
def readLetters (c : CommandSpec) : State → List Char → Except UsageFault State
  | s, [] => .ok s
  | s, letter :: rest =>
    match c.options.find? fun o => o.letter == some letter with
    | none => .error .unknown
    | some o =>
      match o.arity with
      | .switch => do readLetters c (← s.whole o none) rest
      | .help => do readLetters c (← s.whole o none) rest
      | _ =>
        match rest with
        | [] => s.meet o none
        | '=' :: value => s.meet o (some (String.ofList value))
        | value => s.meet o (some (String.ofList value))

/-- An argument that is no option: the operand, or one too many. -/
def readOperand (c : CommandSpec) (s : State) (text : String) : Except UsageFault State :=
  match c.operand with
  | none =>
    if s.operandsOnly && c.commands.contains text then .error .unknown
    else if c.commands.isEmpty then .error .unknown
    else .error .unknownCommand
  | some o =>
    if s.operandMet then .error .unknown
    else do
      let s ← s.settle
      return { s with pending := some (o, some text), operandMet := true, waiting := false }

def helpCommand : String := "help"

/-- What comes of asking for the help of commands; only those at the top have any. -/
def helpOf (c : CommandSpec) : List String → UsageFault
  | [] => .help
  | [name] => if c.commands.contains name then .help else .unknownCommand
  | _ => .unknownCommand

/-- The arguments of a command, up to a command within it and the arguments of that. -/
def read (c : CommandSpec) : State → List String →
    Except UsageFault (State × Option (String × List String))
  | s, [] => .ok (s, none)
  | s, text :: rest =>
    if s.operandsOnly then do read c (← c.readOperand s text) rest
    else if !s.waiting && c.commands.contains text then
      if text = helpCommand then .error (c.helpOf rest) else .ok (s, some (text, rest))
    else
      match text.toList with
      | ['-', '-'] => read c { s with operandsOnly := true } rest
      | '-' :: '-' :: long => do read c (← c.readLong s long) rest
      | '-' :: letter :: more => do read c (← c.readLetters s (letter :: more)) rest
      | _ =>
        if s.waiting then
          match s.pending with
          | some (o, _) => read c { s with pending := some (o, some text), waiting := false } rest
          | none => do read c (← c.readOperand s text) rest
        else do read c (← c.readOperand s text) rest

/-- Values from variables, for the options that the command line does not give. -/
def fromVariables (assigned : List (String × String)) :
    List OptionSpec → Matches → Except UsageFault Matches
  | [], found => .ok found
  | o :: rest, found =>
    match if found.has o.name then none else o.variable_.bind fun name => assigned.lookup name with
    | none => fromVariables assigned rest found
    | some v => do fromVariables assigned rest (← take found o (some v))

/-- The values of a command: whatever is complete at the end, then variables; what has to be
there is there. -/
def finish (c : CommandSpec) (assigned : List (String × String)) (s : State)
    (hasCommand : Bool) : Except UsageFault Matches := do
  let s ← s.settle
  let found ← fromVariables assigned c.options s.found
  if !c.commands.isEmpty && !hasCommand then
    throw (if found.values.isEmpty then .nothing else .noCommand)
  let needed := (c.operand.toList ++ c.options).filter (·.required)
  if needed.all fun o => found.has o.name then return found else throw .missing

end CommandSpec

end Arguments

end Switchboard
