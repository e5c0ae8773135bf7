import Switchboard.Program.Session
/-!
# The program

Runs a command from a terminal. Log lines go to standard output, without the time in front of
them. The end of standard input interrupts the command. There is no network here: every
connection is refused, so what is left is the in-process catalog.
-/

namespace Switchboard.Program

/-- The variables of a run that are set. -/
def setVariables : IO (List (String × String)) :=
  variablesRead.filterMapM fun name => return (← IO.getEnv name).map (name, ·)

/-- Why the system could not read a file. -/
def fileFaultOf : IO.Error → FileFault
  | .noFileOrDirectory .. => .missing
  | e => .other (toString e)

/-- The bytes of a file, if it can be read. -/
def bytesOf (path : String) : IO (Except FileFault ByteArray) := do
  try return .ok (← IO.FS.readBinFile path)
  catch e => return .error (fileFaultOf e)

def print (p : Prepared) (log : List LogLine) : IO Unit := do
  for line in p.rendered log do IO.println line
  (← IO.getStdout).flush

/-- Reads standard input to its end. -/
partial def readToEnd (input : IO.FS.Stream) : IO Unit := do
  unless (← input.getLine).isEmpty do readToEnd input

/-- How long to wait at least before looking again, in milliseconds. -/
def pause : Nat := 20

/-- Lets a command do what it does by itself until it is interrupted; the factor of its delays is
drawn anew for each thing that it does. -/
partial def keepOn (p : Prepared) (interrupted : Task (Except IO.Error Unit)) (job : Job) :
    IO Job := do
  if job.isOver || (← IO.hasFinished interrupted) then return job
  let k ← IO.rand 0 Jitter.draws
  let job' := job.proceed fun _ => .ofDraw k
  IO.sleep (max pause (job'.now - job.now)).toUInt32
  print p (job'.log.drop job.log.length)
  keepOn p interrupted job'

/-- Runs a command: the exit status. -/
def run (args : List String) : IO UInt32 := do
  let assigned ← setVariables
  match prepare args { assigned } with
  | .error t =>
    (← IO.getStderr).putStr (t.complaint.getD "")
    return t.exit.toUInt32
  | .ok p =>
    let bytes ← (p.line.configPath.map bytesOf).getD (pure (.error .missing))
    let uptime ← IO.monoNanosNow
    let started := start p.line { assigned, uptime, files := fun _ => bytes } .one
    print p started.log
    match started.job with
    | .error why => print p (lineOfStart p.line why)
    | .ok job =>
      print p job.log
      let interrupted ← IO.asTask (readToEnd (← IO.getStdin))
      let before ← keepOn p interrupted job
      let after := before.interrupt
      print p (after.log.drop before.log.length ++ after.lastWords)
    return 0

end Switchboard.Program

def main (args : List String) : IO UInt32 := Switchboard.Program.run args
