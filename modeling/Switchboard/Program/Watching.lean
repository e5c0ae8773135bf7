import Switchboard.Program.Origin
import Switchboard.Settings
import Switchboard.Watcher.Run
/-!
# Watching a service

The command that logs every change of a service until it is interrupted. It is a subscriber of a
watcher: the state at the start is logged like any change.

* `Watching` — the watcher at work, and what was logged.
* `Watching.begin?` — the start.
* `Watching.settle`, `Watching.advance` — everything runs until it waits; time goes on.
* `Watching.interrupt` — the end.
-/

namespace Switchboard.Program

/-- The command at work, under the number that it subscribed with. -/
structure Watching where
  service : String
  run : WatchRun
  subscriber : Nat
  isOver : Bool := false
  log : List LogLine := []
  deriving Inhabited

namespace Watching

/-- The name of the mailbox that snapshots wait in. -/
def mailbox : String := "watch"

/-- What is logged of a snapshot. -/
def lineOf (service : String) : Snapshot → LogLine
  | .instances addrs =>
    ⟨.info, target, "instances changed", [("service", service), ("addrs", Text.quotedList addrs)]⟩
  | .failure why =>
    ⟨.warn, target, "discovery failing",
      [("service", service), ("err", "Some(" ++ why.detail ++ ")")]⟩

/-- The start on a backend. There is none if the first query is never answered. -/
def begin? (backend : Backend) (settings : Settings) (service : String) : Option Watching :=
  match WatchRun.begin? backend (settings.query service) settings.backoff {} 0 with
  | none => none
  | some run =>
    match run.subscribe mailbox with
    | (some subscriber, run) => some { service, run, subscriber }
    | (none, _) => none

/-- The snapshots that wait are logged. -/
def listen (w : Watching) : Watching :=
  let waiting := ((w.run.mailboxes.get? mailbox).map Mailbox.waiting).getD []
  { w with
    run := { w.run with mailboxes := w.run.mailboxes.emptied mailbox }
    log := w.log ++ if w.isOver then [] else waiting.map (lineOf w.service) }

def settle (j : Jitter) (w : Watching) : Watching := { w with run := w.run.settle j }.listen

def advance (j : Jitter) (ms : Nat) (w : Watching) : Watching :=
  { w with run := w.run.advance j ms }.listen

def change (w : Watching) (ch : Catalog.Change) : Watching := { w with run := w.run.change ch }

/-- The command is interrupted: it unsubscribes, and the watcher is told to stop. -/
def interrupt (w : Watching) : Watching :=
  if w.isOver then w
  else
    { w with
      isOver := true
      run := { w.run.stop with watcher := w.run.stop.watcher.unsubscribe w.subscriber } }

end Watching

end Switchboard.Program
