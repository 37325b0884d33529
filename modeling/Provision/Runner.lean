import Provision.Command
import Provision.Objection
import Provision.Outcome
import Provision.Progress

/-!
# Runners

A runner takes a command and answers with a finished outcome, whether the command
worked or not. Only trouble with launching it is raised instead, and a message that
its listener refuses. While it works, the clock may move on and messages and records
may come of it.

A stage is all that a run of commands leaves behind: the clock, the state of the
runner, the commands it was given, the events for the listener and the records
for the journal. `Stage.hand` is the only way to a runner, so `Stage.calls` lists
every command that was run.
-/

namespace Provision

namespace Runner

structure Reply (σ : Type) where
  result : Except Raised Outcome
  progress : List String
  records : List Record
  now : Moment
  state : σ

end Runner

structure Runner (σ : Type) where
  name : String
  available : Bool
  run : Command → Moment → Objection String → σ → Runner.Reply σ

structure Stage (σ : Type) where
  now : Moment
  /-- How many names that occur only once have been given out. -/
  serial : Nat
  state : σ
  calls : List Command
  events : List Event
  records : List Record
  /-- What the listener has against an event. -/
  objection : Objection Event := .never

abbrev Play (σ α : Type) := StateM (Stage σ) α

/-- Work on a stage that ends when the listener refuses an event. -/
abbrev Watched (σ α : Type) := ExceptT Fault (StateM (Stage σ)) α

namespace Stage

def opened {σ : Type} (state : σ) (now : Moment) : Stage σ :=
  { now, serial := 0, state, calls := [], events := [], records := [] }

variable {σ : Type}

def clock : Play σ Moment := do return (← get).now

def noteAll (rs : List Record) : Play σ Unit :=
  modify fun s => { s with records := s.records ++ rs }

def note (r : Record) : Play σ Unit := noteAll [r]

def hand (r : Runner σ) (c : Command) : Play σ (Except Raised Outcome) := do
  let s ← get
  let reply := r.run c s.now (fun text => s.objection (.progress text)) s.state
  set { s with
    now := reply.now
    state := reply.state
    calls := s.calls ++ [c]
    events := s.events ++ reply.progress.map Event.progress
    records := s.records ++ reply.records }
  return reply.result

end Stage

namespace Watched

variable {σ : Type}

def clock : Watched σ Moment := ExceptT.lift Stage.clock

def note (r : Record) : Watched σ Unit := ExceptT.lift (Stage.note r)

/-- Tells the listener of an event. One that is refused leaves no trace. -/
def tell (e : Event) : Watched σ Unit := do
  let s ← get
  match s.objection e with
  | some f => throw f
  | none => set { s with events := s.events ++ [e] }

end Watched

end Provision
