import Provision.Journal

/-!
# Progress

While a run goes on it tells a listener what begins, what it is doing, what is
complete and what failed. A listener may keep the events, pass them to the
journal, or show them on a terminal.
-/

namespace Provision

inductive EventKind where
  | start
  | progress
  | complete
  | error
  deriving DecidableEq, Repr, Inhabited

def EventKind.name : EventKind → String
  | .start => "start"
  | .progress => "progress"
  | .complete => "complete"
  | .error => "error"

def EventKind.all : List EventKind := [.start, .progress, .complete, .error]

structure Event where
  kind : EventKind
  text : String
  deriving DecidableEq, Repr, Inhabited

namespace Event

def start (text : String) : Event := ⟨.start, text⟩

def progress (text : String) : Event := ⟨.progress, text⟩

def complete (text : String) : Event := ⟨.complete, text⟩

def error (text : String) : Event := ⟨.error, text⟩

def toRecord (e : Event) : Record :=
  match e.kind with
  | .start => .info .sink s!"▶ {e.text}"
  | .progress => .debug .sink s!"  {e.text}"
  | .complete => .info .sink s!"✓ {e.text}"
  | .error => .warning .sink s!"✗ {e.text}"

def textsOf (kind : EventKind) (events : List Event) : List String :=
  (events.filter (·.kind = kind)).map (·.text)

end Event

end Provision
