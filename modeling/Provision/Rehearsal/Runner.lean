import Provision.Runner

/-!
# Rehearsed commands

A rehearsal runs no command. Every command succeeds with the usual output, unless
an output, a failure or a fault was set for it by name. Its state is the list of
commands it was given.
-/

namespace Provision

namespace Rehearsal

structure Failure where
  error : Value
  errorName : Value

end Rehearsal

structure Rehearsal where
  name : String := "mock"
  available : Bool := true
  usual : Entries := []
  failures : List (String × Rehearsal.Failure) := []
  faults : List (String × Raised) := []
  outputs : List (String × Entries) := []

namespace Rehearsal

def setFor {α : Type} (command : String) (a : α) (settings : List (String × α)) :
    List (String × α) := (command, a) :: settings

def defaultOutput (r : Rehearsal) : Entries :=
  if r.usual.isEmpty then [("status", .int 0), ("result", .dict [])] else r.usual

def begun (c : Command) (now : Moment) : Outcome :=
  (Outcome.begin s!"mock:{c.command}" .executor {} now).withDetail
    (.dict (("mock", .bool true) :: c.messages))

def answer (r : Rehearsal) (c : Command) (now : Moment) : Except Raised Outcome :=
  match r.faults.lookup c.command with
  | some f => .error f
  | none =>
    let o := begun c now
    match r.failures.lookup c.command with
    | some f =>
      let report := if c.errorMsg = "" then f.error else .str c.errorMsg
      .ok (o.fail (.value report)
        (.dict [("cause", f.error), ("error_name", f.errorName), ("stderr", f.error)]) now).outcome
    | none => .ok (o.succeed (.dict ((r.outputs.lookup c.command).getD r.defaultOutput)) now).outcome

def run (r : Rehearsal) (c : Command) (now : Moment) (objection : Objection String)
    (calls : List Command) : Runner.Reply (List Command) :=
  match objection c.progressMsg with
  | some f => ⟨.error (.fault f), [], [], now, calls ++ [c]⟩
  | none => ⟨r.answer c now, [c.progressMsg], [], now, calls ++ [c]⟩

def toRunner (r : Rehearsal) : Runner (List Command) := ⟨r.name, r.available, r.run⟩

def reset (r : Rehearsal) : Rehearsal := { r with failures := [], faults := [], outputs := [] }

end Rehearsal

end Provision
