import Provision.Rehearsal.Fault
import Provision.Rehearsal.Processes
import Provision.Rehearsal.Runner
import Provision.Runner.Tool
import Provision.Value.Loose

/-!
# Rehearsals described as data

A rehearsal is described by its usual output and by failures, exceptions and outputs
for commands by name; the command line tool by the processes that its lines stand for.
-/

namespace Provision.Rehearsal

open Value.Loose

def argumentsOf (v : Value) : List Value :=
  if has v "args" then getList v "args" else [.str (getText v "message")]

def raisedOf (v : Value) (now : Moment) : Raised :=
  let type := getText v "type"
  if type = "ResultBubbled" then
    .bubbled (bubbledOutcome ((getText? v "name").getD "inner") (getText v "message") now)
  else .fault (faultOfName type (argumentsOf v))

def failureOf (v : Value) : Failure :=
  ⟨if has v "error" then get v "error" else .str "Mock failure",
    if has v "error_name" then get v "error_name" else .str ""⟩

def ofData (v : Value) (now : Moment) : Rehearsal where
  name := (getText? v "name").getD "mock"
  available := getBool v "available" true
  usual := getEntries v "default_output"
  failures := (getEntries v "failures").map fun e => (e.1, failureOf e.2)
  faults := (getEntries v "exceptions").map fun e => (e.1, raisedOf e.2 now)
  outputs := (getEntries v "outputs").map fun e => (e.1, e.2.asEntries?.getD [])

def partOf (v : Value) : Part :=
  let elapsed := toFloat (get v "elapsed")
  let bytes (key : String) : List UInt8 := if has v key then toBytes (get v key) else []
  ⟨getText v "match",
    if has v "launch_error" then .refused (raisedOf (get v "launch_error") .zero)
    else if getBool v "hang" false then .overdue elapsed
    else .ended (bytes "stdout") (bytes "stderr") (toInt (get v "returncode")) elapsed⟩

def toolOf (v : Value) : Tool where
  program := (getText? v "binary").getD Command.defaultProgram
  timeout := get v "timeout"
  directory := getText? v "cwd"
  available := getBool v "available" true
  launch := launch ((getList v "processes").map partOf)

end Provision.Rehearsal
