import Provision.Fault
import Provision.Moment
import Provision.Text.Quoted
import Provision.Value.Display

/-!
# Outcomes

Every boundary of a run (a step's command, the step itself, its group, the
whole run) ends in an outcome. Outcomes form a tree: when a part has finished,
its outcome is attached to the one that contains it, and its status is folded
in by the policy of the container.

* A part in error ends the container as an error, and the container bubbles;
  a container that does not bubble errors is marked as failed.
* A failed part marks the container as failed; a container that does not bubble
  failures takes it as a warning. One that treats failures as errors does as
  above.
* A part with a warning leaves at least a warning.

An outcome that has ended refuses all further changes of its status. When it
starts and when it ends, the time stamp and the reading of the clock are taken at
one moment; the stamp is shown and the reading gives the duration.
`Reply.outcome` is what a change leaves behind and `Reply.raised` what it
signals, since a change may do both.
-/

namespace Provision

inductive OutcomeKind where
  | action
  | engine
  | recipe
  | executor
  | function
  | unknown
  deriving Inhabited, DecidableEq, Repr

def OutcomeKind.name : OutcomeKind → String
  | .action => "ACTION"
  | .engine => "ENGINE"
  | .recipe => "RECIPE"
  | .executor => "EXECUTOR"
  | .function => "FUNCTION"
  | .unknown => "UNKNOWN"

inductive Status where
  | initialized
  | waiting
  | success
  | warning
  | failure
  | error
  | unknown
  deriving Inhabited, DecidableEq, Repr

namespace Status

def name : Status → String
  | .initialized => "INITIALIZED"
  | .waiting => "WAITING"
  | .success => "SUCCESS"
  | .warning => "WARNING"
  | .failure => "FAILURE"
  | .error => "ERROR"
  | .unknown => "UNKNOWN"

def all : List Status :=
  [.initialized, .waiting, .success, .warning, .failure, .error, .unknown]

def severity : Status → Nat
  | .initialized => 0
  | .waiting => 0
  | .unknown => 1
  | .success => 2
  | .warning => 3
  | .failure => 4
  | .error => 5

/-- The more severe of two. Of equals the first stands. -/
def worse (a b : Status) : Status := if a.severity < b.severity then b else a

def worst? : List Status → Option Status
  | [] => none
  | s :: rest => some (rest.foldl worse s)

def pending (s : Status) : Bool := s = .initialized || s = .waiting

def ok (s : Status) : Bool := s = .success || s = .warning

def bad (s : Status) : Bool := s = .error || s = .failure

end Status

structure Policy where
  bubbleError : Bool := true
  bubbleFailure : Bool := true
  failureIsError : Bool := false
  deriving Inhabited, DecidableEq, Repr

structure Outcome where
  name : String
  kind : OutcomeKind
  policy : Policy
  status : Status
  detail : Entries
  fault : Option Fault
  started : Option Moment
  ended : Option Moment
  /-- The readings between which durations are taken. -/
  clockStart : Option Moment
  clockEnd : Option Moment
  /-- Whether changes are refused. -/
  finalized : Bool
  children : List Outcome
  deriving Inhabited

/-- What a call signals instead of returning: a fault, or an outcome that
bubbles with everything that led to it. -/
inductive Raised where
  | fault (f : Fault)
  | bubbled (o : Outcome)

inductive Blame where
  | nothing
  | fault (f : Fault)
  | value (v : Value)

namespace Outcome

/-- The effect of one call on an outcome. -/
structure Reply where
  outcome : Outcome
  raised : Option Raised

def blank (name : String) (kind : OutcomeKind) (policy : Policy) : Outcome :=
  { name, kind, policy, status := .initialized, detail := [], fault := none,
    started := none, ended := none, clockStart := none, clockEnd := none, finalized := false,
    children := [] }

def begin (name : String) (kind : OutcomeKind) (policy : Policy) (now : Moment) : Outcome :=
  { blank name kind policy with
    started := some now, clockStart := some now, status := .waiting }

def ok (o : Outcome) : Bool := o.status.ok

mutual

/-- The best account of what went wrong: the fault, else the message in the
detail, else the account of the last part that failed. -/
def message : Outcome → String
  | ⟨_, _, _, _, detail, fault, _, _, _, _, _, children⟩ =>
    match fault with
    | some f => f.text
    | none =>
      let own := Entries.getD "error_message" detail
      if own.truthy then own.text else (lastMessage? children).getD ""

def lastMessage? : List Outcome → Option String
  | [] => none
  | o :: rest =>
    match lastMessage? rest with
    | some m => some m
    | none => if o.status.bad then some (message o) else none

end

def seconds (o : Outcome) (now : Moment) : Float :=
  match o.clockStart with
  | none => 0.0
  | some s => (o.clockEnd.getD now).since s

def durationText (o : Outcome) (now : Moment) : String := Moment.durationText (o.seconds now)

def finalizedFault (o : Outcome) : Fault :=
  .of .resultFinalized s!"Result '{o.name}' was already finalized as {o.status.name}"

def bubbledFault (o : Outcome) : Fault :=
  .of .resultBubbled s!"{o.name} finished with status {o.status.name}"

def description (o : Outcome) : String :=
  s!"<Result {Text.quoted o.name} {o.kind.name} {o.status.name}>"

/-! ## Changes -/

/-- A change that only an open outcome admits. -/
def whenOpen (o : Outcome) (change : Outcome → Outcome) : Reply :=
  if o.finalized then ⟨o, some (.fault o.finalizedFault)⟩ else ⟨change o, none⟩

def start (o : Outcome) (now : Moment) : Reply :=
  o.whenOpen fun o =>
    { o with started := some now, clockStart := some now, status := .waiting }

/-- Adds to the detail. What has no keys of its own goes under one key. -/
def withDetail (o : Outcome) : Value → Outcome
  | .null => o
  | .dict entries => { o with detail := o.detail.merge entries }
  | v => { o with detail := o.detail.put "raw_result" v }

def setDetail (o : Outcome) (detail : Value) : Reply :=
  o.whenOpen (·.withDetail detail)

/-- Ends an outcome. One that never began begins and ends at once. -/
def close (o : Outcome) (status : Status) (detail : Value) (now : Moment) : Outcome :=
  let o := o.withDetail detail
  let started := if o.clockStart.isSome then o.started else some now
  { o with
    status, started, ended := some now, clockStart := some (o.clockStart.getD now),
    clockEnd := some now, finalized := true }

def finalize (o : Outcome) (status : Status) (detail : Value) (now : Moment) : Reply :=
  o.whenOpen (·.close status detail now)

def finish (o : Outcome) (detail : Value) (now : Moment) : Reply :=
  o.finalize (if o.status.pending then .success else o.status) detail now

def succeed (o : Outcome) (detail : Value) (now : Moment) : Reply :=
  o.finalize .success detail now

def warn (o : Outcome) (detail : Value) (now : Moment) : Reply :=
  o.finalize .warning detail now

/-- Records why, whether or not the outcome is still open. -/
def blame (o : Outcome) : Blame → Outcome
  | .nothing => o
  | .fault f => { o with fault := some f }
  | .value v => if v.truthy then { o with detail := o.detail.put "error_message" (.str v.text) } else o

def fail (o : Outcome) (why : Blame) (detail : Value) (now : Moment) : Reply :=
  (o.blame why).finalize .failure detail now

def error (o : Outcome) (why : Blame) (detail : Value) (now : Moment) : Reply :=
  (o.blame why).finalize .error detail now

def Reply.bubble (r : Reply) : Reply :=
  ⟨r.outcome, some (r.raised.getD (.bubbled r.outcome))⟩

def raise (o : Outcome) (why : Blame) (now : Moment) : Reply :=
  (o.error why .null now).bubble

def asBlame (o : Outcome) : Blame :=
  match o.fault with
  | some f => .fault f
  | none => .value (.str o.message)

def escalate (o : Outcome) (status : Status) : Outcome :=
  { o with status := o.status.worse status }

def attach (o : Outcome) (child : Outcome) (now : Moment) : Reply :=
  if o.finalized then ⟨o, some (.fault o.finalizedFault)⟩
  else
    let o := { o with children := o.children ++ [child] }
    let status :=
      if child.status = .failure ∧ o.policy.failureIsError then .error else child.status
    match status with
    | .error =>
      if o.policy.bubbleError then (o.error child.asBlame .null now).bubble
      else ⟨o.escalate .failure, none⟩
    | .failure =>
      ⟨o.escalate (if o.policy.bubbleFailure then .failure else .warning), none⟩
    | .warning => ⟨o.escalate .warning, none⟩
    | _ => ⟨o, none⟩

/-! ## Wrapping -/

def faultOf : Raised → Fault
  | .fault f => f
  | .bubbled o => o.bubbledFault

/-- What was raised, as an outcome in error. One that bubbled is taken as it
is. -/
def ofRaised (r : Raised) (name : String) (kind : OutcomeKind) (now : Moment) : Outcome :=
  match r with
  | .bubbled o => o
  | .fault f =>
    ((begin name kind {} now).error (.fault f) (.dict [("error_type", .str f.name)]) now).outcome

def downgrade (child : Outcome) (reason : String) (now : Moment) : Outcome :=
  let wrapper := begin s!"{child.name}:downgraded" child.kind
    { bubbleError := false, bubbleFailure := false } now
  ((wrapper.attach child now).outcome.finish
    (.dict [("reason", .str reason), ("original_status", .str Status.failure.name)]) now).outcome

end Outcome

end Provision
