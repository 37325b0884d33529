import Provision.Interview.Question
import Provision.Text.Points

/-!
# Scripted answers

A script answers questions from a queue, one entry each. In a list a whole number
picks a choice by its place, counted from the end when it is negative. To a
checklist null means the choices that are checked from the start.
-/

namespace Provision.Interview

structure Script where
  queue : List Value
  /-- The messages asked, first asked first. -/
  asked : List String := []
  deriving Inhabited

namespace Script

def noAnswer (message : String) : Fault :=
  .mishap .nothingLeft s!"No scripted answer left for: {message}"

def noChoice (place : Int) : Fault :=
  .mishap .noSuchPlace <|
    if Value.fitsWord place then "list index out of range"
    else "cannot fit 'int' into an index-sized integer"

def choiceAt (choices : List Choice) (place : Int) : Except Fault Answer :=
  let n := if place < 0 then place + choices.length else place
  match if n < 0 then none else choices[n.toNat]? with
  | some c => .ok c.value
  | none => .error (noChoice place)

def itemsOf : Value → Except Fault (List Answer)
  | .list items => .ok (items.map .value)
  | .str s => .ok ((Text.split s).map fun t => .value (.str t))
  | .dict entries => .ok (entries.map fun e => .value (.str e.1))
  | v => .error (.mishap .wrongKind s!"'{v.kindName}' object is not iterable")

def meaning (q : Question) (v : Value) : Except Fault Answer :=
  match q.kind with
  | .confirm => .ok (.value (.bool v.truthy))
  | .checkbox =>
    match v with
    | .null => .ok (.several q.preset)
    | v => Answer.several <$> itemsOf v
  | _ =>
    match v with
    | .int n => choiceAt q.choices n
    | v => .ok (.value v)

def ask (q : Question) (message : String) (s : Script) : Except Fault Answer × Script :=
  let asked := s.asked ++ [message]
  match s.queue with
  | [] => (.error (noAnswer message), ⟨[], asked⟩)
  | v :: rest => (meaning q v, ⟨rest, asked⟩)

theorem ask_lt {q : Question} {m : String} {s : Script} {a : Answer}
    (h : (ask q m s).1 = .ok a) : (ask q m s).2.queue.length < s.queue.length := by
  unfold ask at h ⊢
  split
  · simp_all
  · next hq => simp [hq]

def prompter : Prompter Script := ⟨ask, fun s => s.queue.length, ask_lt⟩

def push (s : Script) (vs : List Value) : Script := { s with queue := s.queue ++ vs }

end Script

end Provision.Interview
