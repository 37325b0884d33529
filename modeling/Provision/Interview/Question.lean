import Provision.Fault
import Provision.Recipe.Document
import Provision.Text.Quoted
import Provision.Value

/-!
# Interviews

An interview is a list of questions asked in order. A question is passed over when
the answers so far make it pointless, and its message may depend on them. Who asks
is not said here: a prompter gets an answer to one question, or fails.

With every answer a prompter uses up some of what it can still give, so asking
again and again comes to an end (`interview_lt`). Of one that could answer for
ever nothing is said here, nor of a compile that asks it.
-/

namespace Provision.Interview

inductive Answer where
  | value (v : Value)
  | target (t : Recipe.Target)
  | several (items : List Answer)
  deriving Inhabited

abbrev Answers := List (String × Answer)

namespace Answer

def truthy : Answer → Bool
  | .value v => v.truthy
  | .target _ => true
  | .several items => !items.isEmpty

def asTarget? : Answer → Option Recipe.Target
  | .target t => some t
  | _ => none

end Answer

structure Choice where
  name : String
  value : Answer
  short : String
  checked : Bool := false
  deriving Inhabited

/-- A choice. What is left open goes by its name. -/
def Choice.of (name : String) (value : Answer) (short : String) (checked : Bool) : Choice where
  name := name
  value := match value with
    | .value .null => .value (.str name)
    | v => v
  short := if short = "" then name else short
  checked := checked

inductive QuestionKind where
  | list
  | checkbox
  | confirm
  | other (name : String)
  deriving DecidableEq, Repr

def QuestionKind.name : QuestionKind → String
  | .list => "list"
  | .checkbox => "checkbox"
  | .confirm => "confirm"
  | .other name => name

structure Question where
  kind : QuestionKind
  name : String
  message : Answers → Except Fault String
  choices : List Choice := []
  default : Value := .null
  visible : Answers → Bool := fun _ => true

def Question.preset (q : Question) : List Answer :=
  (q.choices.filter (·.checked)).map (·.value)

structure Prompter (π : Type) where
  ask : Question → String → π → Except Fault Answer × π
  /-- How many answers can still be given, at most. -/
  size : π → Nat
  /-- The supply of answers is finite. -/
  ask_lt : ∀ {q m s a}, (ask q m s).1 = .ok a → size (ask q m s).2 < size s

def put (name : String) (a : Answer) : Answers → Answers
  | [] => [(name, a)]
  | (k, b) :: rest => if k = name then (k, a) :: rest else (k, b) :: put name a rest

def unsupported (kind : QuestionKind) : Fault :=
  .mishap .wrongValue s!"Unsupported question type: {Text.quoted kind.name}"

def askOne {π : Type} (p : Prompter π) (q : Question) (answers : Answers) (s : π) :
    Except Fault Answer × π :=
  match q.message answers with
  | .error f => (.error f, s)
  | .ok message =>
    match q.kind with
    | .other name => (.error (unsupported (.other name)), s)
    | _ => p.ask q message s

def askAll {π : Type} (p : Prompter π) : List Question → Answers → π → Except Fault Answers × π
  | [], answers, s => (.ok answers, s)
  | q :: rest, answers, s =>
    if q.visible answers then
      match askOne p q answers s with
      | (.error f, s) => (.error f, s)
      | (.ok a, s) => askAll p rest (put q.name a answers) s
    else askAll p rest answers s

def interview {π : Type} (p : Prompter π) (questions : List Question) (s : π) :
    Except Fault Answers × π :=
  askAll p questions [] s

variable {π : Type} {p : Prompter π}

theorem askOne_lt {q : Question} {answers : Answers} {s s' : π} {a : Answer}
    (h : askOne p q answers s = (.ok a, s')) : p.size s' < p.size s := by
  unfold askOne at h
  split at h
  · simp at h
  · split at h
    · simp at h
    · have := p.ask_lt (congrArg Prod.fst h)
      rwa [h] at this

theorem askAll_le {questions : List Question} {answers answers' : Answers} {s s' : π}
    (h : askAll p questions answers s = (.ok answers', s')) : p.size s' ≤ p.size s := by
  induction questions generalizing answers s with
  | nil => simp_all [askAll]
  | cons q rest ih =>
    unfold askAll at h
    split at h
    · split at h
      · simp at h
      · next hq => exact Nat.le_trans (ih h) (Nat.le_of_lt (askOne_lt hq))
    · exact ih h

/-- An interview that starts with a question for all uses up an answer. -/
theorem interview_lt {q : Question} {rest : List Question} {answers : Answers} {s s' : π}
    (hq : q.visible [] = true) (h : interview p (q :: rest) s = (.ok answers, s')) :
    p.size s' < p.size s := by
  unfold interview askAll at h
  rw [if_pos hq] at h
  split at h
  · simp at h
  · next hq => exact Nat.lt_of_le_of_lt (askAll_le h) (askOne_lt hq)

end Provision.Interview
