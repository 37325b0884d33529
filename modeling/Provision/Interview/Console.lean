import Provision.Interview.Question
import Provision.Interview.Selection
import Provision.Terminal.Screen
import Provision.Terminal.Style
import Provision.Text.Case
import Provision.Text.Utf8
import Provision.Text.Whole

/-!
# Interviews on a terminal

A list is a menu of numbers with the first choice as default. A checklist takes
numbers with commas between them. A line that is no answer is refused with a
reason, and the question is asked again. When the input ends the interview is
aborted. It ends, too, at a text that the terminal does not take.

Prompts and confirmations are those of the library for command lines, as it
documents them: a default is shown and stands for an empty line, and a question
that can be confirmed takes the first letters and the words for yes and no.
-/

namespace Provision.Interview

open Terminal

/-- A terminal: the lines that will be typed, and what it has shown. -/
structure Console where
  color : Bool
  /-- Whether the typed lines appear among what is shown. -/
  echo : Bool
  lines : List String
  shown : String := ""
  deriving Inhabited

namespace Console

def showing {β : Type} (c : Console) (texts : List String)
    (next : Console → Except Fault β × Console) : Except Fault β × Console :=
  match written texts with
  | (text, some f) => (.error f, { c with shown := c.shown ++ text })
  | (text, none) => next { c with shown := c.shown ++ text }

/-- Reads a line behind a prompt. It may be refused with a text, and then the prompt is
shown again. -/
def readWith {α : Type} (prompt : String) (read : String → Except String α) :
    List String → Console → Except Fault α × Console
  | [], c => (.error .abort, { c with lines := [] })
  | line :: rest, c =>
    let typed := if c.echo then line ++ "\n" else ""
    let c := { c with lines := rest, shown := c.shown ++ typed }
    match read line with
    | .ok a => (.ok a, c)
    | .error refusal => c.showing [refusal, prompt] (readWith prompt read rest)

theorem showing_eq_ok {β : Type} {c : Console} {texts : List String}
    {next : Console → Except Fault β × Console} {b : β} (h : (c.showing texts next).1 = .ok b) :
    ∃ shown, c.showing texts next = next { c with shown } := by
  unfold showing at h ⊢
  split at h
  · simp at h
  · exact ⟨_, rfl⟩

theorem readWith_lt {α : Type} {prompt : String} {read : String → Except String α}
    {lines : List String} {c : Console} {a : α} (h : (readWith prompt read lines c).1 = .ok a) :
    (readWith prompt read lines c).2.lines.length < lines.length := by
  induction lines generalizing c with
  | nil => simp [readWith] at h
  | cons line rest ih =>
    unfold readWith at h ⊢
    simp only at h ⊢
    split
    · simp
    · next hr =>
      rw [hr] at h
      obtain ⟨shown, he⟩ := showing_eq_ok h
      simp only at h
      rw [he] at h ⊢
      exact Nat.lt_trans (ih h) (Nat.lt_succ_self _)

/-! ## The three kinds of questions -/

def menuLine (i : Nat) (c : Choice) : String := s!"  {i}) {c.name}"

def checkLine (i : Nat) (c : Choice) : String :=
  let mark := if c.checked then "x" else " "
  s!"  [{mark}] {i}) {c.name}"

def numbered (color : Bool) (line : Nat → Choice → String) : Nat → List Choice → List String
  | _, [] => []
  | i, c :: rest => plainLine color (line i c) :: numbered color line (i + 1) rest

def heading (color : Bool) (line : Nat → Choice → String) (q : Question) (message : String) :
    List String :=
  plainLine color "" :: shownLine color { bold := true } message ::
    numbered color line 1 q.choices

def errorLine (color : Bool) (text : String) : String := plainLine color s!"Error: {text}"

/-- Reads the number of one of `n` choices. An empty line means the first. -/
def readChoice (color : Bool) (n : Nat) (line : String) : Except String Nat :=
  match if line = "" then some 1 else (Text.readWhole 10 line).toOption with
  | none => .error (errorLine color s!"{Text.quoted line} is not a valid integer range.")
  | some k =>
    if 1 ≤ k ∧ k ≤ n then .ok k.toNat
    else .error (errorLine color s!"{k} is not in the range 1<=x<={n}.")

/-- Reads the numbers of checked choices. A blank line means those that are checked
from the start. -/
def readChecks (color : Bool) (q : Question) (line : String) : Except String (List Answer) :=
  if Text.isBlankText line then .ok q.preset
  else match parseSelection line q.choices.length with
  | .ok picked => .ok (picked.filterMap fun i => (q.choices[i - 1]?).map (·.value))
  | .error f => .error (shownLine color { color := some .red } s!"  {f.text}")

def readConfirm (color : Bool) (usual : Bool) (line : String) : Except String Bool :=
  let word := Text.trim (Text.lower line)
  if word = "y" ∨ word = "yes" then .ok true
  else if word = "n" ∨ word = "no" then .ok false
  else if word = "" then .ok usual
  else .error (errorLine color "invalid input")

def asking {α : Type} (c : Console) (head : List String) (prompt : String)
    (read : String → Except String α) (answer : α → Answer) : Except Fault Answer × Console :=
  let prompt := Terminal.shown c.color prompt
  match c.showing (head ++ [prompt]) (readWith prompt read c.lines) with
  | (result, c) => (answer <$> result, c)

theorem asking_lt {α : Type} {c : Console} {head : List String} {prompt : String}
    {read : String → Except String α} {answer : α → Answer} {a : Answer}
    (h : (c.asking head prompt read answer).1 = .ok a) :
    (c.asking head prompt read answer).2.lines.length < c.lines.length := by
  unfold asking at h ⊢
  simp only at h ⊢
  cases hr : (c.showing (head ++ [Terminal.shown c.color prompt])
      (readWith (Terminal.shown c.color prompt) read c.lines)).1 with
  | error f => simp [hr, Functor.map, Except.map] at h
  | ok a =>
    obtain ⟨shown, he⟩ := showing_eq_ok hr
    rw [he] at hr ⊢
    exact readWith_lt hr

def choicePrompt : String := "Choice [1]: "

def checksPrompt : String := "Numbers to select (comma-separated, empty keeps defaults): "

def ask (q : Question) (message : String) (c : Console) : Except Fault Answer × Console :=
  match q.kind with
  | .confirm =>
    let usual := q.default.truthy
    let offer := if usual then "Y/n" else "y/N"
    c.asking [] s!"{message} [{offer}]: " (readConfirm c.color usual)
      fun b => .value (.bool b)
  | .checkbox =>
    c.asking (heading c.color checkLine q message) checksPrompt (readChecks c.color q) .several
  | _ =>
    c.asking (heading c.color menuLine q message) choicePrompt
      (readChoice c.color q.choices.length)
      fun k => ((q.choices[k - 1]?).map (·.value)).getD (.value .null)

theorem ask_lt {q : Question} {m : String} {c : Console} {a : Answer}
    (h : (ask q m c).1 = .ok a) : (ask q m c).2.lines.length < c.lines.length := by
  unfold ask at h ⊢
  split <;> simp only [*] at h ⊢ <;> exact asking_lt h

def prompter : Prompter Console := ⟨ask, fun c => c.lines.length, ask_lt⟩

def linesOf : List Char → List (List Char)
  | [] => []
  | c :: rest =>
    if c = '\n' then [] :: linesOf rest
    else match linesOf rest with
    | [] => [[c]]
    | l :: ls => (c :: l) :: ls

def typing (color echo : Bool) (text : String) : Console :=
  { color, echo, lines := (linesOf (Text.unifyNewlines text.toList)).map String.ofList }

end Console

end Provision.Interview
