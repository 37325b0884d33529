import Provision.Schema.Problem
import Provision.Text.Case
import Provision.Text.Points
import Provision.Value

/-!
# Reading data of a declared shape

A `Checked` value is either the value or every problem that stood in its way.
The fields of a record are read one after another, and a problem in one does not
keep the others from being read: `Checked.and` puts the problems of both sides
together. A rule between fields is looked at only when each of them is in order.

A key may be written in two spellings. When both are there the first counts.
Problems with a value name the spelling under which it was found, and a missing
key is named in the first.

Records are declared with a validation library that is not part of this project.
These readers stand for it and assume what it documents: keys that are not
declared are passed over, nothing is converted to a string, a list or a mapping,
a field that is not strict takes the words and numbers of `truth` for truth
values, a rule is applied behind what it is a rule for and only when that is in
order, every problem is collected, by the order of fields and items, and has the
kind and the text of `Need`. Assumed of its version is also that a lone surrogate
is no character when characters are looked at.
-/

namespace Provision.Schema

abbrev Checked (α : Type) := Except (List Problem) α

namespace Checked

def problems {α : Type} : Checked α → List Problem
  | .ok _ => []
  | .error ps => ps

def and {α β : Type} : Checked (α → β) → Checked α → Checked β
  | .ok f, .ok a => .ok (f a)
  | .ok _, .error ps => .error ps
  | .error ps, .ok _ => .error ps
  | .error ps, .error qs => .error (ps ++ qs)

def ensure {α : Type} (c : Checked α) (rule : α → Option String) : Checked α :=
  match c with
  | .error ps => .error ps
  | .ok a =>
    match rule a with
    | none => .ok a
    | some text => .error [⟨[], .rule text⟩]

def under {α : Type} (key : String) : Checked α → Checked α
  | .ok a => .ok a
  | .error ps => .error (ps.map (·.under key))

theorem problems_and {α β : Type} (f : Checked (α → β)) (a : Checked α) :
    (f.and a).problems = f.problems ++ a.problems := by
  cases f <;> cases a <;> simp [Checked.and, problems]

theorem problems_under {α : Type} (key : String) (c : Checked α) :
    (c.under key).problems = c.problems.map (·.under key) := by
  cases c <;> simp [under, problems]

end Checked

abbrev Reader (α : Type) := Value → Checked α

def need {α : Type} (n : Need) : Checked α := .error [⟨[], n⟩]

/-! ## Plain values -/

def any : Reader Value := .ok

def string : Reader String
  | .str s => .ok s
  | _ => need .string

/-- Goes on with a string whose characters are looked at. A lone surrogate is
no character. -/
def looked {α : Type} (s : String) (r : String → Checked α) : Checked α :=
  if Text.hasSurrogate s then need .stringBytes else r s

def nonEmpty : Reader String
  | .str s => looked s fun s => if s = "" then need .nonEmpty else .ok s
  | _ => need .string

def optional {α : Type} (r : Reader α) : Reader (Option α)
  | .null => .ok none
  | v => some <$> r v

def strictTruth : Reader Bool
  | .bool b => .ok b
  | _ => need .truth

def truthWords : List (String × Bool) := [
  ("0", false), ("f", false), ("n", false), ("no", false), ("off", false), ("false", false),
  ("1", true), ("t", true), ("y", true), ("on", true), ("yes", true), ("true", true)]

def asciiLower (s : String) : String := String.ofList (s.toList.map Char.toLower)

/-- A truth value, a word for one, or the number 0 or 1. A whole number beyond
64 bits and a number with a fraction are not even tried. -/
def truth : Reader Bool
  | .bool b => .ok b
  | .str s => looked s fun s =>
    match truthWords.lookup (asciiLower s) with
    | some b => .ok b
    | none => need .truthWord
  | .int n =>
    if n = 0 then .ok false
    else if n = 1 then .ok true
    else if Value.fitsWord n then need .truthWord
    else need .truth
  | .float x =>
    if x == 0.0 then .ok false
    else if x == 1.0 then .ok true
    else if x.floor == x && x.abs < 9223372036854775808.0 then need .truthWord
    else need .truth
  | _ => need .truth

def itemsFrom {α : Type} (r : Reader α) : Nat → List Value → Checked (List α)
  | _, [] => .ok []
  | i, v :: vs =>
    Checked.and (List.cons <$> Checked.under (toString i) (r v)) (itemsFrom r (i + 1) vs)

def list {α : Type} (r : Reader α) : Reader (List α)
  | .list items => itemsFrom r 0 items
  | _ => need .list

def dict : Reader Entries
  | .dict entries => .ok entries
  | _ => need .dict

/-! ## Records -/

/-- The spelling of a key that is used, and the value under it. -/
def lookup? (es : Entries) (key second : String) : Option (String × Value) :=
  match Entries.get? key es with
  | some v => some (key, v)
  | none => (Entries.get? second es).map (second, ·)

def required {α : Type} (es : Entries) (key second : String) (r : Reader α) : Checked α :=
  match lookup? es key second with
  | none => .error [⟨[key], .present⟩]
  | some (used, v) => Checked.under used (r v)

def withDefault {α : Type} (es : Entries) (key second : String) (r : Reader α) (a : α) :
    Checked α :=
  match lookup? es key second with
  | none => .ok a
  | some (used, v) => Checked.under used (r v)

def record {α : Type} (name : String) (r : Entries → Checked α) : Reader α
  | .dict entries => r entries
  | _ => need (.record name)

end Provision.Schema
