import Provision.Outcome.Report

/-!
# Outcomes that are shared

A board holds outcomes by name, and an outcome on it may be a part of several
others. A change of one is seen by all that contain it. Each place on the board
holds an outcome without its parts and the places of the parts, and `tree` puts
them together. A name that is given anew leaves its old place as it is, since
other outcomes may contain it.
-/

namespace Provision.Outcome

structure Place where
  own : Outcome
  /-- Where the parts are, by their positions on the board. -/
  parts : List Nat

structure Board where
  places : List Place := []
  /-- The positions of the named outcomes, last named first. -/
  names : List (String × Nat) := []

namespace Board

def position? (b : Board) (name : String) : Option Nat := b.names.lookup name

def tree (b : Board) : Nat → Nat → Option Outcome
  | 0, i => b.places[i]?.map (·.own)
  | depth + 1, i =>
    b.places[i]?.map fun p => { p.own with children := p.parts.filterMap (b.tree depth) }

/-- The outcome under a name. No path through a board is longer than the board. -/
def get? (b : Board) (name : String) : Option Outcome :=
  (b.position? name).bind (b.tree b.places.length)

def add (b : Board) (name : String) (o : Outcome) (parts : List Nat) : Board where
  places := b.places ++ [⟨{ o with children := [] }, parts⟩]
  names := (name, b.places.length) :: b.names

def applyAt (b : Board) (i : Nat) (call : Outcome → Reply) (more : List Nat) :
    Board × Option Raised :=
  match b.places[i]?, b.tree b.places.length i with
  | some p, some o =>
    let r := call o
    ({ b with places := b.places.set i ⟨{ r.outcome with children := [] }, p.parts ++ more⟩ },
      r.raised)
  | _, _ => (b, none)

def apply (b : Board) (name : String) (call : Outcome → Reply) : Board × Option Raised :=
  match b.position? name with
  | some i => b.applyAt i call []
  | none => (b, none)

def attach (b : Board) (name child : String) (now : Moment) : Board × Option Raised :=
  match b.position? name, b.position? child, b.get? name, b.get? child with
  | some i, some j, some o, some c =>
    b.applyAt i (·.attach c now) (if o.finalized then [] else [j])
  | _, _, _, _ => (b, none)

def wrap (b : Board) (name child : String) (make : Outcome → Outcome) : Board :=
  match b.position? child, b.get? child with
  | some j, some c => b.add name (make c) [j]
  | _, _ => b

end Board

end Provision.Outcome
