import Provision.Yaml.Construct

/-!
# YAML data

What readers of a text get to see: strings, lists and mappings by string keys, and
of everything else the kind. A collection can contain itself, so its members are
shown down to the level that a reader looks at.
-/

namespace Provision.Yaml

inductive Datum where
  | null
  | text (s : String)
  | bytes (bs : List UInt8)
  | list (items : List Datum)
  | set (items : List Datum)
  /-- The entries whose keys are strings. -/
  | mapping (entries : List (String × Datum))
  /-- Anything else, by the name of its kind. -/
  | other (kind : String)
  deriving Inhabited

namespace Datum

def kindName : Datum → String
  | .null => "NoneType"
  | .text _ => "str"
  | .bytes _ => "bytes"
  | .list _ => "list"
  | .set _ => "set"
  | .mapping _ => "dict"
  | .other kind => kind

def ofAtom : Atom → Datum
  | .null => .null
  | .text s => .text s
  | .bytes bs => .bytes bs
  | a => .other a.kindName

/-- Entries under their string keys. A repeated key keeps its first place. -/
def putEntry (key : String) (d : Datum) : List (String × Datum) → List (String × Datum)
  | [] => [(key, d)]
  | (k, e) :: rest => if k = key then (k, d) :: rest else (k, e) :: putEntry key d rest

def stringEntries (pairs : List (Datum × Datum)) : List (String × Datum) :=
  pairs.foldl (fun es p => match p.1 with
    | .text k => putEntry k p.2 es
    | _ => es) []

end Datum

abbrev Objects := Array (Option Object)

def Objects.get (objects : Objects) (n : Nat) : Object := (objects[n]?.join).getD default

def Objects.same (objects : Objects) (m n : Nat) : Bool :=
  m = n || match objects.get m, objects.get n with
    | .atom a, .atom b => a.same b
    | _, _ => false

def Objects.distinct (objects : Objects) (members : List Nat) : List Nat :=
  members.foldl (fun ns n => if ns.any (objects.same n) then ns else ns ++ [n]) []

def Objects.shown (objects : Objects) : Nat → Nat → Datum
  | 0, n =>
    match objects.get n with
    | .atom a => .ofAtom a
    | .list _ => .list []
    | .pairs _ => .list []
    | .set _ => .set []
    | .mapping _ => .mapping []
  | depth + 1, n =>
    match objects.get n with
    | .atom a => .ofAtom a
    | .list items => .list (items.map (objects.shown depth))
    | .pairs count => .list (List.replicate count (.other "tuple"))
    | .set members => .set ((objects.distinct members).map (objects.shown depth))
    | .mapping entries =>
      .mapping (Datum.stringEntries (entries.map fun e =>
        (objects.shown depth e.1, objects.shown depth e.2)))

/-- The levels of a project file: the file, its project, a list in it. -/
def Datum.levels : Nat := 3

def Datum.ofText (text : String) : Except Refusal Datum := do
  match ← Graph.ofText? text with
  | none => return .null
  | some g => return Objects.shown (← g.objects) levels g.root

end Provision.Yaml
