/-!
# Paths

A path is a root and the names below it. Empty names and single dots say
nothing and are left out, so two spellings that differ only in them are the same
path. Two dots stay: what they lead to depends on where one stands.
-/

namespace Provision.Files

inductive Root where
  | relative
  | slash
  /-- Two slashes and no more, which some systems keep apart. -/
  | doubleSlash
  deriving DecidableEq, Repr, Inhabited

structure Path where
  root : Root
  names : List String
  deriving DecidableEq, Repr, Inhabited

namespace Path

def pieces : List Char → List (List Char)
  | [] => [[]]
  | c :: rest =>
    if c = '/' then [] :: pieces rest
    else match pieces rest with
    | [] => [[c]]
    | p :: ps => (c :: p) :: ps

def rootOf (cs : List Char) : Root :=
  match (cs.takeWhile (· = '/')).length with
  | 0 => .relative
  | 2 => .doubleSlash
  | _ => .slash

def named (piece : List Char) : Option String :=
  if piece = [] ∨ piece = ['.'] then none else some (String.ofList piece)

def ofText (s : String) : Path := ⟨rootOf s.toList, (pieces s.toList).filterMap named⟩

def Root.text : Root → String
  | .relative => ""
  | .slash => "/"
  | .doubleSlash => "//"

def text (p : Path) : String :=
  let whole := Root.text p.root ++ "/".intercalate p.names
  if whole = "" then "." else whole

/-- A path seen from another. One with a root of its own stands alone. -/
def join (base p : Path) : Path :=
  if p.root = .relative then ⟨base.root, base.names ++ p.names⟩ else p

def append (base : Path) (text : String) : Path := base.join (ofText text)

def parent (p : Path) : Path := { p with names := p.names.dropLast }

def name (p : Path) : String := p.names.getLast?.getD ""

def climb (names : List String) : List String :=
  names.foldl (fun acc n => if n = ".." then acc.dropLast else acc ++ [n]) []

/-- The names of the directory above some names. From where one stands two dots lead
further up, and above the root is the root. -/
def climbFrom (root : Root) (names : List String) : List String :=
  match names.getLast? with
  | none => if root = .relative then [".."] else []
  | some ".." => names ++ [".."]
  | some _ => names.dropLast

def absolute (cwd p : Path) : Path := ⟨.slash, climb (cwd.join p).names⟩

end Path

end Provision.Files
