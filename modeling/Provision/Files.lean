import Provision.Files.Naming
import Provision.Files.Path
import Provision.Fault
import Provision.Text.Quoted
import Provision.Text.Utf8

/-!
# A tree of files

The files and directories that a run can see, and the directory in which it
stands. What a link leads to stands in the place of the link. Nothing here writes
to the tree. A look-up walks from the root and wants a directory under every step
but the last, so that two dots behind something that is not there lead nowhere.
It comes upon a name that is too long only in a directory that is there.

There are no permissions: whatever stands in the tree can be looked up and read.
So a look-up that is denied (`EACCES`) cannot be expressed, and nothing is said
about what would come of one.
-/

namespace Provision

namespace Files

inductive Entry where
  | directory
  | file (bytes : List UInt8)
  /-- Neither of the two, such as a socket. It is there, but it cannot be opened. -/
  | special
  deriving Inhabited

inductive Miss where
  | absent
  | notDirectory
  | isDirectory
  | noDevice
  | tooLong
  deriving DecidableEq, Repr

def Miss.code : Miss → Nat
  | .absent => 2
  | .notDirectory => 20
  | .isDirectory => 21
  | .noDevice => 6
  | .tooLong => 36

def Miss.text : Miss → String
  | .absent => "No such file or directory"
  | .notDirectory => "Not a directory"
  | .isDirectory => "Is a directory"
  | .noDevice => "No such device or address"
  | .tooLong => "File name too long"

def Miss.mishap : Miss → Mishap
  | .absent => .noSuchFile
  | .notDirectory => .other "NotADirectoryError"
  | .isDirectory => .other "IsADirectoryError"
  | .noDevice => .system
  | .tooLong => .system

def Miss.message (m : Miss) (p : Path) : String :=
  s!"[Errno {m.code}] {m.text}: {Text.quoted p.text}"

def Miss.fault (m : Miss) (p : Path) : Fault := .mishap m.mishap (m.message p)

end Files

/-- Entries by their names from the root on. Directories above an entry need no
entry of their own. -/
structure Files where
  entries : List (List String × Files.Entry)
  cwd : Files.Path
  deriving Inhabited

namespace Files

/-- The entry under these names, which hold no dots. -/
def entry? (f : Files) (names : List String) : Option Entry :=
  match f.entries.find? (·.1 = names) with
  | some e => some e.2
  | none =>
    if names.isEmpty || f.entries.any fun e => names.isPrefixOf e.1 then some .directory
    else none

def walkTo (f : Files) (here : List String) : List String → Except Miss (List String)
  | [] => .ok here
  | n :: rest =>
    match f.entry? here with
    | none => .error .absent
    | some (.file _) | some .special => .error .notDirectory
    | some .directory =>
      if nameLimit < byteCount n then .error .tooLong
      else if n = ".." then f.walkTo here.dropLast rest
      else f.walkTo (here ++ [n]) rest

/-- What stands under a path. Under a path that no file can have, nothing does. -/
def stat (f : Files) (p : Path) : Except Miss Entry := do
  if (badName? p.text).isSome then throw .absent
  if pathLimit < byteCount p.text then throw .tooLong
  let names ← f.walkTo [] (f.cwd.join p).names
  match f.entry? names with
  | none => .error .absent
  | some e => .ok e

/-- Whether a file stands under a path. Only a name that is too long raises a
fault. -/
def isFile (f : Files) (p : Path) : Except Fault Bool :=
  match f.stat p with
  | .ok (.file _) => .ok true
  | .error .tooLong => .error (Miss.tooLong.fault p)
  | _ => .ok false

def firstFile? (f : Files) : List Path → Except Fault (Option Path)
  | [] => .ok none
  | p :: rest => do if ← f.isFile p then return some p else f.firstFile? rest

def read (f : Files) (p : Path) : Except Miss (List UInt8) := do
  match ← f.stat p with
  | .file bytes => .ok bytes
  | .directory => .error .isDirectory
  | .special => .error .noDevice

/-- What is wrong with a path, if something is found on the way along it. `here`
are the names of the way so far, without those that two dots have taken back. -/
def badStep? (root : Root) (here : List String) : List String → Option BadName
  | [] => none
  | n :: rest =>
    if n = ".." then badStep? root (Path.climbFrom root here) rest
    else
      let here := here ++ [n]
      if (badName? n).isSome then badName? (Path.text ⟨root, here⟩)
      else badStep? root here rest

def resolve (f : Files) (p : Path) : Except Fault Path :=
  let root := if p.root = .relative then .relative else .slash
  match badStep? root [] p.names with
  | some bad => .error bad.fault
  | none => .ok (Path.absolute f.cwd p)

def badText (e : Text.BadBytes) : Fault := .mishap .notText e.message

end Files

end Provision
