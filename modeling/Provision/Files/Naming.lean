import Provision.Files.Path
import Provision.Fault
import Provision.Text.Utf8

/-!
# Names that files can have

The system knows files by bytes. A text is turned into them before the system is
asked, and a text with a lone surrogate or a null character never gets that far.
Some surrogates are exempt, since each stands for one byte that is no text. Of the
other texts some are too long, by themselves or in one of their names.
-/

namespace Provision.Files

inductive BadName where
  | unwritable (e : Text.Unwritable)
  | nullByte
  deriving DecidableEq, Repr

def BadName.fault : BadName → Fault
  | .unwritable e => .mishap .notWritable e.message
  | .nullByte => .mishap .wrongValue "embedded null byte"

/-- Whether a surrogate stands for a byte that is no text. -/
def isByte (n : Nat) : Bool := 0xdc80 ≤ n && n ≤ 0xdcff

/-- What keeps a text from being a path, if anything does. -/
def badName? (text : String) : Option BadName :=
  match Text.unwritableFrom? isByte 0 (Text.points text.toList) with
  | some e => some (.unwritable e)
  | none => if '\x00' ∈ text.toList then some .nullByte else none

def byteCount (text : String) : Nat :=
  (Text.points text.toList).foldl
    (fun n p => n + if isByte p then 1 else (Text.pointBytes p).length) 0

def nameLimit : Nat := 255

def pathLimit : Nat := 4095

end Provision.Files
