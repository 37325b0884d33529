import Provision.Text.Hex
import Provision.Text.Utf8
import Provision.Value

/-!
# Loose reading

Fields of a value that is taken on trust. What is missing, or not of the kind that is
wanted, reads as nothing.
-/

namespace Provision.Value.Loose

def get (v : Value) (key : String) : Value :=
  match v with
  | .dict es => Entries.getD key es
  | _ => .null

def has (v : Value) (key : String) : Bool :=
  match v with
  | .dict es => (Entries.get? key es).isSome
  | _ => false

def getText? (v : Value) (key : String) : Option String := (get v key).asString?

def getText (v : Value) (key : String) : String := (getText? v key).getD ""

def getList (v : Value) (key : String) : List Value := (get v key).asList?.getD []

def getEntries (v : Value) (key : String) : Entries := (get v key).asEntries?.getD []

def getBool (v : Value) (key : String) (usual : Bool) : Bool :=
  match get v key with
  | .bool b => b
  | _ => usual

def strings (vs : List Value) : List String := vs.filterMap Value.asString?

def toFloat : Value → Float
  | .int n => Float.ofInt n
  | .float x => x
  | .bool true => 1.0
  | _ => 0.0

def toInt : Value → Int
  | .int n => n
  | _ => 0

def hexPairs : List Char → List UInt8
  | a :: b :: rest => UInt8.ofNat ((Text.readHex? [a, b]).getD 0) :: hexPairs rest
  | _ => []

/-- Bytes, given as a text or in hexadecimal digits. -/
def toBytes : Value → List UInt8
  | .str s => Text.utf8Bytes s
  | v => hexPairs (getText v "hex").toList

end Provision.Value.Loose
