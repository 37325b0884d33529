import Provision.Decimal.Shortest
import Provision.Text.Quoted
import Provision.Value

/-!
# The text of a value

Messages, command lines and record updates write a value as text. A string that
stands alone is written as it is. Inside a list or a dictionary it is quoted,
so that the text shows where it ends.
-/

namespace Provision.Value

/-- Floating numbers are positional from `0.0001` to below `10 ^ 16`. -/
def numberLayout : Decimal.Layout := ⟨-4, 15, 2, "nan", "inf"⟩

def joinChars (between : List Char) : List (List Char) → List Char
  | [] => []
  | [cs] => cs
  | cs :: rest => cs ++ between ++ joinChars between rest

def scalarText : Value → String
  | .null => "None"
  | .bool b => if b then "True" else "False"
  | .int n => toString n
  | .float x => numberLayout.write x
  | .str s => s
  | _ => ""

mutual

def nested : Value → List Char
  | .str s => Text.quotedChars s.toList
  | .list items => '[' :: (joinChars [',', ' '] (nestedItems items) ++ [']'])
  | .dict entries => '\x7b' :: (joinChars [',', ' '] (nestedEntries entries) ++ ['\x7d'])
  | v => v.scalarText.toList

def nestedItems : List Value → List (List Char)
  | [] => []
  | v :: vs => nested v :: nestedItems vs

def nestedEntries : List (String × Value) → List (List Char)
  | [] => []
  | (k, v) :: rest => (Text.quotedChars k.toList ++ ':' :: ' ' :: nested v) :: nestedEntries rest

end

def text : Value → String
  | .str s => s
  | v => String.ofList v.nested

end Provision.Value
