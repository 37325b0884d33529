import Provision.Fault
import Provision.Text.Blank
import Provision.Text.Digit
import Provision.Text.Whole

/-!
# Selections by number

A reply such as `1, 3,4` selects entries of a numbered list. Blank parts are
passed over. The selection is the numbers in ascending order, each once.
-/

namespace Provision.Interview

def commaParts : List Char → List (List Char)
  | [] => [[]]
  | c :: rest =>
    if c = ',' then [] :: commaParts rest
    else match commaParts rest with
    | [] => [[c]]
    | p :: ps => (c :: p) :: ps

def wrongValue (text : String) : Fault := .mishap .wrongValue text

def partNumber (upper : Int) (part : List Char) : Except Fault Nat :=
  let text := String.ofList part
  if !part.all Text.isDigit then .error (wrongValue s!"'{text}' is not a number")
  else match Text.readWhole 10 text with
  | .error f => .error (wrongValue (f.message 10 text))
  | .ok n =>
    if 1 ≤ n ∧ n ≤ upper then .ok n.toNat
    else .error (wrongValue s!"{n} is out of range 1-{upper}")

def insertUnique (n : Nat) : List Nat → List Nat
  | [] => [n]
  | m :: rest =>
    if n < m then n :: m :: rest else if n = m then m :: rest else m :: insertUnique n rest

def trimmed (part : List Char) : List Char := Text.trimEnd (Text.trimStart part)

def selectParts (upper : Int) (picked : List Nat) : List (List Char) → Except Fault (List Nat)
  | [] => .ok picked
  | part :: rest =>
    let part := trimmed part
    if part = [] then selectParts upper picked rest
    else match partNumber upper part with
    | .error f => .error f
    | .ok n => selectParts upper (insertUnique n picked) rest

def parseSelection (raw : String) (upper : Int) : Except Fault (List Nat) :=
  selectParts upper [] (commaParts raw.toList)

end Provision.Interview
