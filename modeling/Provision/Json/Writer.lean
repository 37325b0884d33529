import Provision.Text.Hex
import Provision.Text.Points
import Provision.Text.Quoted
import Provision.Value
import Provision.Value.Display

/-!
# Writing JSON

Values as JSON in plain ASCII, either on one line or with two blanks of
indentation per level. A code point outside ASCII is written by the escapes of
its UTF-16 units, and a lone surrogate is its own unit.
-/

namespace Provision.Json

def escapeUnit (n : Nat) : List Char := Text.backslash :: 'u' :: Text.hexChars 4 n

def writePoint (n : Nat) : List Char :=
  if n = Text.doubleQuote.toNat ∨ n = Text.backslash.toNat then [Text.backslash, Char.ofNat n]
  else if 0x20 ≤ n ∧ n < 0x7f then [Char.ofNat n]
  else match n with
  | 0x0a => [Text.backslash, 'n']
  | 0x0d => [Text.backslash, 'r']
  | 0x09 => [Text.backslash, 't']
  | 0x08 => [Text.backslash, 'b']
  | 0x0c => [Text.backslash, 'f']
  | n =>
    if n < 0x10000 then escapeUnit n
    else escapeUnit (0xd800 + (n - 0x10000) / 0x400) ++ escapeUnit (0xdc00 + (n - 0x10000) % 0x400)

def writeString (s : String) : List Char :=
  Text.doubleQuote :: ((Text.points s.toList).flatMap writePoint ++ [Text.doubleQuote])

def numberLayout : Decimal.Layout :=
  { Value.numberLayout with notANumber := "NaN", infinite := "Infinity" }

inductive Spread where
  | line
  | lines
  deriving DecidableEq

def Spread.break (s : Spread) (level : Nat) : List Char :=
  match s with
  | .line => []
  | .lines => '\n' :: List.replicate (2 * level) ' '

def Spread.comma (s : Spread) (level : Nat) : List Char :=
  match s with
  | .line => [',']
  | .lines => ',' :: s.break level

def Spread.colon (s : Spread) : List Char :=
  match s with
  | .line => [':']
  | .lines => [':', ' ']

mutual

def writeAt (s : Spread) (level : Nat) : Value → List Char
  | .null => "null".toList
  | .bool b => (if b then "true" else "false").toList
  | .int n => (toString n).toList
  | .float x => (numberLayout.write x).toList
  | .str t => writeString t
  | .list [] => ['[', ']']
  | .list (v :: vs) =>
    '[' :: (s.break (level + 1) ++ writeAt s (level + 1) v ++ writeItems s (level + 1) vs ++
      s.break level ++ [']'])
  | .dict [] => ['\x7b', '\x7d']
  | .dict ((k, v) :: es) =>
    '\x7b' :: (s.break (level + 1) ++ writeString k ++ s.colon ++ writeAt s (level + 1) v ++
      writeEntries s (level + 1) es ++ s.break level ++ ['\x7d'])

def writeItems (s : Spread) (level : Nat) : List Value → List Char
  | [] => []
  | v :: vs => s.comma level ++ writeAt s level v ++ writeItems s level vs

def writeEntries (s : Spread) (level : Nat) : List (String × Value) → List Char
  | [] => []
  | (k, v) :: es =>
    s.comma level ++ writeString k ++ s.colon ++ writeAt s level v ++ writeEntries s level es

end

def write (s : Spread) (v : Value) : String := String.ofList (writeAt s 0 v)

end Provision.Json
