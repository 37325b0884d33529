import Provision.Text.Hex
import Provision.Text.Points
import Provision.Text.Printable

/-!
# Quoted texts

A text that stands inside another text is quoted, and all that could not be
read there is escaped. The single quote is the usual mark. A text that holds
single quotes and no double ones is put between double quotes instead, so that
nothing in it needs a backslash.
-/

namespace Provision.Text

def singleQuote : Char := '\x27'

def doubleQuote : Char := '\x22'

def backslash : Char := '\x5c'

def quoteMark (cs : List Char) : Char :=
  if singleQuote ∈ cs ∧ doubleQuote ∉ cs then doubleQuote else singleQuote

/-- One code point between marks. An unprintable one becomes a hexadecimal
escape of the least width that holds it. -/
def escapePoint (quote : Char) (n : Nat) : List Char :=
  if n = quote.toNat ∨ n = backslash.toNat then [backslash, Char.ofNat n]
  else if n = 0x09 then [backslash, 't']
  else if n = 0x0a then [backslash, 'n']
  else if n = 0x0d then [backslash, 'r']
  else if isPrintable n then [Char.ofNat n]
  else if n < 0x100 then backslash :: 'x' :: hexChars 2 n
  else if n < 0x10000 then backslash :: 'u' :: hexChars 4 n
  else backslash :: 'U' :: hexChars 8 n

def quotedChars (cs : List Char) : List Char :=
  quoteMark cs :: ((points cs).flatMap (escapePoint (quoteMark cs)) ++ [quoteMark cs])

def quoted (s : String) : String := String.ofList (quotedChars s.toList)

end Provision.Text
