import Provision.Decimal.Reader
import Provision.Text.Whole

/-!
# Floating numbers as people write them

Blanks around the number and a sign are all right, as is an exponent, and the
digits may be those of any script. There are words for the infinite numbers and
for what is no number.
-/

namespace Provision.Text

def isPlainDigit (c : Char) : Bool := '0' ≤ c && c ≤ '9'

def exponent? (cs : List Char) : Option Int :=
  match cs with
  | [] => some 0
  | e :: rest =>
    let (negative, ds) := signed rest
    if (e = 'e' || e = 'E') && ds != [] && ds.all isPlainDigit then
      let n : Int := Decimal.digitsValue ds
      some (if negative then -n else n)
    else none

def infinityWords : List String := ["inf", "infinity"]

def bareReal? (negative : Bool) (cs : List Char) : Option Float :=
  let word := String.ofList (cs.map Char.toLower)
  if infinityWords.contains word then some (Decimal.negate negative (1.0 / 0.0))
  else if word = "nan" then some (0.0 / 0.0)
  else
    let whole := cs.takeWhile isPlainDigit
    let rest := cs.dropWhile isPlainDigit
    let (fraction, rest) := match rest with
      | '.' :: rest => (rest.takeWhile isPlainDigit, rest.dropWhile isPlainDigit)
      | rest => ([], rest)
    if whole ++ fraction = [] then none
    else (exponent? rest).map fun e =>
      Decimal.toFloat negative (Decimal.digitsValue (whole ++ fraction)) (e - fraction.length)

def readReal? (s : String) : Option Float :=
  let cs := (s.toList.map numeral).dropWhile isNumberBlank
  let (negative, cs) := signed (cs.reverse.dropWhile isNumberBlank).reverse
  bareReal? negative cs

end Provision.Text
