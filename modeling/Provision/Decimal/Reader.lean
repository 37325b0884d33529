/-!
# Reading decimals

A decimal is a run of digits and a power of ten. Reading rounds it to the
nearest floating number. Powers far outside the range of floating numbers are
settled by their size, so that no huge power of ten is ever computed.
-/

namespace Provision.Decimal

def negate (negative : Bool) (x : Float) : Float := if negative then -x else x

/-- The floating number nearest to `digits * 10 ^ exponent`. -/
def toFloat (negative : Bool) (digits : Nat) (exponent : Int) : Float :=
  let size : Int := (Nat.toDigits 10 digits).length + exponent
  negate negative <|
    if digits = 0 then 0.0
    else if 400 < size then 1.0 / 0.0
    else if size < -400 then 0.0
    else if 0 ≤ exponent then Float.ofScientific digits false exponent.toNat
    else Float.ofScientific digits true (-exponent).toNat

def digitsValue (cs : List Char) : Nat :=
  cs.foldl (fun n c => n * 10 + (c.toNat - 48)) 0

end Provision.Decimal
