import Provision.Decimal.Shortest

/-!
# Decimals with a fixed number of places

A floating number is rounded, from its exact binary amount, to the nearest
decimal with the wanted number of places. A tie goes to the even neighbour.
-/

namespace Provision.Decimal

/-- The natural number nearest to a quotient. A tie goes to the even one. -/
def roundDiv (num den : Nat) : Nat :=
  let q := num / den
  let twice := 2 * (num % den)
  if twice < den then q
  else if den < twice then q + 1
  else if q % 2 = 0 then q else q + 1

theorem roundDiv_near {num den : Nat} (h : 0 < den) :
    2 * num ≤ 2 * roundDiv num den * den + den ∧
      2 * roundDiv num den * den ≤ 2 * num + den := by
  have hd := Nat.div_add_mod num den
  have hm := Nat.mod_lt num h
  have key : ∀ k, 2 * k * den = 2 * (den * k) := fun k => by
    rw [Nat.mul_assoc, Nat.mul_comm k den]
  simp only [key]
  unfold roundDiv
  simp only
  split
  · constructor <;> omega
  · split
    · rw [Nat.mul_add]; constructor <;> omega
    · split
      · constructor <;> omega
      · rw [Nat.mul_add]; constructor <;> omega

def placed (places n : Nat) : List Char :=
  let ds := Nat.toDigits 10 n
  let ds := zeros (places + 1 - ds.length) ++ ds
  ds.take (ds.length - places) ++ '.' :: ds.drop (ds.length - places)

def fixed (places : Nat) (x : Float) : String :=
  match parts x with
  | .notANumber => "nan"
  | .infinite negative => if negative then "-inf" else "inf"
  | .finite negative m q _ =>
    let r := Ratio.ofBinary m q
    let cs := placed places (roundDiv (r.num * Nat.pow 10 places) r.den)
    String.ofList (if negative then '-' :: cs else cs)

end Provision.Decimal
