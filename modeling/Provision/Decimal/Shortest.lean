/-!
# The shortest decimal of a floating number

A floating number stands for every real number that rounds to it. Among the
decimals in that range the ones with fewest digits are sought, and of those the
nearest to the number. All of it is exact arithmetic on natural numbers: the
number is `m * 2 ^ q`, and the points halfway to its neighbours bound the range,
with both ends included when `m` is even.

`Layout` says how the chosen digits are written down.
-/

namespace Provision.Decimal

/-- What the bits of a floating number say. -/
inductive Parts where
  | notANumber
  | infinite (negative : Bool)
  | finite (negative : Bool) (m : Nat) (q : Int) (narrowBelow : Bool)

/-- The leading bit of a significand, which the bits of a number leave out. -/
def implicitBit : Nat := 0x10000000000000

/-- A finite number is `m * 2 ^ q`. The gap below a power of two is half as
wide as the gap above it, save for the smallest one. -/
def parts (x : Float) : Parts :=
  let bits := x.toBits.toNat
  let negative := bits / 0x8000000000000000 = 1
  let exponent : Nat := bits / implicitBit % 0x800
  let fraction : Nat := bits % implicitBit
  if exponent = 2047 then if fraction = 0 then .infinite negative else .notANumber
  else if exponent = 0 then .finite negative fraction (-1074) false
  else .finite negative (fraction + implicitBit) ((exponent : Int) - 1075) (fraction = 0 && exponent > 1)

structure Ratio where
  num : Nat
  den : Nat

namespace Ratio

def ofBinary (m : Nat) (q : Int) : Ratio :=
  if 0 ≤ q then ⟨m * Nat.pow 2 q.toNat, 1⟩ else ⟨m, Nat.pow 2 (-q).toNat⟩

def shift (r : Ratio) (k : Int) : Ratio :=
  if 0 ≤ k then ⟨r.num, r.den * Nat.pow 10 k.toNat⟩
  else ⟨r.num * Nat.pow 10 (-k).toNat, r.den⟩

def floor (r : Ratio) : Nat := r.num / r.den

def tensToOne : Nat → Ratio → Nat
  | 0, _ => 0
  | fuel + 1, r => if r.den ≤ r.num then 0 else tensToOne fuel ⟨r.num * 10, r.den⟩ + 1

def exponent (r : Ratio) : Int :=
  if r.den ≤ r.num then ((Nat.toDigits 10 r.floor).length : Int) - 1
  else -(tensToOne 400 r : Int)

def le (a b : Ratio) : Bool := a.num * b.den ≤ b.num * a.den

def lt (a b : Ratio) : Bool := a.num * b.den < b.num * a.den

end Ratio

/-- The range of reals that round to one floating number. -/
structure Interval where
  low : Ratio
  high : Ratio
  closed : Bool

def Interval.contains (i : Interval) (r : Ratio) : Bool :=
  if i.closed then i.low.le r && r.le i.high else i.low.lt r && r.lt i.high

def interval (m : Nat) (q : Int) (narrowBelow : Bool) : Interval where
  low := Ratio.ofBinary (if narrowBelow then 4 * m - 1 else 4 * m - 2) (q - 2)
  high := Ratio.ofBinary (4 * m + 2) (q - 2)
  closed := m % 2 = 0

/-- Digits as a number, and the exponent of the last of them. -/
structure Digits where
  digits : Nat
  last : Int

/-- The point of the grid with unit `10 ^ k` that is chosen for `v`, if the
range holds one of the two around it. The nearer wins, and of two equally near
the even one. -/
def onGrid (i : Interval) (v : Ratio) (k : Int) : Option Digits :=
  let scaled := v.shift k
  let d := scaled.floor
  let point (n : Nat) : Ratio := (Ratio.mk n 1).shift (-k)
  let below := 0 < d && i.contains (point d)
  let above := i.contains (point (d + 1))
  let twice := 2 * (scaled.num - d * scaled.den)
  match below, above with
  | true, true =>
    if twice < scaled.den then some ⟨d, k⟩
    else if scaled.den < twice then some ⟨d + 1, k⟩
    else some ⟨if d % 2 = 0 then d else d + 1, k⟩
  | true, false => some ⟨d, k⟩
  | false, true => some ⟨d + 1, k⟩
  | false, false => none

/-- Grids from coarse to fine, `count` of them from the unit `10 ^ k` on. -/
def firstGrid (i : Interval) (v : Ratio) : Nat → Int → Digits
  | 0, k => ⟨(v.shift k).floor, k⟩
  | count + 1, k =>
    match onGrid i v k with
    | some d => d
    | none => firstGrid i v count (k - 1)

/-- The shortest digits of `m * 2 ^ q`. -/
def shortest (m : Nat) (q : Int) (narrowBelow : Bool) : Digits :=
  let v := Ratio.ofBinary m q
  firstGrid (interval m q narrowBelow) v 17 v.exponent

/-- How a floating number is laid out. Exponents of the first digit from
`positionalFrom` to `positionalTo` are written out as places, and a whole
number then ends in a zero after the point. Other exponents are written with a
mark, a sign and at least `exponentWidth` digits. -/
structure Layout where
  positionalFrom : Int
  positionalTo : Int
  exponentWidth : Nat
  notANumber : String
  infinite : String

def trimZeros (cs : List Char) : List Char :=
  match (cs.reverse.dropWhile (· = '0')).reverse with
  | [] => ['0']
  | kept => kept

def zeros (n : Nat) : List Char := List.replicate n '0'

def Layout.unsigned (l : Layout) (d : Digits) : List Char :=
  let all := Nat.toDigits 10 d.digits
  let first : Int := d.last + all.length - 1
  let ds := trimZeros all
  if d.digits = 0 then ['0', '.', '0']
  else if l.positionalFrom ≤ first ∧ first ≤ l.positionalTo then
    if first < 0 then ['0', '.'] ++ zeros (-first - 1).toNat ++ ds
    else
      let whole := first.toNat + 1
      if ds.length ≤ whole then ds ++ zeros (whole - ds.length) ++ ['.', '0']
      else ds.take whole ++ '.' :: ds.drop whole
  else
    let mantissa := match ds with
      | [] => []
      | [c] => [c]
      | c :: rest => c :: '.' :: rest
    let size := Nat.toDigits 10 first.natAbs
    mantissa ++ 'e' :: (if first < 0 then '-' else '+') ::
      (zeros (l.exponentWidth - size.length) ++ size)

def Layout.write (l : Layout) (x : Float) : String :=
  let signed (negative : Bool) (cs : List Char) : String :=
    String.ofList (if negative then '-' :: cs else cs)
  match parts x with
  | .notANumber => l.notANumber
  | .infinite negative => signed negative l.infinite.toList
  | .finite negative m q narrowBelow =>
    signed negative (l.unsigned (if m = 0 then ⟨0, 0⟩ else shortest m q narrowBelow))

end Provision.Decimal
