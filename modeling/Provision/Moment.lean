import Provision.Decimal.Fixed
import Provision.Value

/-!
# Moments of a run

A run reads one clock that counts seconds from an epoch. A moment is such a
reading. Two of them give a duration, and one of them with the epoch gives a
time stamp, which is rounded to microseconds and shows no fraction when there
is none.
-/

namespace Provision

structure Moment where
  seconds : Float
  deriving Inhabited, DecidableEq

namespace Moment

def zero : Moment := ⟨0.0⟩

def after (m : Moment) (seconds : Float) : Moment := ⟨m.seconds + seconds⟩

def since (later earlier : Moment) : Float := later.seconds - earlier.seconds

def durationText (seconds : Float) : String := Decimal.fixed 2 seconds ++ "s"

def nearest (x : Float) : Nat :=
  match Decimal.parts x with
  | .finite _ m q _ =>
    let r := Decimal.Ratio.ofBinary m q
    Decimal.roundDiv r.num r.den
  | _ => 0

def micros (m : Moment) : Int :=
  let distance := m.seconds.abs
  let whole := distance.floor
  let n : Int := nearest whole * 1000000 + nearest ((distance - whole) * 1000000.0)
  if m.seconds < 0.0 then -n else n

structure Date where
  year : Int
  month : Int
  day : Int
  deriving DecidableEq, Repr

/-- The date that lies `days` after 1970-01-01. Years are counted from March on,
in eras of 400 years with 146097 days each. -/
def dateOfDays (days : Int) : Date :=
  let z := days + 719468
  let era := z / 146097
  let doe := z % 146097
  let yoe := (doe - doe / 1460 + doe / 36524 - doe / 146096) / 365
  let doy := doe - (365 * yoe + yoe / 4 - yoe / 100)
  let mp := (5 * doy + 2) / 153
  let day := doy - (153 * mp + 2) / 5 + 1
  let month := if mp < 10 then mp + 3 else mp - 9
  ⟨yoe + era * 400 + (if month ≤ 2 then 1 else 0), month, day⟩

def pad (width : Nat) (n : Nat) : String :=
  let ds := Nat.toDigits 10 n
  String.ofList (Decimal.zeros (width - ds.length) ++ ds)

def stamp (epoch : Int) (m : Moment) : String :=
  let micros := m.micros
  let total := epoch + micros / 1000000
  let fraction := (micros % 1000000).toNat
  let date := dateOfDays (total / 86400)
  let clock := (total % 86400).toNat
  s!"{pad 4 date.year.toNat}-{pad 2 date.month.toNat}-{pad 2 date.day.toNat}T" ++
    s!"{pad 2 (clock / 3600)}:{pad 2 (clock / 60 % 60)}:{pad 2 (clock % 60)}" ++
    (if fraction = 0 then "" else s!".{pad 6 fraction}") ++ "+00:00"

end Moment

end Provision
