import Provision.Text.Case
import Provision.Text.Joined
import Provision.Text.Quoted
import Provision.Text.Real
import Provision.Text.Utf8
import Provision.Value
import Provision.Yaml.Implicit
import Provision.Yaml.Token

/-!
# Scalar data

What a scalar becomes under a tag. Readers of YAML data want strings, and of the
other scalars only the kind. Their amounts are kept too, since equal ones are one
member of a set, and since a date that is no day of the calendar or a number that
is none makes the whole text unreadable.

That such a fault is not one of YAML, but reaches the caller as it is, is an
assumption about the loader, as are the words in which it is put.
-/

namespace Provision.Yaml

inductive Atom where
  | null
  | text (s : String)
  | bytes (bs : List UInt8)
  /-- A truth value, a whole number or a floating one. -/
  | number (v : Value)
  /-- What stands for no number. There is one of it. -/
  | noNumber
  | day (days : Int)
  /-- A time in microseconds. With a zone it is a time the world over. -/
  | time (micros : Int) (zoned : Bool)
  deriving Inhabited

namespace Atom

def kindName : Atom → String
  | .null => "NoneType"
  | .text _ => "str"
  | .bytes _ => "bytes"
  | .number v => v.kindName
  | .noNumber => "float"
  | .day _ => "date"
  | .time .. => "datetime"

/-- Whether two scalars are the same member of a set. Numbers go by their amount. -/
def same : Atom → Atom → Bool
  | .null, .null => true
  | .text a, .text b => a = b
  | .bytes a, .bytes b => a = b
  | .number a, .number b => a.same b
  | .noNumber, .noNumber => true
  | .day a, .day b => a = b
  | .time a z, .time b w => a = b && z = w
  | _, _ => false

end Atom

def wrongValue {α : Type} (text : String) : Except Refusal α := .error (.mishap .wrongValue text)

def tooShort {α : Type} : Except Refusal α :=
  .error (.mishap .noSuchPlace "string index out of range")

/-! ## Numbers -/

def wholePart (base : Nat) (cs : List Char) : Except Refusal Int :=
  let s := String.ofList cs
  match Text.readWhole base s with
  | .ok n => .ok n
  | .error f => wrongValue (f.message base s)

def sixtieths : List Int → Int
  | [] => 0
  | n :: rest => n + 60 * sixtieths rest

/-- The amount behind the sign, whose first character is `c`. -/
def wholeAmount (c : Char) (rest : List Char) : Except Refusal Int :=
  match c, rest with
  | '0', [] => .ok 0
  | '0', 'b' :: bits => wholePart 2 bits
  | '0', 'x' :: digits => wholePart 16 digits
  | '0', _ => wholePart 8 (c :: rest)
  | _, _ => do
    let parts ← (colonParts (c :: rest)).mapM (wholePart 10)
    return sixtieths parts.reverse

def signedText (cs : List Char) : Except Refusal (Bool × List Char) :=
  match cs with
  | [] => tooShort
  | c :: rest => .ok (c = '-', if isSign c then rest else c :: rest)

def readInt (text : String) : Except Refusal Atom := do
  let (negative, cs) ← signedText (text.toList.filter (· != '_'))
  match cs with
  | [] => tooShort
  | c :: rest =>
    let n ← wholeAmount c rest
    return .number (.int (if negative then -n else n))

def realPart (cs : List Char) : Except Refusal Float :=
  let s := String.ofList cs
  match Text.readReal? s with
  | some x => .ok x
  | none => wrongValue s!"could not convert string to float: {Text.quoted s}"

/-- A floating number from its parts to base sixty, last part first. `sum` is the
amount of the parts before and `base` the weight of the next. -/
def realSixtieths (sum : Float) (base : Nat) : List Float → Except Refusal Float
  | [] => .ok sum
  | x :: rest =>
    if (Float.ofNat base).isInf then
      .error (.mishap (.other "OverflowError") "int too large to convert to float")
    else realSixtieths (sum + x * Float.ofNat base) (base * 60) rest

def readFloat (text : String) : Except Refusal Atom := do
  let lower := (Text.lower (String.ofList (text.toList.filter (· != '_')))).toList
  let (negative, cs) ← signedText lower
  let number (x : Float) : Atom := .number (.float (Decimal.negate negative x))
  match String.ofList cs with
  | ".inf" => return number (1.0 / 0.0)
  | ".nan" => return .noNumber
  | _ =>
    match colonParts cs with
    | [part] => return number (← realPart part)
    | parts =>
      let xs ← parts.mapM realPart
      return number (← realSixtieths 0.0 1 xs.reverse)

def truthMeanings : List (String × Bool) := [
  ("yes", true), ("no", false), ("true", true), ("false", false), ("on", true), ("off", false)]

def readTruth (text : String) : Except Refusal Atom :=
  let word := Text.lower text
  match truthMeanings.lookup word with
  | some b => .ok (.number (.bool b))
  | none => .error (.mishap .noSuchKey (Text.quoted word))

/-! ## Dates and times -/

def isLeap (year : Nat) : Bool := year % 4 = 0 && (year % 100 != 0 || year % 400 = 0)

def daysIn (year month : Nat) : Nat :=
  if month = 2 then if isLeap year then 29 else 28
  else if [4, 6, 9, 11].contains month then 30
  else 31

def daysBefore (year : Nat) : Nat :=
  let y := year - 1
  365 * y + y / 4 - y / 100 + y / 400

def daysOf (t : Timestamp) : Nat :=
  daysBefore t.year +
    (List.range (t.month - 1)).foldl (fun n m => n + daysIn t.year (m + 1)) 0 + t.day

/-- A span of time, as a message writes it: whole days and the seconds beyond. -/
def spanText (minutes : Int) : String :=
  let days := minutes.fdiv 1440
  let seconds := minutes.fmod 1440 * 60
  let parts := (if days = 0 then [] else [s!"days={days}"]) ++
    (if seconds = 0 then [] else [s!"seconds={seconds}"])
  s!"datetime.timedelta({Text.commas parts})"

/-- Microseconds from the digits behind the seconds. Further digits are cut off. -/
def microsOf (fraction : List Char) : Nat :=
  let ds := fraction.take 6
  Decimal.digitsValue (ds ++ List.replicate (6 - ds.length) '0')

def Timestamp.read (t : Timestamp) : Except Refusal Atom := do
  let zone := t.zone.getD 0
  if t.time.isSome && 1440 ≤ zone.natAbs then
    wrongValue <| "offset must be a timedelta strictly between -timedelta(hours=24) and " ++
      s!"timedelta(hours=24), not {spanText zone}."
  if t.year = 0 then wrongValue s!"year {t.year} is out of range"
  if t.month < 1 || 12 < t.month then wrongValue "month must be in 1..12"
  if t.day < 1 || daysIn t.year t.month < t.day then wrongValue "day is out of range for month"
  match t.time with
  | none => return .day (daysOf t)
  | some (hour, minute, second) =>
    if 23 < hour then wrongValue "hour must be in 0..23"
    if 59 < minute then wrongValue "minute must be in 0..59"
    if 59 < second then wrongValue "second must be in 0..59"
    let minutes : Int := (daysOf t * 24 + hour) * 60 + minute - zone
    return .time ((minutes * 60 + second) * 1000000 + microsOf t.fraction) t.zone.isSome

def readTimestamp (text : String) : Except Refusal Atom :=
  match Timestamp.ofChars? (withoutBreak text.toList) with
  | some t => t.read
  | none => .error (.mishap .noSuchField "'NoneType' object has no attribute 'groupdict'")

/-! ## Bytes -/

def sextet? (c : Char) : Option Nat :=
  let n := c.toNat
  if 'A' ≤ c ∧ c ≤ 'Z' then some (n - 65)
  else if 'a' ≤ c ∧ c ≤ 'z' then some (n - 71)
  else if '0' ≤ c ∧ c ≤ '9' then some (n + 4)
  else if c = '+' then some 62
  else if c = '/' then some 63
  else none

/-- Bytes from groups of four characters. Characters outside the alphabet are
passed over. `held` are the sextets of the group at hand. -/
def sextets (held : List Nat) (pads : Nat) : List Char → Option (List UInt8)
  | [] => if held = [] then some [] else none
  | c :: rest =>
    if c = '=' then
      if 2 ≤ held.length ∧ 4 ≤ held.length + pads + 1 then some (bytesOf held)
      else sextets held (pads + (if 2 ≤ held.length then 1 else 0)) rest
    else match sextet? c with
    | none => sextets held pads rest
    | some n =>
      if held.length = 3 then (bytesOf (held ++ [n]) ++ ·) <$> sextets [] 0 rest
      else sextets (held ++ [n]) 0 rest
where
  bytesOf : List Nat → List UInt8
    | [a, b] => [UInt8.ofNat (a * 4 + b / 16)]
    | [a, b, c] => [UInt8.ofNat (a * 4 + b / 16), UInt8.ofNat (b % 16 * 16 + c / 4)]
    | [a, b, c, d] =>
      [UInt8.ofNat (a * 4 + b / 16), UInt8.ofNat (b % 16 * 16 + c / 4), UInt8.ofNat (c % 4 * 64 + d)]
    | _ => []

def refused {α : Type} (reason : String) : Except Refusal α := .error (.malformed reason)

def readBinary (text : String) : Except Refusal Atom :=
  if text.toList.any (128 ≤ ·.toNat) then refused "failed to convert base64 data into ascii"
  else match sextets [] 0 text.toList with
  | some bs => .ok (.bytes bs)
  | none => refused "failed to decode base64 data"

def noConstructor {α : Type} : Except Refusal α :=
  refused "could not determine a constructor for the tag"

def Atom.read (tag : Tag) (text : String) : Except Refusal Atom :=
  match tag with
  | .null => .ok .null
  | .truth => readTruth text
  | .int => readInt text
  | .float => readFloat text
  | .text => .ok (.text text)
  | .binary => readBinary text
  | .timestamp => readTimestamp text
  | _ => noConstructor

end Provision.Yaml
