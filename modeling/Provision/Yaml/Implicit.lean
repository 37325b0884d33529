import Provision.Text.Hex
import Provision.Yaml.Tag

/-!
# Scalars by their looks

A plain scalar without a tag is a number, a truth value, a date and so on if its
text looks like one, and a string otherwise. The looks overlap, so the order in
which they are tried is part of the rule. From a lone mark, such as an
exclamation mark, nothing can be made.

The looks are those that YAML 1.1 lists for its types, in the narrower form that
the loader is assumed to have: truth values have no single letters, the exponent
of a number has a sign, and a number has a point if it has an exponent.
-/

namespace Provision.Yaml

def isDecimal (c : Char) : Bool := c.isDigit

def isSpaced (p : Char → Bool) (c : Char) : Bool := p c || c = '_'

def isSign (c : Char) : Bool := c = '+' || c = '-'

def unsigned (cs : List Char) : List Char :=
  match cs with
  | c :: rest => if isSign c then rest else c :: rest
  | [] => []

/-! ## Numbers -/

def colonParts : List Char → List (List Char)
  | [] => [[]]
  | c :: rest =>
    if c = ':' then [] :: colonParts rest
    else match colonParts rest with
    | [] => [[c]]
    | p :: ps => (c :: p) :: ps

def isSixtieth : List Char → Bool
  | [a] => isDecimal a
  | [a, b] => '0' ≤ a && a ≤ '5' && isDecimal b
  | _ => false

def isInteger (cs : List Char) : Bool :=
  match unsigned cs with
  | [] => false
  | '0' :: rest =>
    match rest with
    | [] => true
    | 'b' :: bits => bits != [] && bits.all (isSpaced fun c => c = '0' || c = '1')
    | 'x' :: hex => hex != [] && hex.all (isSpaced fun c => (Text.hexValue? c).isSome)
    | octal => octal.all (isSpaced fun c => '0' ≤ c && c ≤ '7')
  | cs =>
    match colonParts cs with
    | whole :: sixtieths =>
      whole.head?.any isDecimal && whole.all (isSpaced isDecimal) && sixtieths.all isSixtieth
    | [] => false

def isExponent : List Char → Bool
  | [] => true
  | e :: sign :: ds => (e = 'e' || e = 'E') && isSign sign && ds != [] && ds.all isDecimal
  | _ => false

def isFraction (cs : List Char) : Bool := isExponent (cs.dropWhile (isSpaced isDecimal))

def isFloat (cs : List Char) : Bool :=
  let bare := unsigned cs
  let whole := bare.takeWhile (· != '.')
  let isInfinity := [".inf", ".Inf", ".INF"].contains (String.ofList bare)
  let isNothing := [".nan", ".NaN", ".NAN"].contains (String.ofList cs)
  match bare.dropWhile (· != '.') with
  | '.' :: fraction =>
    isInfinity || isNothing ||
      match colonParts whole with
      | [[]] => bare = cs && fraction.head?.any isDecimal && isFraction fraction
      | [w] => w.head?.any isDecimal && w.all (isSpaced isDecimal) && isFraction fraction
      | w :: sixtieths =>
        w.head?.any isDecimal && w.all (isSpaced isDecimal) && sixtieths.all isSixtieth &&
          fraction.all (isSpaced isDecimal)
      | [] => false
  | _ => false

/-! ## Dates and times -/

/-- A time zone: none given, or minutes ahead of universal time. -/
abbrev Zone := Option Int

structure Timestamp where
  year : Nat
  month : Nat
  day : Nat
  /-- Whether month and day have two digits each. -/
  full : Bool
  time : Option (Nat × Nat × Nat)
  /-- The digits behind the seconds. -/
  fraction : List Char
  zone : Zone
  deriving DecidableEq, Repr

def natOf (cs : List Char) : Nat := cs.foldl (fun n c => n * 10 + (c.toNat - 48)) 0

def takeDigits (least most : Nat) (cs : List Char) : Option (List Char × List Char) :=
  let ds := (cs.take most).takeWhile isDecimal
  if ds.length < least then none else some (ds, cs.drop ds.length)

def takeChar (p : Char → Bool) : List Char → Option (List Char)
  | c :: rest => if p c then some rest else none
  | [] => none

def isSpace (c : Char) : Bool := c = ' ' || c = '\t'

def zoneOf? (cs : List Char) : Option Zone :=
  match cs.dropWhile isSpace with
  | [] => if cs = [] then some none else none
  | ['Z'] => some (some 0)
  | sign :: rest => do
    if !isSign sign then none
    let (hours, rest) ← takeDigits 1 2 rest
    let minutes ← match rest with
      | [] => some []
      | ':' :: rest =>
        match takeDigits 2 2 rest with
        | some (m, []) => some m
        | _ => none
      | _ => none
    let total : Int := natOf hours * 60 + natOf minutes
    return some (if sign = '-' then -total else total)

def Timestamp.ofChars? (cs : List Char) : Option Timestamp := do
  let (year, rest) ← takeDigits 4 4 cs
  let rest ← takeChar (· = '-') rest
  let (month, rest) ← takeDigits 1 2 rest
  let rest ← takeChar (· = '-') rest
  let (day, rest) ← takeDigits 1 2 rest
  let full := month.length = 2 && day.length = 2
  let date : Timestamp := ⟨natOf year, natOf month, natOf day, full, none, [], none⟩
  if rest = [] then return date
  let rest ← match rest with
    | 'T' :: rest => some rest
    | 't' :: rest => some rest
    | c :: rest => if isSpace c then some (rest.dropWhile isSpace) else none
    | [] => none
  let (hour, rest) ← takeDigits 1 2 rest
  let rest ← takeChar (· = ':') rest
  let (minute, rest) ← takeDigits 2 2 rest
  let rest ← takeChar (· = ':') rest
  let (second, rest) ← takeDigits 2 2 rest
  let (fraction, rest) := match rest with
    | '.' :: rest => (rest.takeWhile isDecimal, rest.dropWhile isDecimal)
    | rest => ([], rest)
  let zone ← zoneOf? rest
  return { date with time := some (natOf hour, natOf minute, natOf second), fraction, zone }

/-! ## The order of looks -/

def truthWords : List String := [
  "yes", "Yes", "YES", "no", "No", "NO", "true", "True", "TRUE", "false", "False", "FALSE",
  "on", "On", "ON", "off", "Off", "OFF"]

/-- A line break at the end of a text does not change its looks, unless the text
is nothing else. -/
def withoutBreak (cs : List Char) : List Char :=
  match cs.reverse with
  | '\n' :: c :: rest => (c :: rest).reverse
  | _ => cs

def Tag.ofLooks (text : String) : Tag :=
  let cs := withoutBreak text.toList
  let word := String.ofList cs
  if truthWords.contains word then .truth
  else if isFloat cs then .float
  else if isInteger cs then .int
  else if word = "<<" then .merge
  else if ["", "~", "null", "Null", "NULL"].contains word then .null
  else if (Timestamp.ofChars? cs).any fun t => t.time.isSome || t.full then .timestamp
  else if word = "=" then .default
  else if ["!", "&", "*"].contains word then .foreign
  else .text

end Provision.Yaml
