import Provision.Decimal.Reader
import Provision.Text.Hex
import Provision.Text.Points
import Provision.Text.Quoted
import Provision.Text.Whole
import Provision.Value

/-!
# Reading JSON

A reader for JSON texts that also knows the three words for numbers that are
not finite. A fault names its cause and the place in the text where reading
could not go on. Of repeated keys in an object the last value counts, at the
place of the first. Brackets may stand only so deep in each other.

The number of values in a text is at most its length, so the recursion is given
more steps than that and never runs out of them.
-/

namespace Provision.Json

inductive Cause where
  | byteOrderMark
  | value
  | name
  | colon
  | comma
  | extra
  | unterminated
  | control
  | escapeLetter
  | escapeDigits
  deriving DecidableEq, Repr

def Cause.text : Cause → String
  | .byteOrderMark => "Unexpected UTF-8 BOM (decode using utf-8-sig)"
  | .value => "Expecting value"
  | .name => "Expecting property name enclosed in double quotes"
  | .colon => "Expecting ':' delimiter"
  | .comma => "Expecting ',' delimiter"
  | .extra => "Extra data"
  | .unterminated => "Unterminated string starting at"
  | .control => "Invalid control character at"
  | .escapeLetter => "Invalid \\escape"
  | .escapeDigits => "Invalid \\uXXXX escape"

inductive Holder where
  | array
  | object
  deriving DecidableEq, Repr

def Holder.name : Holder → String
  | .array => "array"
  | .object => "object"

inductive ReadFault where
  /-- The text is no JSON at this place. -/
  | malformed (cause : Cause) (place : Nat)
  /-- A whole number has too many digits. -/
  | oversized (digits : Nat)
  /-- Too many brackets are open. -/
  | tooDeep (holder : Holder)
  deriving DecidableEq, Repr

def lineColumn (before : List Nat) : Nat × Nat :=
  (before.count 0x0a + 1, (before.reverse.takeWhile (· != 0x0a)).length + 1)

def ReadFault.message (text : String) : ReadFault → String
  | .malformed cause place =>
    let before := Text.points (text.toList.take place)
    let (line, column) := lineColumn before
    s!"{cause.text}: line {line} column {column} (char {before.length})"
  | .oversized digits => Text.oversizedText digits
  | .tooDeep holder =>
    s!"maximum recursion depth exceeded while decoding a JSON {holder.name} from a unicode string"

/-- A place in the text and what is left from there. -/
structure Cursor where
  place : Nat
  rest : List Char

namespace Cursor

def advance (c : Cursor) (n : Nat) : Cursor := ⟨c.place + n, c.rest.drop n⟩

def skipBlanks (c : Cursor) : Cursor :=
  let blanks := c.rest.takeWhile fun x => x = ' ' || x = '\t' || x = '\n' || x = '\r'
  c.advance blanks.length

end Cursor

abbrev Read := Except ReadFault

def fail {α : Type} (cause : Cause) (place : Nat) : Read α := .error (.malformed cause place)

def simpleEscape? (c : Char) : Option Char :=
  if c = Text.doubleQuote then some Text.doubleQuote
  else if c = Text.backslash then some Text.backslash
  else match c with
  | '/' => some '/'
  | 'b' => some '\x08'
  | 'f' => some '\x0c'
  | 'n' => some '\n'
  | 'r' => some '\r'
  | 't' => some '\t'
  | _ => none

def escapeCode? (cs : List Char) : Option Nat :=
  if 4 < cs.length then Text.readHex? (cs.take 4) else none

def hasFive (cs : List Char) : Bool := 5 ≤ (Text.pieces (cs.take 10)).length

/-- What follows a backslash: the text it stands for, and how many characters
were read. Two escapes that name the halves of a pair are read together. -/
def readEscape (place : Nat) (cs : List Char) : Read (List Char × Nat) :=
  match cs with
  | [] => fail .escapeLetter place
  | 'u' :: digits =>
    match escapeCode? digits with
    | none => fail .escapeDigits (place + 1)
    | some high =>
      let alone : Read (List Char × Nat) := .ok (Text.ofPoint high, 5)
      if !Text.isHighSurrogate high then alone
      else match digits.drop 4 with
      | b :: 'u' :: more =>
        if b != Text.backslash || !hasFive more then alone
        else match Text.readHex? (more.take 4) with
        | none => fail .escapeDigits (place + 7)
        | some low =>
          if Text.isLowSurrogate low then
            .ok (Text.ofPoint (Text.joinSurrogates high low), 11)
          else alone
      | _ => alone
  | c :: _ =>
    match simpleEscape? c with
    | some x => .ok ([x], 1)
    | none => fail .escapeLetter place

/-- The characters of a string whose opening quote is at `start`, read with
`acc` holding what was read before, last first. -/
def readString (start : Nat) : Nat → Cursor → List Char → Read (String × Cursor)
  | 0, _, _ => fail .unterminated start
  | fuel + 1, c, acc =>
    match c.rest with
    | [] => fail .unterminated start
    | x :: rest =>
      if x = Text.doubleQuote then .ok (String.ofList acc.reverse, c.advance 1)
      else if x = Text.backslash then
        if rest.isEmpty then fail .unterminated start
        else do
          let (ys, used) ← readEscape c.place rest
          readString start fuel (c.advance (used + 1)) (ys.reverse ++ acc)
      else if x.toNat < 0x20 then fail .control c.place
      else readString start fuel (c.advance 1) (x :: acc)

def isDecimal (c : Char) : Bool := '0' ≤ c && c ≤ '9'

def readExponent? (cs : List Char) : Option (Int × Nat) :=
  match cs with
  | e :: rest =>
    if e = 'e' || e = 'E' then
      let (negative, sign, rest) := match rest with
        | '-' :: more => (true, 1, more)
        | '+' :: more => (false, 1, more)
        | _ => (false, 0, rest)
      let ds := rest.takeWhile isDecimal
      if ds.isEmpty then none
      else
        let n : Int := Decimal.digitsValue ds
        some (if negative then -n else n, 1 + sign + ds.length)
    else none
  | [] => none

def readFraction (cs : List Char) : List Char :=
  match cs with
  | '.' :: rest => rest.takeWhile isDecimal
  | _ => []

def readNumber (c : Cursor) : Read (Value × Cursor) :=
  let (negative, sign, rest) := match c.rest with
    | '-' :: more => (true, 1, more)
    | _ => (false, 0, c.rest)
  let whole := match rest with
    | '0' :: _ => ['0']
    | _ => rest.takeWhile isDecimal
  if whole.isEmpty then fail .value c.place
  else
    let rest := rest.drop whole.length
    let fraction := readFraction rest
    let point := if fraction.isEmpty then 0 else 1
    let rest := rest.drop (point + fraction.length)
    let used := sign + whole.length + point + fraction.length
    match readExponent? rest with
    | some (e, n) =>
      .ok (.float (Decimal.toFloat negative (Decimal.digitsValue (whole ++ fraction))
        (e - fraction.length)), c.advance (used + n))
    | none =>
      if fraction.isEmpty then
        if Text.wholeLimit < whole.length then .error (.oversized whole.length)
        else
          let n : Int := Decimal.digitsValue whole
          .ok (.int (if negative then -n else n), c.advance used)
      else
        .ok (.float (Decimal.toFloat negative (Decimal.digitsValue (whole ++ fraction))
          (-(fraction.length : Int))), c.advance used)

def words : List (List Char × Value) := [
  ("null".toList, .null),
  ("true".toList, .bool true),
  ("false".toList, .bool false),
  ("NaN".toList, .float (0.0 / 0.0)),
  ("Infinity".toList, .float (1.0 / 0.0)),
  ("-Infinity".toList, .float (-1.0 / 0.0))]

/-- How many brackets may be open at once. This is an assumption, not a rule of JSON: how deep a
reader can go depends on the interpreter it runs in and on the calls that are under way already. -/
def nestingLimit : Nat := 988

mutual

/-- Reads a value. After the steps comes how many more brackets may be opened. -/
def readValue : Nat → Nat → Cursor → Read (Value × Cursor)
  | 0, _, c => fail .value c.place
  | fuel + 1, levels, c =>
    match c.rest with
    | [] => fail .value c.place
    | x :: _ =>
      if x = Text.doubleQuote then do
        let (s, c) ← readString c.place (c.rest.length + 1) (c.advance 1) []
        return (.str s, c)
      else if x = '\x7b' then
        if levels = 0 then .error (.tooDeep .object)
        else
          let c := (c.advance 1).skipBlanks
          if c.rest.head? = some '\x7d' then .ok (.dict [], c.advance 1)
          else do
            let (es, c) ← readEntries fuel (levels - 1) c []
            return (.dict (Entries.ofPairs es.reverse), c)
      else if x = '[' then
        if levels = 0 then .error (.tooDeep .array)
        else
          let c := (c.advance 1).skipBlanks
          if c.rest.head? = some ']' then .ok (.list [], c.advance 1)
          else do
            let (items, c) ← readItems fuel (levels - 1) c []
            return (.list items.reverse, c)
      else match words.find? fun w => w.1.isPrefixOf c.rest with
      | some (w, v) => .ok (v, c.advance w.length)
      | none => readNumber c

def readItems : Nat → Nat → Cursor → List Value → Read (List Value × Cursor)
  | 0, _, c, _ => fail .value c.place
  | fuel + 1, levels, c, acc => do
    let (v, c) ← readValue fuel levels c
    let c := c.skipBlanks
    match c.rest with
    | ']' :: _ => return (v :: acc, c.advance 1)
    | ',' :: _ => readItems fuel levels (c.advance 1).skipBlanks (v :: acc)
    | _ => fail .comma c.place

def readEntries : Nat → Nat → Cursor → List (String × Value) →
    Read (List (String × Value) × Cursor)
  | 0, _, c, _ => fail .name c.place
  | fuel + 1, levels, c, acc => do
    if c.rest.head? ≠ some Text.doubleQuote then fail .name c.place
    let (k, c) ← readString c.place (c.rest.length + 1) (c.advance 1) []
    let c := c.skipBlanks
    if c.rest.head? ≠ some ':' then fail .colon c.place
    let (v, c) ← readValue fuel levels (c.advance 1).skipBlanks
    let c := c.skipBlanks
    match c.rest with
    | '\x7d' :: _ => return ((k, v) :: acc, c.advance 1)
    | ',' :: _ => readEntries fuel levels (c.advance 1).skipBlanks ((k, v) :: acc)
    | _ => fail .comma c.place

end

def readChars (cs : List Char) : Read Value := do
  if cs.head? = some '\ufeff' then fail .byteOrderMark 0
  let (v, c) ← readValue (2 * cs.length + 2) nestingLimit (Cursor.skipBlanks ⟨0, cs⟩)
  let c := c.skipBlanks
  if c.rest.isEmpty then return v else fail .extra c.place

def read (text : String) : Read Value := readChars text.toList

end Provision.Json
