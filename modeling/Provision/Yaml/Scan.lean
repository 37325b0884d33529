import Provision.Text.Hex
import Provision.Text.Points
import Provision.Text.Quoted
import Provision.Text.Utf8
import Provision.Text.Whole
import Provision.Yaml.Token

/-!
# From text to tokens

The reader keeps its place in the text, the indentation of the blocks it is in,
and how many brackets are open. A key is known for one only when its colon comes,
so each level remembers where a key may have begun, and the key token is put
there afterwards. A key must fit on one line and in 1024 characters.

The text ends in a zero character, which no YAML text may hold. Every token takes
at least one character, so the number of rounds is bounded by the length.

Places are counted in characters. A scalar is kept as a text of code points,
since its escapes may name some that are no characters.

The tokens are those of YAML 1.1, the limits of a key among them. It is an
assumption about the loader that it settles every token as soon as no key token
can come in front of it, and so refuses a text no earlier than that.
-/

namespace Provision.Yaml

/-- A place where a key may have begun. -/
structure Candidate where
  level : Nat
  token : Nat
  required : Bool
  index : Nat
  line : Nat
  column : Int

structure Reader where
  rest : List Char
  index : Nat := 0
  line : Nat := 0
  column : Int := 0
  flow : Nat := 0
  indent : Int := -1
  indents : List Int := []
  keyAllowed : Bool := true
  candidates : List Candidate := []
  tokens : Array Token := #[]
  done : Bool := false

abbrev Scan := StateT Reader (Except Refusal)

def refuse {α : Type} (reason : String) : Scan α := throw (.malformed reason)

/-! ## Characters -/

def endMark : Char := '\x00'

def isBreak (c : Char) : Bool :=
  c = '\n' || c = '\r' || c = '\u0085' || c = '\u2028' || c = '\u2029'

def isBreakOrEnd (c : Char) : Bool := isBreak c || c = endMark

def isGap (c : Char) : Bool := isBreakOrEnd c || c = ' '

def isWideGap (c : Char) : Bool := isGap c || c = '\t'

def isWordChar (c : Char) : Bool := c.isAlphanum || c = '-' || c = '_'

def isAdmitted (c : Char) : Bool :=
  let n := c.toNat
  n = 9 || n = 10 || n = 13 || (0x20 ≤ n && n ≤ 0x7e) || n = 0x85 || (0xa0 ≤ n && n ≤ 0xfffd) ||
    0x10000 ≤ n

def at_ (cs : List Char) (n : Nat) : Char := (cs[n]?).getD endMark

def peek (n : Nat) : Scan Char := do return at_ (← get).rest n

def step (r : Reader) : Reader :=
  match r.rest with
  | [] => r
  | c :: rest =>
    if isBreak c then
      { r with rest, index := r.index + 1, line := r.line + 1, column := 0 }
    else
      { r with rest, index := r.index + 1,
               column := if c = '\ufeff' then r.column else r.column + 1 }

def forward (n : Nat) : Scan Unit := modify fun r => Nat.repeat step n r

def takeWhile (p : Char → Bool) : Scan (List Char) := do
  let cs := (← get).rest.takeWhile p
  forward cs.length
  return cs

def skip (p : Char → Bool) : Scan Unit := do
  let _ ← takeWhile p

/-- A line break at the start, as the text it leaves behind. -/
def takeBreak : Scan (List Char) := do
  let c ← peek 0
  if c = '\u2028' || c = '\u2029' then
    forward 1
    return [c]
  else if isBreak c then
    forward (if c = '\r' && (← peek 1) = '\n' then 2 else 1)
    return ['\n']
  else return []

def separatorAhead : Scan Bool := do
  let cs := (← get).rest
  let three := cs.take 3
  return (three = ['-', '-', '-'] || three = ['.', '.', '.']) && isWideGap (at_ cs 3)

/-! ## Tokens and indentation -/

def push (t : Token) : Scan Unit := modify fun r => { r with tokens := r.tokens.push t }

def insertAt (n : Nat) (t : Token) : Scan Unit := modify fun r =>
  { r with tokens := (r.tokens.toList.take n ++ t :: r.tokens.toList.drop n).toArray }

def allowKey (b : Bool) : Scan Unit := modify fun r => { r with keyAllowed := b }

def missingColon {α : Type} : Scan α := refuse "could not find expected ':'"

def Candidate.isStale (c : Candidate) (r : Reader) : Bool :=
  c.line != r.line || r.index - c.index > 1024

def dropStale : Scan Unit := do
  let r ← get
  if r.candidates.any fun c => c.isStale r && c.required then missingColon
  set { r with candidates := r.candidates.filter fun c => !c.isStale r }

def dropCandidate : Scan Unit := do
  let r ← get
  if r.candidates.any fun c => c.level = r.flow && c.required then missingColon
  set { r with candidates := r.candidates.filter fun c => c.level != r.flow }

def saveCandidate : Scan Unit := do
  let r ← get
  if r.keyAllowed then
    dropCandidate
    modify fun r => { r with candidates :=
      ⟨r.flow, r.tokens.size, r.flow = 0 && r.indent = r.column, r.index, r.line, r.column⟩ ::
        r.candidates }

def unwindFrom (column : Int) : Int → List Int → Array Token → Int × List Int × Array Token
  | indent, [], ts => (indent, [], ts)
  | indent, i :: is, ts =>
    if column < indent then unwindFrom column i is (ts.push .blockEnd) else (indent, i :: is, ts)

def unwind (column : Int) : Scan Unit := modify fun r =>
  if r.flow != 0 then r
  else
    let (indent, indents, tokens) := unwindFrom column r.indent r.indents r.tokens
    { r with indent, indents, tokens }

def deepen (column : Int) : Scan Bool := do
  let r ← get
  if r.indent < column then
    set { r with indents := r.indent :: r.indents, indent := column }
    return true
  else return false

/-! ## Blanks between tokens -/

def skipBlanks : Nat → Scan Unit
  | 0 => return
  | fuel + 1 => do
    skip (· = ' ')
    if (← peek 0) = '#' then skip fun c => !isBreakOrEnd c
    let br ← takeBreak
    if br.isEmpty then return
    if (← get).flow = 0 then allowKey true
    skipBlanks fuel

/-! ## Directives, anchors, tags -/

def number : Scan Nat := do
  let ds := (← get).rest.takeWhile Char.isDigit
  if ds.isEmpty then refuse "expected a digit"
  match Text.readWhole 10 (String.ofList ds) with
  | .error f => throw (.mishap .wrongValue (f.message 10 (String.ofList ds)))
  | .ok n =>
    forward ds.length
    return n.toNat

def expectGap (what : String) : Scan Unit := do
  if !isGap (← peek 0) then refuse what

def tagHandle : Scan String := do
  if (← peek 0) != '!' then refuse "expected '!'"
  let r ← get
  let word := (r.rest.drop 1).takeWhile isWordChar
  let next := at_ r.rest (word.length + 1)
  if at_ r.rest 1 = ' ' then
    forward 1
    return "!"
  else if next = '!' then
    forward (word.length + 2)
    return String.ofList ('!' :: word ++ ['!'])
  else if word.isEmpty then
    refuse "expected '!'"
  else refuse "expected '!'"

def isUriChar (c : Char) : Bool :=
  c.isAlphanum || ("-;/?:@&=+$,_.!~*'()[]".toList).contains c

def uriBytes : Nat → Scan (List UInt8)
  | 0 => return []
  | fuel + 1 => do
    if (← peek 0) != '%' then return []
    match Text.readHex? [← peek 1, ← peek 2] with
    | none => refuse "expected URI escape sequence of 2 hexadecimal numbers"
    | some n =>
      forward 3
      return UInt8.ofNat n :: (← uriBytes fuel)

def uriFrom : Nat → List Char → Scan (List Char)
  | 0, acc => return acc
  | fuel + 1, acc => do
    let plain ← takeWhile isUriChar
    if (← peek 0) = '%' then
      match Text.decodeUtf8 (← uriBytes (← get).rest.length) with
      | .ok s => uriFrom fuel (acc ++ plain ++ s.toList)
      | .error e => refuse e.message
    else return acc ++ plain

def uri : Scan String := do
  let cs ← uriFrom ((← get).rest.length + 1) []
  if cs.isEmpty then refuse "expected URI"
  return String.ofList cs

def directive : Scan Directive := do
  forward 1
  let name ← takeWhile isWordChar
  if name.isEmpty then refuse "expected alphabetic or numeric character"
  expectGap "expected alphabetic or numeric character"
  let d ← match String.ofList name with
    | "YAML" => do
      skip (· = ' ')
      let major ← number
      if (← peek 0) != '.' then refuse "expected a digit or '.'"
      forward 1
      let minor ← number
      expectGap "expected a digit or ' '"
      pure (Directive.version major minor)
    | "TAG" => do
      skip (· = ' ')
      let handle ← tagHandle
      if (← peek 0) != ' ' then refuse "expected ' '"
      skip (· = ' ')
      let stem ← uri
      expectGap "expected ' '"
      pure (Directive.tag handle stem)
    | _ => do
      skip fun c => !isBreakOrEnd c
      pure Directive.unknown
  skip (· = ' ')
  if (← peek 0) = '#' then skip fun c => !isBreakOrEnd c
  if !isBreakOrEnd (← peek 0) then refuse "expected a comment or a line break"
  let _ ← takeBreak
  return d

def anchorName : Scan String := do
  forward 1
  let name ← takeWhile isWordChar
  if name.isEmpty then refuse "expected alphabetic or numeric character"
  let c ← peek 0
  if !(isWideGap c || ("?:,]\x7d%@".toList).contains c || c = '\x60') then
    refuse "expected alphabetic or numeric character"
  return String.ofList name

def tagToken : Scan Token := do
  let c ← peek 1
  let t ← (do
    if c = '<' then
      forward 2
      let suffix ← uri
      if (← peek 0) != '>' then refuse "expected '>'"
      forward 1
      return Token.tag none suffix
    else if isWideGap c then
      forward 1
      return Token.tag none "!"
    else
      let ahead := ((← get).rest.drop 1).takeWhile fun c => !isGap c
      if ahead.contains '!' then
        let handle ← tagHandle
        return Token.tag (some handle) (← uri)
      else
        forward 1
        return Token.tag (some "!") (← uri))
  expectGap "expected ' '"
  return t

/-! ## Scalars -/

/-- What the header of a block scalar says: whether breaks at the end are kept
(or dropped), and by how much the text is indented. -/
structure Header where
  keep : Option Bool
  increment : Option Nat

def chomping? (c : Char) : Option Bool :=
  if c = '+' then some true else if c = '-' then some false else none

def header : Scan Header := do
  let increment : Scan (Option Nat) := do
    let c ← peek 0
    if c = '0' then refuse "expected indentation indicator in the range 1-9, but found 0"
    else if c.isDigit then
      forward 1
      return some (c.toNat - 48)
    else return none
  let chomp : Scan (Option Bool) := do
    let k := chomping? (← peek 0)
    if k.isSome then forward 1
    return k
  let first ← chomp
  let inc ← increment
  let keep ← if first.isSome then pure first else if inc.isSome then chomp else pure none
  expectGap "expected chomping or indentation indicators"
  return ⟨keep, inc⟩

def ignoredLine : Scan Unit := do
  skip (· = ' ')
  if (← peek 0) = '#' then skip fun c => !isBreakOrEnd c
  if !isBreakOrEnd (← peek 0) then refuse "expected a comment or a line break"
  let _ ← takeBreak

/-- Blank lines before the text, and the deepest indentation among them and
before the text. -/
def indentation : Nat → List Char → Int → Scan (List Char × Int)
  | 0, breaks, deepest => return (breaks, deepest)
  | fuel + 1, breaks, deepest => do
    let c ← peek 0
    if c = ' ' then
      forward 1
      indentation fuel breaks (max deepest (← get).column)
    else if isBreak c then indentation fuel (breaks ++ (← takeBreak)) deepest
    else return (breaks, deepest)

def skipIndent (indent : Int) : Scan Unit := do
  let r ← get
  let blanks := (r.rest.takeWhile (· = ' ')).length
  forward (min blanks (indent - r.column).toNat)

def blockBreaks (indent : Int) : Nat → Scan (List Char)
  | 0 => return []
  | fuel + 1 => do
    skipIndent indent
    if isBreak (← peek 0) then
      let b ← takeBreak
      return b ++ (← blockBreaks indent fuel)
    else return []

/-- The lines of a block scalar. Returns the text, the last line break and the
breaks behind it. -/
def blockLines (folded : Bool) (indent : Int) :
    Nat → List Char → List Char → Scan (List Char × List Char × List Char)
  | 0, acc, breaks => return (acc, [], breaks)
  | fuel + 1, acc, breaks => do
    let first ← peek 0
    let textual := !(first = ' ' || first = '\t')
    let line ← takeWhile fun c => !isBreakOrEnd c
    let acc := acc ++ breaks ++ Text.ofChars line
    let br ← takeBreak
    let breaks ← blockBreaks indent ((← get).rest.length + 1)
    let next ← peek 0
    if (← get).column = indent && next != endMark then
      let joint :=
        if folded && br = ['\n'] && textual && !(next = ' ' || next = '\t') then
          if breaks.isEmpty then [' '] else []
        else br
      blockLines folded indent fuel (acc ++ joint) breaks
    else return (acc, br, breaks)

def blockScalar (folded : Bool) : Scan Token := do
  forward 1
  let h ← header
  ignoredLine
  let r ← get
  let least := max (r.indent + 1) 1
  let size := r.rest.length + 1
  let (breaks, indent) ← match h.increment with
    | none => do
      let (breaks, deepest) ← indentation size [] 0
      pure (breaks, max least deepest)
    | some n => do
      let indent := least + n - 1
      pure (← blockBreaks indent size, indent)
  let (text, br, breaks) ←
    if (← get).column = indent && (← peek 0) != endMark then blockLines folded indent size [] breaks
    else pure ([], [], breaks)
  let tail := match h.keep with
    | none => br
    | some true => br ++ breaks
    | some false => []
  return .scalar (String.ofList (text ++ tail)) false

def escapes : List (Char × Char) := [
  ('0', '\x00'), ('a', '\x07'), ('b', '\x08'), ('t', '\t'), ('\t', '\t'), ('n', '\n'),
  ('v', '\x0b'), ('f', '\x0c'), ('r', '\r'), ('e', '\x1b'), (' ', ' '),
  (Text.doubleQuote, Text.doubleQuote), (Text.backslash, Text.backslash), ('/', '/'),
  ('N', '\u0085'), ('_', '\u00a0'), ('L', '\u2028'), ('P', '\u2029')]

def escapeWidth? (c : Char) : Option Nat :=
  match c with
  | 'x' => some 2
  | 'u' => some 4
  | 'U' => some 8
  | _ => none

def escapedCode (n : Nat) : Scan (List Char) := do
  if n < 0x110000 then return Text.ofPoint n
  else if n < 0x80000000 then throw (.mishap .wrongValue "chr() arg not in range(0x110000)")
  else throw (.mishap (.other "OverflowError") "Python int too large to convert to C int")

def quotedBreaks : Nat → Scan (List Char)
  | 0 => return []
  | fuel + 1 => do
    if ← separatorAhead then refuse "found unexpected document separator"
    skip fun c => c = ' ' || c = '\t'
    if isBreak (← peek 0) then
      let b ← takeBreak
      return b ++ (← quotedBreaks fuel)
    else return []

def escaped : Scan (List Char) := do
  forward 1
  let c ← peek 0
  match escapes.lookup c, escapeWidth? c with
  | some x, _ =>
    forward 1
    return [x]
  | none, some width =>
    forward 1
    let digits := (← get).rest.take width
    match Text.readHex? digits with
    | some n =>
      if digits.length < width then refuse "expected escape sequence of hexadecimal numbers"
      let x ← escapedCode n
      forward width
      return x
    | none => refuse "expected escape sequence of hexadecimal numbers"
  | none, none =>
    if isBreak c then
      let _ ← takeBreak
      quotedBreaks ((← get).rest.length + 1)
    else refuse "found unknown escape character"

def quotedWords (double : Bool) : Nat → List Char → Scan (List Char)
  | 0, acc => return acc
  | fuel + 1, acc => do
    let plain ← takeWhile fun c => !(c = Text.singleQuote || c = Text.doubleQuote ||
      c = Text.backslash || isWideGap c)
    let acc := acc ++ Text.ofChars plain
    let c ← peek 0
    if !double && c = Text.singleQuote && (← peek 1) = Text.singleQuote then
      forward 2
      quotedWords double fuel (acc ++ [c])
    else if (double && c = Text.singleQuote) ||
        (!double && (c = Text.doubleQuote || c = Text.backslash)) then
      forward 1
      quotedWords double fuel (acc ++ [c])
    else if double && c = Text.backslash then
      quotedWords double fuel (acc ++ (← escaped))
    else return acc

def quotedSpaces : Scan (List Char) := do
  let blanks ← takeWhile fun c => c = ' ' || c = '\t'
  let c ← peek 0
  if c = endMark then refuse "found unexpected end of stream"
  else if isBreak c then
    let br ← takeBreak
    let breaks ← quotedBreaks ((← get).rest.length + 1)
    return (if br != ['\n'] then br else if breaks.isEmpty then [' '] else []) ++ breaks
  else return blanks

def quotedRest (double : Bool) (mark : Char) : Nat → List Char → Scan (List Char)
  | 0, _ => refuse "found unexpected end of stream"
  | fuel + 1, acc => do
    if (← peek 0) = mark then
      forward 1
      return acc
    let blanks ← quotedSpaces
    let words ← quotedWords double ((← get).rest.length + 1) []
    quotedRest double mark fuel (acc ++ blanks ++ words)

def quotedScalar (double : Bool) : Scan Token := do
  forward 1
  let size := (← get).rest.length + 1
  let first ← quotedWords double size []
  let mark := if double then Text.doubleQuote else Text.singleQuote
  return .scalar (String.ofList (← quotedRest double mark size first)) false

def plainLength (inFlow : Bool) : List Char → Nat
  | [] => 0
  | c :: rest =>
    let next := at_ rest 0
    let flowMark (c : Char) : Bool := c = ',' || c = '[' || c = ']' || c = '\x7b' || c = '\x7d'
    if isWideGap c then 0
    else if c = ':' && (isWideGap next || (inFlow && flowMark next)) then 0
    else if inFlow && (flowMark c || c = '?') then 0
    else plainLength inFlow rest + 1

/-- Breaks and blanks between the lines of a plain scalar. Nothing is returned
where a document ends. -/
def plainBreaks : Nat → List Char → Scan (Option (List Char))
  | 0, breaks => return some breaks
  | fuel + 1, breaks => do
    let c ← peek 0
    if c = ' ' then
      forward 1
      plainBreaks fuel breaks
    else if isBreak c then
      let b ← takeBreak
      if ← separatorAhead then return none
      plainBreaks fuel (breaks ++ b)
    else return some breaks

def plainSpaces : Scan (List Char) := do
  let blanks ← takeWhile (· = ' ')
  if isBreak (← peek 0) then
    let br ← takeBreak
    allowKey true
    if ← separatorAhead then return []
    match ← plainBreaks ((← get).rest.length + 1) [] with
    | none => return []
    | some breaks =>
      return (if br != ['\n'] then br else if breaks.isEmpty then [' '] else []) ++ breaks
  else return blanks

def plainFrom (indent : Int) : Nat → List Char → List Char → Scan (List Char)
  | 0, acc, _ => return acc
  | fuel + 1, acc, spaces => do
    if (← peek 0) = '#' then return acc
    let r ← get
    let n := plainLength (r.flow != 0) r.rest
    if n = 0 then return acc
    allowKey false
    forward n
    let acc := acc ++ spaces ++ Text.ofChars (r.rest.take n)
    let spaces ← plainSpaces
    let r ← get
    if spaces.isEmpty || at_ r.rest 0 = '#' || (r.flow = 0 && r.column < indent) then return acc
    plainFrom indent fuel acc spaces

def plainScalar : Scan Token := do
  let r ← get
  return .scalar (String.ofList (← plainFrom (r.indent + 1) (r.rest.length + 1) [] [])) true

/-! ## The next token -/

def closeAll : Scan Unit := do
  unwind (-1)
  dropCandidate
  allowKey false

def flowStart (t : Token) : Scan Unit := do
  saveCandidate
  modify fun r => { r with flow := r.flow + 1 }
  allowKey true
  forward 1
  push t

def flowEnd (t : Token) : Scan Unit := do
  dropCandidate
  if (← get).flow = 0 then refuse "found a bracket that closes nothing"
  modify fun r => { r with flow := r.flow - 1 }
  allowKey false
  forward 1
  push t

def beginBlock (t : Token) (reason : String) : Scan Unit := do
  let r ← get
  if r.flow = 0 then
    if !r.keyAllowed then refuse reason
    if ← deepen r.column then push t

def entryToken : Scan Unit := do
  beginBlock .blockSequenceStart "sequence entries are not allowed here"
  allowKey true
  dropCandidate
  forward 1
  push .blockEntry

def keyToken : Scan Unit := do
  beginBlock .blockMappingStart "mapping keys are not allowed here"
  allowKey ((← get).flow = 0)
  dropCandidate
  forward 1
  push .key

def valueToken : Scan Unit := do
  let r ← get
  match r.candidates.find? fun c => c.level = r.flow with
  | some c =>
    modify fun r => { r with candidates := r.candidates.filter fun c => c.level != r.flow }
    insertAt c.token .key
    if r.flow = 0 then
      if ← deepen c.column then insertAt c.token .blockMappingStart
    allowKey false
  | none =>
    beginBlock .blockMappingStart "mapping values are not allowed here"
    allowKey ((← get).flow = 0)
    dropCandidate
  forward 1
  push .value

def keyed (t : Scan Token) : Scan Unit := do
  saveCandidate
  allowKey false
  push (← t)

/-- Saves the place of a possible key and reads a plain scalar, which itself says
whether a key may follow. -/
def plainToken : Scan Unit := do
  saveCandidate
  allowKey false
  push (← plainScalar)

def startsPlain (inFlow : Bool) (c next : Char) : Bool :=
  !(isWideGap c || ("-?:,[]#&*!|>%@".toList).contains c || c = '\x7b' || c = '\x7d' ||
      c = '\x60' || c = Text.singleQuote || c = Text.doubleQuote) ||
    (!isWideGap next && (c = '-' || (!inFlow && (c = '?' || c = ':'))))

def nextToken : Scan Unit := do
  if (← get).index = 0 && (← peek 0) = '\ufeff' then forward 1
  skipBlanks ((← get).rest.length + 1)
  dropStale
  unwind (← get).column
  let r ← get
  let c := at_ r.rest 0
  let next := at_ r.rest 1
  let inFlow := r.flow != 0
  let separator := r.column = 0 && (← separatorAhead)
  if c = endMark then
    closeAll
    push .streamEnd
    modify fun r => { r with done := true, candidates := [] }
  else if c = '%' && r.column = 0 then
    closeAll
    push (.directive (← directive))
  else if separator then
    closeAll
    forward 3
    push (if c = '-' then .documentStart else .documentEnd)
  else if c = '[' then flowStart .flowSequenceStart
  else if c = '\x7b' then flowStart .flowMappingStart
  else if c = ']' then flowEnd .flowSequenceEnd
  else if c = '\x7d' then flowEnd .flowMappingEnd
  else if c = ',' then
    allowKey true
    dropCandidate
    forward 1
    push .flowEntry
  else if c = '-' && isWideGap next then entryToken
  else if c = '?' && (inFlow || isWideGap next) then keyToken
  else if c = ':' && (inFlow || isWideGap next) then valueToken
  else if c = '*' then keyed (Token.aliased <$> anchorName)
  else if c = '&' then keyed (Token.anchor <$> anchorName)
  else if c = '!' then keyed tagToken
  else if (c = '|' || c = '>') && !inFlow then
    allowKey true
    dropCandidate
    push (← blockScalar (c = '>'))
  else if c = Text.singleQuote then keyed (quotedScalar false)
  else if c = Text.doubleQuote then keyed (quotedScalar true)
  else if startsPlain inFlow c next then plainToken
  else refuse "found character that cannot start any token"

/-- What was read of a text: the tokens that are settled, and what is wrong with
the text behind them, if anything is. -/
structure Scanned where
  tokens : List Token
  refusal : Option Refusal := none

/-- The tokens in front of which no key token can come any more. -/
def Reader.settled (r : Reader) : List Token :=
  let open_ := r.candidates.filter fun c => !c.isStale r
  r.tokens.toList.take (open_.foldl (fun n c => min n c.token) r.tokens.size)

def scanFrom : Nat → Reader → Scanned
  | 0, r => ⟨r.tokens.toList, none⟩
  | fuel + 1, r =>
    match nextToken.run r with
    | .error e => ⟨r.settled, some e⟩
    | .ok ((), next) => if next.done then ⟨next.tokens.toList, none⟩ else scanFrom fuel next

def scan (text : String) : Scanned :=
  let cs := Text.chars text
  if cs.all isAdmitted then scanFrom (cs.length + 2) { rest := cs }
  else ⟨[], some (.malformed "special characters are not allowed")⟩

end Provision.Yaml
