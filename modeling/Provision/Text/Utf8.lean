import Provision.Text.Hex
import Provision.Text.Points
import Provision.Text.Quoted

/-!
# Reading and writing UTF-8

Bytes become characters one sequence at a time. Where no sequence fits, the
longest start of one is set aside as malformed, with the reason. A strict
reader stops there and names the place. A lenient one writes a replacement
character and goes on behind it.

Every text can be written but one with a lone surrogate, since that is no
character. What could not be written names the first such place.
-/

namespace Provision.Text

inductive Malformed where
  | badStart
  | badContinuation
  | truncated
  deriving DecidableEq, Repr

def Malformed.reason : Malformed → String
  | .badStart => "invalid start byte"
  | .badContinuation => "invalid continuation byte"
  | .truncated => "unexpected end of data"

/-- What the bytes start with: a character or a malformed piece, and how many
bytes behind the first belong to it. -/
inductive Sequence where
  | char (c : Char) (more : Nat)
  | malformed (why : Malformed) (more : Nat)

def isTail (b : UInt8) : Bool := 0x80 ≤ b.toNat && b.toNat ≤ 0xbf

def tailBits (b : UInt8) : Nat := b.toNat - 0x80

/-- Whether the second byte may follow the first. Sequences that would be too
long for their character, surrogates, and code points past the last are cut
off here. -/
def secondFits (b : Nat) (c : UInt8) : Bool :=
  isTail c && !(b = 0xe0 && c.toNat < 0xa0) && !(b = 0xed && 0xa0 ≤ c.toNat) &&
    !(b = 0xf0 && c.toNat < 0x90) && !(b = 0xf4 && 0x90 ≤ c.toNat)

def sequence (b : UInt8) (rest : List UInt8) : Sequence :=
  let n := b.toNat
  if n < 0x80 then .char (Char.ofNat n) 0
  else if 0xc2 ≤ n ∧ n ≤ 0xdf then
    match rest with
    | [] => .malformed .truncated 0
    | c :: _ =>
      if isTail c then .char (Char.ofNat ((n - 0xc0) * 64 + tailBits c)) 1
      else .malformed .badContinuation 0
  else if 0xe0 ≤ n ∧ n ≤ 0xef then
    match rest with
    | [] => .malformed .truncated 0
    | c :: rest =>
      if !secondFits n c then .malformed .badContinuation 0
      else match rest with
      | [] => .malformed .truncated 1
      | d :: _ =>
        if isTail d then
          .char (Char.ofNat (((n - 0xe0) * 64 + tailBits c) * 64 + tailBits d)) 2
        else .malformed .badContinuation 1
  else if 0xf0 ≤ n ∧ n ≤ 0xf4 then
    match rest with
    | [] => .malformed .truncated 0
    | c :: rest =>
      if !secondFits n c then .malformed .badContinuation 0
      else match rest with
      | [] => .malformed .truncated 1
      | d :: rest =>
        if !isTail d then .malformed .badContinuation 1
        else match rest with
        | [] => .malformed .truncated 2
        | e :: _ =>
          if isTail e then
            .char (Char.ofNat ((((n - 0xf0) * 64 + tailBits c) * 64 + tailBits d) * 64 +
              tailBits e)) 3
          else .malformed .badContinuation 2
  else .malformed .badStart 0

/-- Where strict reading stopped: the place of the first bad byte, its value,
how many bytes behind it belong to the piece, and the reason. -/
structure BadBytes where
  place : Nat
  byte : UInt8
  more : Nat
  why : Malformed
  deriving DecidableEq, Repr

def BadBytes.message (e : BadBytes) : String :=
  if e.more = 0 then
    s!"'utf-8' codec can't decode byte 0x{hex 2 e.byte.toNat} in position {e.place}: {e.why.reason}"
  else
    s!"'utf-8' codec can't decode bytes in position {e.place}-{e.place + e.more}: {e.why.reason}"

def decodeFrom (place : Nat) (bytes : List UInt8) : Except BadBytes (List Char) :=
  match bytes with
  | [] => .ok []
  | b :: rest =>
    match sequence b rest with
    | .malformed why more => .error ⟨place, b, more, why⟩
    | .char c more => (c :: ·) <$> decodeFrom (place + more + 1) (rest.drop more)
termination_by bytes.length
decreasing_by simp only [List.length_drop, List.length_cons]; omega

def decodeUtf8 (bytes : List UInt8) : Except BadBytes String :=
  (fun cs => String.ofList (ofChars cs)) <$> decodeFrom 0 bytes

def decodeLenientChars (bytes : List UInt8) : List Char :=
  match bytes with
  | [] => []
  | b :: rest =>
    match sequence b rest with
    | .malformed _ more => '\ufffd' :: decodeLenientChars (rest.drop more)
    | .char c more => c :: decodeLenientChars (rest.drop more)
termination_by bytes.length
decreasing_by all_goals simp only [List.length_drop, List.length_cons]; omega

/-- Lenient reading: each malformed piece becomes one replacement character. -/
def decodeUtf8Lenient (bytes : List UInt8) : String :=
  String.ofList (ofChars (decodeLenientChars bytes))

def unifyNewlines : List Char → List Char
  | [] => []
  | '\r' :: '\n' :: rest => '\n' :: unifyNewlines rest
  | c :: rest => (if c = '\r' then '\n' else c) :: unifyNewlines rest

def readTextChars (bytes : List UInt8) : Except BadBytes (List Char) :=
  (fun cs => unifyNewlines (ofChars cs)) <$> decodeFrom 0 bytes

def readTextFile (bytes : List UInt8) : Except BadBytes String :=
  String.ofList <$> readTextChars bytes

def pointBytes (n : Nat) : List UInt8 :=
  let tail (k : Nat) : UInt8 := UInt8.ofNat (0x80 + n / k % 64)
  if n < 0x80 then [UInt8.ofNat n]
  else if n < 0x800 then [UInt8.ofNat (0xc0 + n / 64), tail 1]
  else if n < 0x10000 then [UInt8.ofNat (0xe0 + n / 4096), tail 64, tail 1]
  else [UInt8.ofNat (0xf0 + n / 262144), tail 4096, tail 64, tail 1]

/-- The bytes of a text, with lone surrogates written as if they were characters. -/
def utf8Bytes (s : String) : List UInt8 := (points s.toList).flatMap pointBytes

/-- Where strict writing stopped: the place of the first lone surrogate, that
surrogate, and how many more follow it without a gap. -/
structure Unwritable where
  place : Nat
  point : Nat
  more : Nat
  deriving DecidableEq, Repr

def Unwritable.message (e : Unwritable) : String :=
  if e.more = 0 then
    s!"'utf-8' codec can't encode character '\\u{hex 4 e.point}' in position {e.place}: " ++
      "surrogates not allowed"
  else
    s!"'utf-8' codec can't encode characters in position {e.place}-{e.place + e.more}: " ++
      "surrogates not allowed"

/-- What keeps code points from being written, if they stand from `place` on and
all surrogates but the exempt ones do. -/
def unwritableFrom? (exempt : Nat → Bool) (place : Nat) : List Nat → Option Unwritable
  | [] => none
  | n :: rest =>
    if isSurrogate n && !exempt n then
      some ⟨place, n, (rest.takeWhile isSurrogate).length⟩
    else unwritableFrom? exempt (place + 1) rest

def unwritable? (s : String) : Option Unwritable :=
  unwritableFrom? (fun _ => false) 0 (points s.toList)

theorem unwritableFrom?_eq_none_iff {exempt : Nat → Bool} {place : Nat} {ns : List Nat} :
    unwritableFrom? exempt place ns = none ↔
      ∀ n ∈ ns, isSurrogate n = true → exempt n = true := by
  induction ns generalizing place with
  | nil => simp [unwritableFrom?]
  | cons n ns ih =>
    rw [unwritableFrom?, List.forall_mem_cons]
    cases isSurrogate n <;> cases exempt n <;> simp [ih]

theorem unwritable?_eq_none_iff {s : String} : unwritable? s = none ↔ hasSurrogate s = false := by
  rw [unwritable?, unwritableFrom?_eq_none_iff, hasSurrogate]
  simp

/-- A text as it is shown where nothing may be left out: a lone surrogate becomes
its escape. -/
def escaped (s : String) : String :=
  String.ofList <| (points s.toList).flatMap fun n =>
    if isSurrogate n then backslash :: 'u' :: hexChars 4 n else ofPoint n

end Provision.Text
