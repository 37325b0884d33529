import Provision.Text.Blank
import Provision.Text.Digit
import Provision.Text.Quoted

/-!
# Whole numbers as people write them

A number may have blanks around it and a sign. Single underscores may stand
between its digits, and the digits may be those of any script. A number to base
two, eight or sixteen may name its base in front of the digits. Control
characters that only separate records do not count as blanks here.
-/

namespace Provision.Text

/-- Numbers to base ten with more digits are not read. -/
def wholeLimit : Nat := 4300

inductive WholeFault where
  /-- The text writes no number. -/
  | malformed
  /-- The number has too many digits. -/
  | oversized (digits : Nat)
  deriving DecidableEq, Repr

def oversizedText (digits : Nat) : String :=
  s!"Exceeds the limit ({wholeLimit} digits) for integer string conversion: " ++
    s!"value has {digits} digits; use sys.set_int_max_str_digits() to increase the limit"

/-- The text that was to be read is shown up to its 200th place. -/
def WholeFault.message (base : Nat) (s : String) : WholeFault → String
  | .malformed => s!"invalid literal for int() with base {base}: {take 200 (quoted s)}"
  | .oversized digits => oversizedText digits

/-- A character as it counts in a number: a digit of any script as the common
digit, and a space of any width as the common one. -/
def numeral (c : Char) : Char :=
  if c.toNat < 128 then c
  else if isBlank c then ' '
  else match decimalValue? c with
  | some d => Char.ofNat (48 + d)
  | none => c

def isNumberBlank (c : Char) : Bool := c = ' ' || ('\t' ≤ c && c ≤ '\r')

def signed : List Char → Bool × List Char
  | '-' :: rest => (true, rest)
  | '+' :: rest => (false, rest)
  | cs => (false, cs)

def baseLetter? (base : Nat) : Option Char :=
  if base = 2 then some 'b' else if base = 8 then some 'o' else if base = 16 then some 'x' else none

def withoutBase (base : Nat) (cs : List Char) : List Char :=
  match cs with
  | '0' :: c :: rest =>
    if some c.toLower = baseLetter? base then
      match rest with
      | '_' :: more => more
      | rest => rest
    else cs
  | cs => cs

def digitValue? (base : Nat) (c : Char) : Option Nat := (hexValue? c).filter (· < base)

/-- The values of the digits at the start and what is left behind them. `gap`
says that an underscore was read last. There is no answer when an underscore does
not stand between two digits. -/
def readDigits (base : Nat) (gap : Bool) : List Char → Option (List Nat × List Char)
  | [] => if gap then none else some ([], [])
  | c :: rest =>
    if c = '_' then if gap then none else readDigits base true rest
    else match digitValue? base c with
    | some d => (readDigits base false rest).map fun r => (d :: r.1, r.2)
    | none => if gap then none else some ([], c :: rest)

def positional (base : Nat) (ds : List Nat) : Nat := ds.foldl (fun n d => n * base + d) 0

def readWhole (base : Nat) (s : String) : Except WholeFault Int :=
  let cs := (s.toList.map numeral).dropWhile isNumberBlank
  let (negative, cs) := signed cs
  match readDigits base true (withoutBase base cs) with
  | none => .error .malformed
  | some (ds, rest) =>
    if base = 10 ∧ wholeLimit < ds.length then .error (.oversized ds.length)
    else if ds = [] ∨ !rest.all isNumberBlank then .error .malformed
    else
      let n : Int := positional base ds
      .ok (if negative then -n else n)

theorem digitValue?_lt {base d : Nat} {c : Char} (h : digitValue? base c = some d) : d < base := by
  obtain ⟨_, h⟩ := Option.filter_eq_some_iff.1 h
  exact of_decide_eq_true h

theorem readDigits_length {base : Nat} {gap : Bool} {cs : List Char} {r : List Nat × List Char}
    (h : readDigits base gap cs = some r) : r.1.length + r.2.length ≤ cs.length := by
  induction cs generalizing gap r with
  | nil =>
    cases gap <;> simp [readDigits] at h
    simp [← h]
  | cons c rest ih =>
    unfold readDigits at h
    split at h
    · split at h
      · simp at h
      · exact Nat.le_succ_of_le (ih h)
    · split at h
      · obtain ⟨t, ht, rfl⟩ := Option.map_eq_some_iff.1 h
        have := ih ht
        simp only [List.length_cons]
        omega
      · split at h
        · simp at h
        · simp only [Option.some.injEq] at h
          simp [← h]

end Provision.Text
