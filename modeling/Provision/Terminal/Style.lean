/-!
# Styled text on a terminal

A style is switched on by codes in front of a text and off behind it. A terminal
without colours gets the text without any codes, also without those that the
text itself brought along.
-/

namespace Provision.Terminal

inductive Color where
  | red
  | green
  | yellow
  | cyan
  | white
  deriving DecidableEq, Repr

def Color.code : Color → Nat
  | .red => 31
  | .green => 32
  | .yellow => 33
  | .cyan => 36
  | .white => 37

structure Style where
  color : Option Color := none
  bold : Bool := false
  dim : Bool := false
  deriving DecidableEq, Repr

def Style.plain : Style := {}

def csi (code : Nat) : String := s!"\x1b[{code}m"

def Style.apply (s : Style) (text : String) : String :=
  (match s.color with
    | none => ""
    | some c => csi c.code) ++
  (if s.bold then csi 1 else "") ++ (if s.dim then csi 2 else "") ++ text ++ csi 0

/-- What follows an escape character and an opening bracket, if it is a code:
the number of characters up to its final one. In front of that come parameters
and then intermediate characters. -/
def codeLength? (cs : List Char) : Option Nat :=
  let parameters := cs.takeWhile fun c => '0' ≤ c && c ≤ '?'
  let rest := cs.drop parameters.length
  let between := rest.takeWhile fun c => ' ' ≤ c && c ≤ '/'
  match rest.drop between.length with
  | c :: _ =>
    if '@' ≤ c && c ≤ '~' then some (parameters.length + between.length + 1) else none
  | [] => none

def stripCodes (cs : List Char) : List Char :=
  match cs with
  | '\x1b' :: '[' :: rest =>
    match codeLength? rest with
    | some n => stripCodes (rest.drop n)
    | none => '\x1b' :: stripCodes ('[' :: rest)
  | c :: rest => c :: stripCodes rest
  | [] => []
termination_by cs.length
decreasing_by all_goals simp <;> omega

def shown (color : Bool) (text : String) : String :=
  if color then text else String.ofList (stripCodes text.toList)

def shownLine (color : Bool) (s : Style) (text : String) : String :=
  shown color (s.apply text ++ "\n")

def plainLine (color : Bool) (text : String) : String := shown color (text ++ "\n")

end Provision.Terminal
