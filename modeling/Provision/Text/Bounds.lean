/-!
# Sets of code points by their bounds

A set that consists of runs is kept as the list of the code points at which
membership changes, in order.
-/

namespace Provision.Text

/-- Whether a code point lies in a run that the bounds mark, when the run before
the first bound is marked as `start` says. -/
def inAlternating (start : Bool) : List Nat → Nat → Bool
  | [], _ => start
  | b :: bs, n => if n < b then start else inAlternating (!start) bs n

theorem inAlternating_of_lt {start : Bool} {b n : Nat} (bs : List Nat) (h : n < b) :
    inAlternating start (b :: bs) n = start := if_pos h

theorem inAlternating_of_le {start : Bool} {b n : Nat} (bs : List Nat) (h : b ≤ n) :
    inAlternating start (b :: bs) n = inAlternating (!start) bs n :=
  if_neg (Nat.not_lt.2 h)

end Provision.Text
