/-!
# Texts as code points

A text is a row of code points. Nearly all of them are characters, and those
stand for themselves. An escape in a JSON or YAML text can also name half of a
surrogate pair without its other half, which is a code point but no character.
In a `String` such a half is written with two characters: a mark, which is the
last code point of all, and a stand-in from the last private block. The mark as
a character of its own is written twice.

`ofPoint` writes a code point and `points` reads them back
(`points_flatMap_ofPoint`). Joining texts joins their code points, and two texts
are equal when their code points are. Only where characters are counted, cut
apart or shown one by one does the difference matter, and there `pieces` has
one part for each code point.
-/

namespace Provision.Text

def isHighSurrogate (n : Nat) : Bool := 0xd800 ≤ n && n ≤ 0xdbff

def isLowSurrogate (n : Nat) : Bool := 0xdc00 ≤ n && n ≤ 0xdfff

def isSurrogate (n : Nat) : Bool := 0xd800 ≤ n && n ≤ 0xdfff

def joinSurrogates (high low : Nat) : Nat :=
  0x10000 + (high - 0xd800) * 0x400 + (low - 0xdc00)

def mark : Char := Char.ofNat 0x10ffff

def standInDistance : Nat := 0x100000

def ofPoint (n : Nat) : List Char :=
  if isSurrogate n then [mark, Char.ofNat (n + standInDistance)]
  else if n = 0x10ffff then [mark, mark]
  else [Char.ofNat n]

/-- The parts of a text, one for each code point. -/
def pieces : List Char → List (List Char)
  | [] => []
  | [c] => [[c]]
  | c :: d :: rest =>
    if c = mark then [c, d] :: pieces rest else [c] :: pieces (d :: rest)

def pointOf : List Char → Nat
  | [c] => c.toNat
  | [_, d] =>
    let n := d.toNat - standInDistance
    if isSurrogate n then n else 0x10ffff
  | _ => 0

def points (cs : List Char) : List Nat := (pieces cs).map pointOf

def ofChars (cs : List Char) : List Char := cs.flatMap fun c => ofPoint c.toNat

/-- The characters of a text. A surrogate has none and leaves a null character. -/
def chars (s : String) : List Char := (points s.toList).map Char.ofNat

def size (s : String) : Nat := (pieces s.toList).length

def drop (n : Nat) (s : String) : String := String.ofList ((pieces s.toList).drop n).flatten

def take (n : Nat) (s : String) : String := String.ofList ((pieces s.toList).take n).flatten

def split (s : String) : List String := (pieces s.toList).map String.ofList

def hasSurrogate (s : String) : Bool := (points s.toList).any isSurrogate

theorem toNat_ofNat_of_isValidChar {n : Nat} (h : n.isValidChar) : (Char.ofNat n).toNat = n := by
  rw [Char.ofNat, dif_pos h]
  rfl

theorem ofNat_eq_mark {n : Nat} (h : Char.ofNat n = mark) : n = 0x10ffff := by
  have h : (Char.ofNat n).toNat = 0x10ffff := h ▸ rfl
  by_cases hv : n.isValidChar
  · rw [← h, toNat_ofNat_of_isValidChar hv]
  · rw [Char.ofNat, dif_neg hv] at h
    exact absurd h (by decide)

theorem pieces_cons_of_ne {c : Char} (cs : List Char) (h : c ≠ mark) :
    pieces (c :: cs) = [c] :: pieces cs := by
  cases cs with
  | nil => rfl
  | cons d rest => simp [pieces, h]

theorem pieces_ofPoint_append (n : Nat) (cs : List Char) :
    pieces (ofPoint n ++ cs) = ofPoint n :: pieces cs := by
  unfold ofPoint
  split
  · simp [pieces]
  · split
    · simp [pieces]
    · next h => exact pieces_cons_of_ne cs fun h' => h (ofNat_eq_mark h')

theorem pieces_flatMap_ofPoint (ns : List Nat) :
    pieces (ns.flatMap ofPoint) = ns.map ofPoint := by
  induction ns with
  | nil => rfl
  | cons n ns ih => simp [pieces_ofPoint_append, ih]

theorem pointOf_ofPoint {n : Nat} (h : n < 0x110000) : pointOf (ofPoint n) = n := by
  unfold ofPoint
  split
  · next hs =>
    have hv : (n + standInDistance).isValidChar := by
      simp only [isSurrogate, Bool.and_eq_true, decide_eq_true_eq] at hs
      exact Or.inr ⟨by unfold standInDistance; omega, by unfold standInDistance; omega⟩
    simp [pointOf, toNat_ofNat_of_isValidChar hv, hs]
  · next hs =>
    split
    · next h => subst h; decide
    · simp only [isSurrogate, Bool.and_eq_true, decide_eq_true_eq, not_and, Nat.not_le] at hs
      have hv : n.isValidChar := by
        by_cases hl : n < 0xd800
        · exact Or.inl hl
        · exact Or.inr ⟨hs (Nat.not_lt.1 hl), h⟩
      exact toNat_ofNat_of_isValidChar hv

theorem points_flatMap_ofPoint {ns : List Nat} (h : ∀ n ∈ ns, n < 0x110000) :
    points (ns.flatMap ofPoint) = ns := by
  rw [points, pieces_flatMap_ofPoint, List.map_map]
  exact (List.map_congr_left fun n hn => pointOf_ofPoint (h n hn)).trans (List.map_id ns)

end Provision.Text
