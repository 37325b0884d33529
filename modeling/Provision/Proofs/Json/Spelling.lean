import Provision.Proofs.Json.ReaderLaws

/-!
# What JSON texts say

A grammar of JSON texts that says nothing of a reader: which text spells which value, how
deep its brackets stand in each other, and how many digits its longest whole number has
(`Spells`, `Prints`). A reader goes by how a part of a text begins.
-/

namespace Provision.Json

open Text (doubleQuote backslash)

-- ---------------------------------------------------------------------------
-- The grammar
-- ---------------------------------------------------------------------------

def isGap (x : Char) : Bool := x = ' ' || x = '\t' || x = '\n' || x = '\r'

def Gap (cs : List Char) : Prop := ∀ x ∈ cs, isGap x = true

def Digits (ds : List Char) : Prop := ds ≠ [] ∧ ∀ d ∈ ds, isDecimal d = true

structure Whole (ds : List Char) : Prop where
  digits : Digits ds
  first : ds = ['0'] ∨ ds.head? ≠ some '0'

def minus (negative : Bool) : List Char := if negative then ['-'] else []

def negated (negative : Bool) (n : Nat) : Int := if negative then -(n : Int) else n

def pointed (fs : List Char) : List Char := if fs.isEmpty then [] else '.' :: fs

inductive Exponent : List Char → Int → Prop
  | bare {e : Char} {ds : List Char} (he : e = 'e' ∨ e = 'E') (hd : Digits ds) :
      Exponent (e :: ds) (Decimal.digitsValue ds)
  | plus {e : Char} {ds : List Char} (he : e = 'e' ∨ e = 'E') (hd : Digits ds) :
      Exponent (e :: '+' :: ds) (Decimal.digitsValue ds)
  | minus {e : Char} {ds : List Char} (he : e = 'e' ∨ e = 'E') (hd : Digits ds) :
      Exponent (e :: '-' :: ds) (-(Decimal.digitsValue ds : Int))

structure FourHex (hex : List Char) (n : Nat) : Prop where
  length : hex.length = 4
  value : Text.readHex? hex = some n

/-- The characters between the quotes of a string, and those that they stand for. The halves of a
surrogate pair that are escaped next to each other stand for one code point. -/
inductive Letters : List Char → List Char → Prop
  | nil : Letters [] []
  | plain {x : Char} {cs ys : List Char} (hq : x ≠ doubleQuote) (hb : x ≠ backslash)
      (hx : 0x20 ≤ x.toNat) (h : Letters cs ys) : Letters (x :: cs) (x :: ys)
  | letter {x y : Char} {cs ys : List Char} (hx : simpleEscape? x = some y) (h : Letters cs ys) :
      Letters (backslash :: x :: cs) (y :: ys)
  | point {hex cs ys : List Char} {n : Nat} (hn : FourHex hex n)
      (halone : Text.isHighSurrogate n = true → ∀ low m rest, FourHex low m →
        Text.isLowSurrogate m = true → cs ≠ backslash :: 'u' :: (low ++ rest))
      (h : Letters cs ys) : Letters (backslash :: 'u' :: (hex ++ cs)) (Text.ofPoint n ++ ys)
  | pair {high low cs ys : List Char} {n m : Nat} (hn : FourHex high n)
      (hhigh : Text.isHighSurrogate n = true) (hm : FourHex low m)
      (hlow : Text.isLowSurrogate m = true) (h : Letters cs ys) :
      Letters (backslash :: 'u' :: (high ++ backslash :: 'u' :: (low ++ cs)))
        (Text.ofPoint (Text.joinSurrogates n m) ++ ys)

inductive Form where
  | value (v : Value)
  | items (vs : List Value)
  | entries (es : List (String × Value))

/-- How deep the brackets of a text stand in each other, how many digits its longest whole number
has, and what it says. -/
inductive Spells : Nat → Nat → List Char → Form → Prop
  | word {w : List Char} {v : Value} (h : (w, v) ∈ words) : Spells 0 0 w (.value v)
  | whole {ds : List Char} (negative : Bool) (hd : Whole ds) :
      Spells 0 ds.length (minus negative ++ ds)
        (.value (.int (negated negative (Decimal.digitsValue ds))))
  | decimal {ds fs : List Char} (negative : Bool) (hd : Whole ds) (hf : Digits fs) :
      Spells 0 0 (minus negative ++ ds ++ pointed fs)
        (.value (.float (Decimal.toFloat negative (Decimal.digitsValue (ds ++ fs))
          (-(fs.length : Int)))))
  | scientific {ds fs ex : List Char} {e : Int} (negative : Bool) (hd : Whole ds)
      (hf : fs = [] ∨ Digits fs) (he : Exponent ex e) :
      Spells 0 0 (minus negative ++ ds ++ pointed fs ++ ex)
        (.value (.float (Decimal.toFloat negative (Decimal.digitsValue (ds ++ fs))
          (e - fs.length))))
  | text {cs ys : List Char} (h : Letters cs ys) :
      Spells 0 0 (doubleQuote :: (cs ++ [doubleQuote])) (.value (.str (String.ofList ys)))
  | noItems {b : List Char} (hb : Gap b) : Spells 1 0 ('[' :: (b ++ [']'])) (.value (.list []))
  | list {d k : Nat} {cs : List Char} {vs : List Value} (h : Spells d k cs (.items vs)) :
      Spells (d + 1) k ('[' :: (cs ++ [']'])) (.value (.list vs))
  | noEntries {b : List Char} (hb : Gap b) :
      Spells 1 0 ('\x7b' :: (b ++ ['\x7d'])) (.value (.dict []))
  | dict {d k : Nat} {cs : List Char} {es : List (String × Value)}
      (h : Spells d k cs (.entries es)) :
      Spells (d + 1) k ('\x7b' :: (cs ++ ['\x7d'])) (.value (.dict (Entries.ofPairs es)))
  | lastItem {d k : Nat} {b b' cs : List Char} {v : Value} (hb : Gap b) (hb' : Gap b')
      (h : Spells d k cs (.value v)) : Spells d k (b ++ cs ++ b') (.items [v])
  | item {d d' k k' : Nat} {b b' cs cs' : List Char} {v : Value} {vs : List Value} (hb : Gap b)
      (hb' : Gap b') (h : Spells d k cs (.value v)) (hr : Spells d' k' cs' (.items vs)) :
      Spells (max d d') (max k k') (b ++ cs ++ b' ++ ',' :: cs') (.items (v :: vs))
  | lastEntry {d k : Nat} {b b₁ b₂ b' key ys cs : List Char} {v : Value} (hb : Gap b)
      (hb₁ : Gap b₁) (hb₂ : Gap b₂) (hb' : Gap b') (hk : Letters key ys)
      (h : Spells d k cs (.value v)) :
      Spells d k (b ++ doubleQuote :: (key ++ doubleQuote :: (b₁ ++ ':' :: (b₂ ++ cs ++ b'))))
        (.entries [(String.ofList ys, v)])
  | entry {d d' k k' : Nat} {b b₁ b₂ b' key ys cs cs' : List Char} {v : Value}
      {es : List (String × Value)} (hb : Gap b) (hb₁ : Gap b₁) (hb₂ : Gap b₂) (hb' : Gap b')
      (hk : Letters key ys) (h : Spells d k cs (.value v)) (hr : Spells d' k' cs' (.entries es)) :
      Spells (max d d') (max k k')
        (b ++ doubleQuote :: (key ++ doubleQuote :: (b₁ ++ ':' :: (b₂ ++ cs ++ b' ++ ',' :: cs'))))
        (.entries ((String.ofList ys, v) :: es))

def Prints (d k : Nat) (text : String) (v : Value) : Prop :=
  ∃ b cs b', text.toList = b ++ cs ++ b' ∧ Gap b ∧ Gap b' ∧ Spells d k cs (.value v)

variable {cs ds tail : List Char} {place d k : Nat} {v : Value}

def isPlain (x : Char) : Bool := x ≠ doubleQuote && x ≠ backslash && 0x20 ≤ x.toNat

theorem Letters.of_plain (h : cs.all isPlain = true) : Letters cs cs := by
  induction cs with
  | nil => exact .nil
  | cons x cs ih =>
    obtain ⟨hx, hcs⟩ := Bool.and_eq_true_iff.1 h
    simp only [isPlain, Bool.and_eq_true, decide_eq_true_eq] at hx
    obtain ⟨⟨hq, hb⟩, hx⟩ := hx
    exact .plain hq hb hx (ih hcs)

-- ---------------------------------------------------------------------------
-- Blanks
-- ---------------------------------------------------------------------------

def Stops (p : Char → Bool) (cs : List Char) : Prop := ∀ x, cs.head? = some x → p x = false

theorem takeWhile_of_stops {p : Char → Bool} (hd : ∀ x ∈ ds, p x = true) (hs : Stops p tail) :
    (ds ++ tail).takeWhile p = ds := by
  rw [List.takeWhile_append_of_pos hd]
  cases tail with
  | nil => simp
  | cons x tail => simp [hs x rfl]

theorem not_gap_stops {x : Char} (hx : isGap x = false) (cs : List Char) :
    Stops isGap (x :: cs) := by
  rintro y ⟨⟩
  exact hx

theorem skipBlanks_gap (hb : Gap ds) (hs : Stops isGap cs) (place : Nat) :
    Cursor.skipBlanks ⟨place, ds ++ cs⟩ = ⟨place + ds.length, cs⟩ := by
  have htake : (ds ++ cs).takeWhile isGap = ds := takeWhile_of_stops hb hs
  unfold Cursor.skipBlanks
  dsimp only
  rw [show (fun x => x = ' ' || x = '\t' || x = '\n' || x = '\r' : Char → Bool) = isGap from rfl,
    htake]
  simp [Cursor.advance]

-- ---------------------------------------------------------------------------
-- Beginnings
-- ---------------------------------------------------------------------------

theorem not_gap_of_decimal {x : Char} (hx : isDecimal x = true) : isGap x = false := by
  have hother : ∀ y : Char, isDecimal y = false → x ≠ y := fun y => ne_of_isDecimal hx
  simp [isGap, hother ' ' rfl, hother '\t' rfl, hother '\n' rfl, hother '\r' rfl]

theorem number_head (negative : Bool) (hd : Digits ds) (cs : List Char) :
    ∃ x rest, minus negative ++ (ds ++ cs) = x :: rest ∧ isGap x = false ∧ x ≠ ']' ∧
      x ≠ '\ufeff' := by
  obtain ⟨x, xs, rfl⟩ := List.exists_cons_of_ne_nil hd.1
  have hx := hd.2 x List.mem_cons_self
  cases negative with
  | true => exact ⟨'-', _, rfl, rfl, by decide⟩
  | false =>
    exact ⟨x, _, rfl, not_gap_of_decimal hx, ne_of_isDecimal hx rfl, ne_of_isDecimal hx rfl⟩

/-- A value does not begin with a blank, nor with the end of a list or a byte order mark. -/
theorem Spells.value_head (h : Spells d k cs (.value v)) :
    ∃ x rest, cs = x :: rest ∧ isGap x = false ∧ x ≠ ']' ∧ x ≠ '\ufeff' := by
  cases h with
  | word h =>
    simp only [words, List.mem_cons, Prod.mk.injEq, List.not_mem_nil, or_false] at h
    rcases h with ⟨rfl, -⟩ | ⟨rfl, -⟩ | ⟨rfl, -⟩ | ⟨rfl, -⟩ | ⟨rfl, -⟩ | ⟨rfl, -⟩ <;>
      exact ⟨_, _, rfl, rfl, by decide⟩
  | @whole ds negative hd => simpa using number_head negative hd.digits []
  | decimal negative hd => simpa using number_head negative hd.digits _
  | scientific negative hd => simpa using number_head negative hd.digits _
  | text => exact ⟨_, _, rfl, rfl, by decide⟩
  | noItems => exact ⟨_, _, rfl, rfl, by decide⟩
  | list => exact ⟨_, _, rfl, rfl, by decide⟩
  | noEntries => exact ⟨_, _, rfl, rfl, by decide⟩
  | dict => exact ⟨_, _, rfl, rfl, by decide⟩

theorem Spells.value_stops (h : Spells d k cs (.value v)) (rest : List Char) :
    Stops isGap (cs ++ rest) := by
  obtain ⟨x, more, rfl, hx, -⟩ := h.value_head
  exact not_gap_stops hx _

theorem Spells.items_head {vs : List Value} (h : Spells d k cs (.items vs)) (place : Nat)
    (rest : List Char) :
    (Cursor.skipBlanks ⟨place, cs ++ rest⟩).rest.head? ≠ some ']' := by
  have hvalue {d k : Nat} {b cs : List Char} {v : Value} (hb : Gap b)
      (h : Spells d k cs (.value v)) (rest : List Char) :
      (Cursor.skipBlanks ⟨place, b ++ (cs ++ rest)⟩).rest.head? ≠ some ']' := by
    rw [skipBlanks_gap hb (h.value_stops rest)]
    obtain ⟨x, more, rfl, -, hx, -⟩ := h.value_head
    simpa using hx
  cases h with
  | lastItem hb _ h => simpa using hvalue hb h _
  | item hb _ h => simpa using hvalue hb h _

theorem Spells.entries_head {es : List (String × Value)} (h : Spells d k cs (.entries es))
    (place : Nat) (rest : List Char) :
    (Cursor.skipBlanks ⟨place, cs ++ rest⟩).rest.head? = some doubleQuote := by
  have hquote {b : List Char} (hb : Gap b) (rest : List Char) :
      (Cursor.skipBlanks ⟨place, b ++ doubleQuote :: rest⟩).rest.head? = some doubleQuote := by
    rw [skipBlanks_gap hb (not_gap_stops rfl rest)]
    rfl
  cases h with
  | lastEntry hb => simpa using hquote hb _
  | entry hb => simpa using hquote hb _

end Provision.Json
