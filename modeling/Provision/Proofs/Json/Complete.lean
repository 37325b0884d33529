import Provision.Proofs.Json.Lexemes

/-!
# Texts are understood

The reader understands every text that spells a value, as long as its brackets and its
whole numbers keep to the limits. Beyond them it is the limits that reading fails at
(`read_printed`).
-/

namespace Provision.Json

open Text (doubleQuote)

variable {α β : Type} {cs ds fs ys tail : List Char} {place fuel levels d k : Nat} {v : Value}

-- ---------------------------------------------------------------------------
-- Limits
-- ---------------------------------------------------------------------------

def ReadFault.IsLimit : ReadFault → Prop
  | .malformed .. => False
  | .oversized _ => True
  | .tooDeep _ => True

/-- Reading comes to something and goes on with the rest, if the limits admit it. Otherwise they are
what it fails at. -/
structure Reads (within : Prop) (r : Read (α × Cursor)) (a : α) (tail : List Char) : Prop where
  ok : within → ∃ place, r = .ok (a, ⟨place, tail⟩)
  beyond : ¬within → ∃ e : ReadFault, e.IsLimit ∧ r = .error e

namespace Reads

variable {p q : Prop} {r : Read (α × Cursor)} {a : α} {b : β} {rest : List Char}

theorem of_ok (hp : p) (h : ∃ place, r = .ok (a, ⟨place, tail⟩)) : Reads p r a tail :=
  ⟨fun _ => h, fun hn => absurd hp hn⟩

theorem congr (h : Reads p r a tail) (hpq : p ↔ q) : Reads q r a tail :=
  ⟨fun hq => h.ok (hpq.2 hq), fun hq => h.beyond (mt hpq.1 hq)⟩

theorem bind {f : α × Cursor → Read (β × Cursor)} (h : Reads p r a rest)
    (hf : ∀ place, Reads q (f (a, ⟨place, rest⟩)) b tail) : Reads (p ∧ q) (r >>= f) b tail := by
  constructor
  · rintro ⟨hp, hq⟩
    obtain ⟨place, rfl⟩ := h.ok hp
    exact (hf place).ok hq
  · intro hn
    by_cases hp : p
    · obtain ⟨place, rfl⟩ := h.ok hp
      exact (hf place).beyond fun hq => hn ⟨hp, hq⟩
    · obtain ⟨e, he, rfl⟩ := h.beyond hp
      exact ⟨e, he, rfl⟩

theorem map (h : Reads p r a tail) (f : α → β) :
    Reads p (r >>= fun x => pure (f x.1, x.2)) (f a) tail :=
  (h.bind (f := fun x => pure (f x.1, x.2)) fun place => of_ok trivial ⟨place, rfl⟩).congr
    (and_iff_left trivial)

end Reads

def Within (levels d k : Nat) : Prop := d ≤ levels ∧ k ≤ Text.wholeLimit

/-- A part of a text is understood where it stands. -/
def Understood (d k : Nat) (cs : List Char) : Form → Prop
  | .value v => ∀ fuel levels place tail, 2 * cs.length ≤ fuel → Follows tail →
      Reads (Within levels d k) (readValue fuel levels ⟨place, cs ++ tail⟩) v tail
  | .items vs => ∀ fuel levels place tail acc, 2 * cs.length < fuel →
      Reads (Within levels d k)
        (readItems fuel levels (Cursor.skipBlanks ⟨place, cs ++ ']' :: tail⟩) acc)
        (vs.reverse ++ acc) tail
  | .entries es => ∀ fuel levels place tail acc, 2 * cs.length < fuel →
      Reads (Within levels d k)
        (readEntries fuel levels (Cursor.skipBlanks ⟨place, cs ++ '\x7d' :: tail⟩) acc)
        (es.reverse ++ acc) tail

-- ---------------------------------------------------------------------------
-- Values
-- ---------------------------------------------------------------------------

theorem steps_left {n : Nat} (h : 2 * n ≤ fuel) (hn : n ≠ 0) : ∃ m, fuel = m + 1 :=
  Nat.exists_eq_succ_of_ne_zero (by omega)

theorem words_head {w : List Char} (h : (w, v) ∈ words) :
    ∃ x rest, w = x :: rest ∧ x ≠ doubleQuote ∧ x ≠ '\x7b' ∧ x ≠ '[' := by
  simp only [words, List.mem_cons, Prod.mk.injEq, List.not_mem_nil, or_false] at h
  rcases h with ⟨rfl, -⟩ | ⟨rfl, -⟩ | ⟨rfl, -⟩ | ⟨rfl, -⟩ | ⟨rfl, -⟩ | ⟨rfl, -⟩ <;>
    exact ⟨_, _, rfl, by decide⟩

/-- No word goes on as another, so the one that stands there is found. -/
theorem words_find {w : List Char} (h : (w, v) ∈ words) (tail : List Char) :
    words.find? (fun u => u.1.isPrefixOf (w ++ tail)) = some (w, v) := by
  simp only [words, List.mem_cons, Prod.mk.injEq, List.not_mem_nil, or_false] at h
  rcases h with ⟨rfl, rfl⟩ | ⟨rfl, rfl⟩ | ⟨rfl, rfl⟩ | ⟨rfl, rfl⟩ | ⟨rfl, rfl⟩ | ⟨rfl, rfl⟩ <;> rfl

theorem understood_word {w : List Char} (h : (w, v) ∈ words) : Understood 0 0 w (.value v) := by
  intro fuel levels place tail hfuel _
  have hfind := words_find h tail
  obtain ⟨x, rest, rfl, hq, ho, ha⟩ := words_head h
  obtain ⟨fuel, rfl⟩ := steps_left hfuel (by simp)
  refine .of_ok ⟨Nat.zero_le _, Nat.zero_le _⟩ ⟨place + (x :: rest).length, ?_⟩
  simp only [List.cons_append] at hfind ⊢
  simp only [readValue, hq, ho, ha, if_false, hfind, Cursor.advance]
  rw [← List.cons_append, List.drop_left]

theorem readValue_number (negative : Bool) (hd : Digits ds) (place : Nat) (cs : List Char) :
    readValue (fuel + 1) levels ⟨place, minus negative ++ (ds ++ cs)⟩ =
      readNumber ⟨place, minus negative ++ (ds ++ cs)⟩ := by
  obtain ⟨x, xs, rfl⟩ := List.exists_cons_of_ne_nil hd.1
  have hx := hd.2 x List.mem_cons_self
  cases negative with
  | false => exact readValue_digit hx _ _
  | true =>
    have hI : ('I' == x) = false := beq_false_of_ne (ne_of_isDecimal hx rfl).symm
    have hwords : words.find? (fun w => w.1.isPrefixOf ('-' :: x :: (xs ++ cs))) = none := by
      simp [words, List.isPrefixOf, hI]
    change readValue (fuel + 1) levels ⟨place, '-' :: x :: (xs ++ cs)⟩ =
      readNumber ⟨place, '-' :: x :: (xs ++ cs)⟩
    simp [readValue, hwords, doubleQuote]

theorem understood_whole (negative : Bool) (hd : Whole ds) :
    Understood 0 ds.length (minus negative ++ ds)
      (.value (.int (negated negative (Decimal.digitsValue ds)))) := by
  intro fuel levels place tail hfuel ht
  obtain ⟨hdecimal, hpoint, hexponent⟩ := ht.stops
  obtain ⟨fuel, rfl⟩ := steps_left hfuel (by simp [hd.digits.1])
  obtain ⟨place', hread⟩ := readNumber_spelled negative hd (.inl rfl) hdecimal hpoint place
  rw [List.append_assoc, readValue_number negative hd.digits]
  simp only [pointed, List.isEmpty_nil, if_true, List.nil_append, hexponent] at hread
  rw [hread]
  constructor
  · rintro ⟨-, hk⟩
    exact ⟨place', by rw [if_neg (Nat.not_lt.2 hk)]⟩
  · intro hn
    have hk : Text.wholeLimit < ds.length := by
      refine Nat.lt_of_not_le fun hk => hn ⟨Nat.zero_le _, hk⟩
    exact ⟨.oversized ds.length, trivial, if_pos hk⟩

theorem understood_decimal (negative : Bool) (hd : Whole ds) (hf : Digits fs) :
    Understood 0 0 (minus negative ++ ds ++ pointed fs)
      (.value (.float (Decimal.toFloat negative (Decimal.digitsValue (ds ++ fs))
        (-(fs.length : Int))))) := by
  intro fuel levels place tail hfuel ht
  obtain ⟨hdecimal, hpoint, hexponent⟩ := ht.stops
  obtain ⟨fuel, rfl⟩ := steps_left hfuel (by simp [hd.digits.1])
  obtain ⟨place', hread⟩ := readNumber_spelled negative hd (.inr hf) hdecimal hpoint place
  have hne : fs.isEmpty = false := by simpa using hf.1
  simp only [hexponent, hne, Bool.false_eq_true, if_false] at hread
  rw [List.append_assoc, List.append_assoc, readValue_number negative hd.digits]
  exact .of_ok ⟨Nat.zero_le _, Nat.zero_le _⟩ ⟨place', hread⟩

theorem understood_scientific {ex : List Char} {e : Int} (negative : Bool) (hd : Whole ds)
    (hf : fs = [] ∨ Digits fs) (he : Exponent ex e) :
    Understood 0 0 (minus negative ++ ds ++ pointed fs ++ ex)
      (.value (.float (Decimal.toFloat negative (Decimal.digitsValue (ds ++ fs))
        (e - fs.length)))) := by
  intro fuel levels place tail hfuel ht
  obtain ⟨hdecimal, hpoint⟩ := exponent_stops he tail
  obtain ⟨fuel, rfl⟩ := steps_left hfuel (by simp [hd.digits.1])
  obtain ⟨place', hread⟩ := readNumber_spelled negative hd hf hdecimal hpoint place
  simp only [he.read ht.stops.1, List.drop_left] at hread
  rw [List.append_assoc, List.append_assoc, List.append_assoc,
    readValue_number negative hd.digits]
  exact .of_ok ⟨Nat.zero_le _, Nat.zero_le _⟩ ⟨_, hread⟩

theorem understood_text (h : Letters cs ys) :
    Understood 0 0 (doubleQuote :: (cs ++ [doubleQuote])) (.value (.str (String.ofList ys))) := by
  intro fuel levels place tail hfuel _
  obtain ⟨fuel, rfl⟩ := steps_left hfuel (by simp)
  obtain ⟨place', hread⟩ := readString_spelled h place tail
  refine .of_ok ⟨Nat.zero_le _, Nat.zero_le _⟩ ⟨place', ?_⟩
  rw [List.cons_append, List.append_assoc, List.singleton_append]
  simp only [readValue, if_true, hread]
  rfl

theorem readValue_array (fuel levels place : Nat) (cs : List Char) :
    readValue (fuel + 1) levels ⟨place, '[' :: cs⟩ =
      if levels = 0 then .error (.tooDeep .array)
      else if (Cursor.skipBlanks ⟨place + 1, cs⟩).rest.head? = some ']' then
        .ok (.list [], (Cursor.skipBlanks ⟨place + 1, cs⟩).advance 1)
      else readItems fuel (levels - 1) (Cursor.skipBlanks ⟨place + 1, cs⟩) [] >>=
        fun x => pure (Value.list x.1.reverse, x.2) := by
  have hq : ('[' : Char) ≠ doubleQuote ∧ ('[' : Char) ≠ '\x7b' := by decide
  simp only [readValue, if_neg hq.1, if_neg hq.2, if_true]
  rfl

theorem readValue_object (fuel levels place : Nat) (cs : List Char) :
    readValue (fuel + 1) levels ⟨place, '\x7b' :: cs⟩ =
      if levels = 0 then .error (.tooDeep .object)
      else if (Cursor.skipBlanks ⟨place + 1, cs⟩).rest.head? = some '\x7d' then
        .ok (.dict [], (Cursor.skipBlanks ⟨place + 1, cs⟩).advance 1)
      else readEntries fuel (levels - 1) (Cursor.skipBlanks ⟨place + 1, cs⟩) [] >>=
        fun x => pure (Value.dict (Entries.ofPairs x.1.reverse), x.2) := by
  have hq : ('\x7b' : Char) ≠ doubleQuote := by decide
  simp only [readValue, if_neg hq, if_true]
  rfl

theorem within_succ : Within (levels + 1) (d + 1) k ↔ Within levels d k := by
  simp [Within]

theorem not_within_zero : ¬Within 0 (d + 1) k := by
  simp [Within]

theorem understood_noItems {b : List Char} (hb : Gap b) :
    Understood 1 0 ('[' :: (b ++ [']'])) (.value (.list [])) := by
  intro fuel levels place tail hfuel _
  obtain ⟨fuel, rfl⟩ := steps_left hfuel (by simp)
  rw [List.cons_append, List.append_assoc, List.singleton_append, readValue_array,
    skipBlanks_gap hb (not_gap_stops rfl tail)]
  cases levels with
  | zero => exact ⟨fun h => absurd h not_within_zero, fun _ => ⟨.tooDeep .array, trivial, rfl⟩⟩
  | succ levels => exact .of_ok (within_succ.2 ⟨Nat.zero_le _, Nat.zero_le _⟩) ⟨_, rfl⟩

theorem understood_list {vs : List Value} (h : Spells d k cs (.items vs))
    (ih : Understood d k cs (.items vs)) :
    Understood (d + 1) k ('[' :: (cs ++ [']'])) (.value (.list vs)) := by
  intro fuel levels place tail hfuel _
  obtain ⟨fuel, rfl⟩ := steps_left hfuel (by simp)
  rw [List.cons_append, List.append_assoc, List.singleton_append, readValue_array]
  cases levels with
  | zero => exact ⟨fun h => absurd h not_within_zero, fun _ => ⟨.tooDeep .array, trivial, rfl⟩⟩
  | succ levels =>
    have hhead := h.items_head (place + 1) (']' :: tail)
    have hitems := ih fuel levels (place + 1) tail [] (by simp at hfuel; omega)
    rw [if_neg (Nat.succ_ne_zero levels), if_neg hhead, Nat.add_sub_cancel]
    rw [List.append_nil] at hitems
    have hlist := hitems.map fun vs => Value.list vs.reverse
    rw [List.reverse_reverse] at hlist
    exact hlist.congr within_succ.symm

theorem understood_noEntries {b : List Char} (hb : Gap b) :
    Understood 1 0 ('\x7b' :: (b ++ ['\x7d'])) (.value (.dict [])) := by
  intro fuel levels place tail hfuel _
  obtain ⟨fuel, rfl⟩ := steps_left hfuel (by simp)
  rw [List.cons_append, List.append_assoc, List.singleton_append, readValue_object,
    skipBlanks_gap hb (not_gap_stops rfl tail)]
  cases levels with
  | zero => exact ⟨fun h => absurd h not_within_zero, fun _ => ⟨.tooDeep .object, trivial, rfl⟩⟩
  | succ levels => exact .of_ok (within_succ.2 ⟨Nat.zero_le _, Nat.zero_le _⟩) ⟨_, rfl⟩

theorem understood_dict {es : List (String × Value)} (h : Spells d k cs (.entries es))
    (ih : Understood d k cs (.entries es)) :
    Understood (d + 1) k ('\x7b' :: (cs ++ ['\x7d'])) (.value (.dict (Entries.ofPairs es))) := by
  intro fuel levels place tail hfuel _
  obtain ⟨fuel, rfl⟩ := steps_left hfuel (by simp)
  rw [List.cons_append, List.append_assoc, List.singleton_append, readValue_object]
  cases levels with
  | zero => exact ⟨fun h => absurd h not_within_zero, fun _ => ⟨.tooDeep .object, trivial, rfl⟩⟩
  | succ levels =>
    have hhead : (Cursor.skipBlanks ⟨place + 1, cs ++ '\x7d' :: tail⟩).rest.head? ≠
        some '\x7d' := by
      rw [h.entries_head]
      decide
    have hentries := ih fuel levels (place + 1) tail [] (by simp at hfuel; omega)
    rw [if_neg (Nat.succ_ne_zero levels), if_neg hhead, Nat.add_sub_cancel]
    rw [List.append_nil] at hentries
    have hdict := hentries.map fun es => Value.dict (Entries.ofPairs es.reverse)
    rw [List.reverse_reverse] at hdict
    exact hdict.congr within_succ.symm

-- ---------------------------------------------------------------------------
-- Rows
-- ---------------------------------------------------------------------------

theorem gap_follows {b : List Char} (hb : Gap b) (ht : Follows tail) : Follows (b ++ tail) := by
  cases b with
  | nil => exact ht
  | cons x b =>
    rintro y ⟨⟩
    exact .inl (hb x List.mem_cons_self)

theorem follows_end {x : Char} (hx : x = ',' ∨ x = ']' ∨ x = '\x7d') (cs : List Char) :
    Follows (x :: cs) := by
  rintro y ⟨⟩
  exact .inr hx

theorem within_max {d' k' : Nat} :
    Within levels (max d d') (max k k') ↔ Within levels d k ∧ Within levels d' k' := by
  simp only [Within, Nat.max_le, and_and_and_comm]

theorem understood_lastItem {b b' : List Char} (hb : Gap b) (hb' : Gap b')
    (h : Spells d k cs (.value v)) (ih : Understood d k cs (.value v)) :
    Understood d k (b ++ cs ++ b') (.items [v]) := by
  intro fuel levels place tail acc hfuel
  obtain ⟨fuel, rfl⟩ := Nat.exists_eq_succ_of_ne_zero (Nat.ne_zero_of_lt hfuel)
  have hend : Follows (b' ++ ']' :: tail) := gap_follows hb' (follows_end (by simp) tail)
  have hskip := skipBlanks_gap hb (h.value_stops (b' ++ ']' :: tail)) place
  have hvalue := ih fuel levels (place + b.length) _ (by simp at hfuel; omega) hend
  rw [List.append_assoc, List.append_assoc, hskip]
  simp only [readItems]
  refine (hvalue.bind fun place' => ?_).congr (and_iff_left trivial)
  dsimp only
  rw [skipBlanks_gap hb' (not_gap_stops rfl tail)]
  exact .of_ok trivial ⟨_, rfl⟩

theorem understood_item {d' k' : Nat} {b b' cs' : List Char} {vs : List Value} (hb : Gap b)
    (hb' : Gap b') (h : Spells d k cs (.value v)) (ih : Understood d k cs (.value v))
    (hr : Understood d' k' cs' (.items vs)) :
    Understood (max d d') (max k k') (b ++ cs ++ b' ++ ',' :: cs') (.items (v :: vs)) := by
  intro fuel levels place tail acc hfuel
  obtain ⟨fuel, rfl⟩ := Nat.exists_eq_succ_of_ne_zero (Nat.ne_zero_of_lt hfuel)
  have hend : Follows (b' ++ ',' :: (cs' ++ ']' :: tail)) :=
    gap_follows hb' (follows_end (by simp) _)
  have hskip := skipBlanks_gap hb (h.value_stops (b' ++ ',' :: (cs' ++ ']' :: tail))) place
  have hvalue := ih fuel levels (place + b.length) _ (by simp at hfuel; omega) hend
  have hlist : b ++ cs ++ b' ++ ',' :: cs' ++ ']' :: tail =
      b ++ (cs ++ (b' ++ ',' :: (cs' ++ ']' :: tail))) := by simp
  rw [hlist, hskip]
  simp only [readItems]
  refine (hvalue.bind fun place' => ?_).congr within_max.symm
  dsimp only
  rw [skipBlanks_gap hb' (not_gap_stops rfl _)]
  have hrest := hr fuel levels (place' + b'.length + 1) tail (v :: acc) (by simp at hfuel; omega)
  simpa [Cursor.advance] using hrest

section
variable {b b₁ b₂ b' key : List Char}

/-- How reading goes on behind the value under a key. -/
def behindEntry (fuel levels : Nat) (k : String) (acc : List (String × Value))
    (x : Value × Cursor) : Read (List (String × Value) × Cursor) :=
  let c := x.2.skipBlanks
  match c.rest with
  | '\x7d' :: _ => pure ((k, x.1) :: acc, c.advance 1)
  | ',' :: _ => readEntries fuel levels (c.advance 1).skipBlanks ((k, x.1) :: acc)
  | _ => fail .comma c.place

theorem readEntries_key (hb : Gap b) (hb₁ : Gap b₁) (hb₂ : Gap b₂) (hk : Letters key ys)
    {rest : List Char} (hrest : Stops isGap rest) (fuel levels place : Nat)
    (acc : List (String × Value)) :
    ∃ place', readEntries (fuel + 1) levels (Cursor.skipBlanks
        ⟨place, b ++ doubleQuote :: (key ++ doubleQuote :: (b₁ ++ ':' :: (b₂ ++ rest)))⟩) acc =
      readValue fuel levels ⟨place', rest⟩ >>=
        behindEntry fuel levels (String.ofList ys) acc := by
  rw [skipBlanks_gap hb (not_gap_stops rfl _)]
  obtain ⟨place', hread⟩ := readString_spelled hk (place + b.length) (b₁ ++ ':' :: (b₂ ++ rest))
  refine ⟨place' + b₁.length + 1 + b₂.length, ?_⟩
  have hcolon := skipBlanks_gap hb₁ (not_gap_stops (x := ':') rfl (b₂ ++ rest)) place'
  have hvalue := skipBlanks_gap hb₂ hrest (place' + b₁.length + 1)
  have hadvance : Cursor.advance ⟨place' + b₁.length, ':' :: (b₂ ++ rest)⟩ 1 =
      ⟨place' + b₁.length + 1, b₂ ++ rest⟩ := rfl
  simp only [readEntries, List.head?_cons, ne_eq, not_true_eq_false, if_false, hread, bind,
    Except.bind, hcolon, hadvance, hvalue]
  rfl

theorem understood_lastEntry (hb : Gap b) (hb₁ : Gap b₁) (hb₂ : Gap b₂) (hb' : Gap b')
    (hk : Letters key ys) (h : Spells d k cs (.value v)) (ih : Understood d k cs (.value v)) :
    Understood d k
      (b ++ doubleQuote :: (key ++ doubleQuote :: (b₁ ++ ':' :: (b₂ ++ cs ++ b'))))
      (.entries [(String.ofList ys, v)]) := by
  intro fuel levels place tail acc hfuel
  obtain ⟨fuel, rfl⟩ := Nat.exists_eq_succ_of_ne_zero (Nat.ne_zero_of_lt hfuel)
  have hend : Follows (b' ++ '\x7d' :: tail) := gap_follows hb' (follows_end (by simp) tail)
  obtain ⟨place', hkey⟩ := readEntries_key hb hb₁ hb₂ hk
    (h.value_stops (b' ++ '\x7d' :: tail)) fuel levels place acc
  have hvalue := ih fuel levels place' _ (by simp at hfuel; omega) hend
  have hlist : b ++ doubleQuote :: (key ++ doubleQuote :: (b₁ ++ ':' :: (b₂ ++ cs ++ b'))) ++
      '\x7d' :: tail = b ++ doubleQuote :: (key ++ doubleQuote :: (b₁ ++ ':' ::
        (b₂ ++ (cs ++ (b' ++ '\x7d' :: tail))))) := by simp
  rw [hlist, Nat.succ_eq_add_one, hkey]
  refine (hvalue.bind fun place'' => ?_).congr (and_iff_left trivial)
  rw [behindEntry, skipBlanks_gap hb' (not_gap_stops rfl tail)]
  exact .of_ok trivial ⟨_, rfl⟩

theorem understood_entry {d' k' : Nat} {cs' : List Char} {es : List (String × Value)} (hb : Gap b)
    (hb₁ : Gap b₁) (hb₂ : Gap b₂) (hb' : Gap b') (hk : Letters key ys)
    (h : Spells d k cs (.value v)) (ih : Understood d k cs (.value v))
    (hr : Understood d' k' cs' (.entries es)) :
    Understood (max d d') (max k k')
      (b ++ doubleQuote :: (key ++ doubleQuote :: (b₁ ++ ':' :: (b₂ ++ cs ++ b' ++ ',' :: cs'))))
      (.entries ((String.ofList ys, v) :: es)) := by
  intro fuel levels place tail acc hfuel
  obtain ⟨fuel, rfl⟩ := Nat.exists_eq_succ_of_ne_zero (Nat.ne_zero_of_lt hfuel)
  have hend : Follows (b' ++ ',' :: (cs' ++ '\x7d' :: tail)) :=
    gap_follows hb' (follows_end (by simp) _)
  obtain ⟨place', hkey⟩ := readEntries_key hb hb₁ hb₂ hk
    (h.value_stops (b' ++ ',' :: (cs' ++ '\x7d' :: tail))) fuel levels place acc
  have hvalue := ih fuel levels place' _ (by simp at hfuel; omega) hend
  have hlist : b ++ doubleQuote :: (key ++ doubleQuote :: (b₁ ++ ':' ::
      (b₂ ++ cs ++ b' ++ ',' :: cs'))) ++ '\x7d' :: tail = b ++ doubleQuote ::
        (key ++ doubleQuote :: (b₁ ++ ':' :: (b₂ ++ (cs ++ (b' ++ ',' ::
          (cs' ++ '\x7d' :: tail)))))) := by simp
  rw [hlist, Nat.succ_eq_add_one, hkey]
  refine (hvalue.bind fun place'' => ?_).congr within_max.symm
  rw [behindEntry, skipBlanks_gap hb' (not_gap_stops rfl _)]
  have hrest := hr fuel levels (place'' + b'.length + 1) tail ((String.ofList ys, v) :: acc)
    (by simp at hfuel; omega)
  simpa [Cursor.advance] using hrest

end

-- ---------------------------------------------------------------------------
-- Texts
-- ---------------------------------------------------------------------------

/-- Within the limits the reader understands what a text says. -/
theorem Spells.understood {form : Form} (h : Spells d k cs form) : Understood d k cs form := by
  induction h with
  | word h => exact understood_word h
  | whole negative hd => exact understood_whole negative hd
  | decimal negative hd hf => exact understood_decimal negative hd hf
  | scientific negative hd hf he => exact understood_scientific negative hd hf he
  | text h => exact understood_text h
  | noItems hb => exact understood_noItems hb
  | list h ih => exact understood_list h ih
  | noEntries hb => exact understood_noEntries hb
  | dict h ih => exact understood_dict h ih
  | lastItem hb hb' h ih => exact understood_lastItem hb hb' h ih
  | item hb hb' h _ ih hr => exact understood_item hb hb' h ih hr
  | lastEntry hb hb₁ hb₂ hb' hk h ih => exact understood_lastEntry hb hb₁ hb₂ hb' hk h ih
  | entry hb hb₁ hb₂ hb' hk h _ ih hr => exact understood_entry hb hb₁ hb₂ hb' hk h ih hr

/-- The reader understands a text exactly within its limits. -/
theorem read_printed {text : String} (h : Prints d k text v) :
    (Within nestingLimit d k → read text = .ok v) ∧
      (¬Within nestingLimit d k → ∃ e : ReadFault, e.IsLimit ∧ read text = .error e) := by
  obtain ⟨b, cs, b', htext, hb, hb', h⟩ := h
  have hmark : (b ++ cs ++ b').head? ≠ some '\ufeff' := by
    cases b with
    | nil =>
      obtain ⟨x, rest, rfl, -, -, hx⟩ := h.value_head
      simpa using hx
    | cons x b =>
      have hx := hb x List.mem_cons_self
      rintro ⟨⟩
      cases hx
  have hend : Follows (b' ++ []) := gap_follows hb' nofun
  have hskip := skipBlanks_gap hb (h.value_stops (b' ++ [])) 0
  have hrest (place : Nat) : Cursor.skipBlanks ⟨place, b' ++ []⟩ = ⟨place + b'.length, []⟩ :=
    skipBlanks_gap hb' (by rintro _ ⟨⟩) place
  have hvalue := h.understood (2 * (b ++ cs ++ b').length + 2) nestingLimit (0 + b.length) _
    (by simp; omega) hend
  rw [List.append_nil, ← List.append_assoc] at hskip
  rw [List.append_nil] at hvalue hrest
  have hread : read text = readValue (2 * (b ++ cs ++ b').length + 2) nestingLimit
      ⟨0 + b.length, cs ++ b'⟩ >>= fun x =>
        if x.2.skipBlanks.rest.isEmpty then pure x.1 else fail .extra x.2.skipBlanks.place := by
    rw [read, readChars, htext, if_neg hmark, hskip]
  constructor
  · intro hw
    obtain ⟨place, hok⟩ := hvalue.ok hw
    rw [hread, hok]
    simp only [bind, Except.bind, hrest]
    rfl
  · intro hw
    obtain ⟨e, he, herror⟩ := hvalue.beyond hw
    exact ⟨e, he, by rw [hread, herror]; rfl⟩

end Provision.Json
