import Provision.Proofs.Json.Spelling

/-!
# Strings and numbers are read

A string is read up to its last quote, and its escapes one by one, except that the halves
of a surrogate pair are read together (`readString_spelled`). A number is read as far as it
goes (`readNumber_spelled`).
-/

namespace Provision.Json

open Text (doubleQuote backslash)

variable {cs ds fs ys tail : List Char}

-- ---------------------------------------------------------------------------
-- Strings
-- ---------------------------------------------------------------------------

section
variable {hex low : List Char} {n m : Nat}

theorem FourHex.take (h : FourHex hex n) (cs : List Char) : (hex ++ cs).take 4 = hex := by
  rw [← h.length, List.take_left]

theorem FourHex.drop (h : FourHex hex n) (cs : List Char) : (hex ++ cs).drop 4 = cs := by
  rw [← h.length, List.drop_left]

theorem FourHex.code (h : FourHex hex n) (hcs : cs ≠ []) : escapeCode? (hex ++ cs) = some n := by
  have hlong : 4 < (hex ++ cs).length := by simpa [h.length] using List.length_pos_iff.2 hcs
  rw [escapeCode?, if_pos hlong, h.take, h.value]

theorem readHex?_bind_none (cs : List Char) :
    cs.foldl (fun acc c => acc.bind fun n => (Text.hexValue? c).map (n * 16 + ·)) none = none := by
  induction cs with
  | nil => rfl
  | cons c cs ih => exact ih

theorem hexValue?_of_readHex? {start : Nat} (h : cs.foldl
      (fun acc c => acc.bind fun n => (Text.hexValue? c).map (n * 16 + ·)) (some start) = some n) :
    ∀ c ∈ cs, Text.hexValue? c ≠ none := by
  induction cs generalizing start with
  | nil => exact List.forall_mem_nil _
  | cons c cs ih =>
    cases hc : Text.hexValue? c with
    | none => simp [hc, readHex?_bind_none] at h
    | some d =>
      simp only [List.foldl_cons, Option.bind_some, hc, Option.map_some] at h
      exact List.forall_mem_cons.2 ⟨by simp [hc], ih h⟩

theorem hexValue?_mark : Text.hexValue? Text.mark = none := by decide

theorem FourHex.hasFive (h : FourHex hex n) (hcs : cs ≠ []) : hasFive (hex ++ cs) = true := by
  have hmark : ∀ c ∈ hex, c ≠ Text.mark := by
    rintro _ hc rfl
    exact hexValue?_of_readHex? h.value _ hc hexValue?_mark
  obtain ⟨a, b, c, d, rfl⟩ : ∃ a b c d, hex = [a, b, c, d] := by
    have hlength := h.length
    match hex, hlength with
    | [a, b, c, d], _ => exact ⟨a, b, c, d, rfl⟩
  simp only [List.forall_mem_cons] at hmark
  obtain ⟨ha, hb, hc, hd, -⟩ := hmark
  have hpos : 0 < (Text.pieces (cs.take 6)).length := by
    obtain ⟨x, rest, rfl⟩ := List.exists_cons_of_ne_nil hcs
    cases rest with
    | nil => simp [Text.pieces]
    | cons y rest =>
      simp only [List.take_succ_cons, Text.pieces]
      split <;> simp
  simp only [Json.hasFive, List.cons_append, List.nil_append, List.take_succ_cons,
    Text.pieces_cons_of_ne _ ha, Text.pieces_cons_of_ne _ hb, Text.pieces_cons_of_ne _ hc,
    Text.pieces_cons_of_ne _ hd, List.length_cons]
  exact decide_eq_true (by omega)

theorem Letters.escape {more : List Char} (h : Letters cs ys)
    (hcs : cs ++ doubleQuote :: tail = backslash :: 'u' :: more) :
    ∃ hex n rest, FourHex hex n ∧ cs = backslash :: 'u' :: (hex ++ rest) := by
  cases h with
  | nil => cases hcs
  | plain _ hb => exact absurd (List.cons.inj hcs).1 hb
  | letter hx =>
    obtain ⟨-, hcs⟩ := List.cons.inj hcs
    obtain ⟨rfl, -⟩ := List.cons.inj hcs
    cases hx
  | point hn => exact ⟨_, _, _, hn, rfl⟩
  | pair hn => exact ⟨_, _, _, hn, rfl⟩

theorem readEscape_letter {x y : Char} (hx : simpleEscape? x = some y) (place : Nat)
    (cs : List Char) : readEscape place (x :: cs) = .ok ([y], 1) := by
  have hu : x ≠ 'u' := by
    rintro rfl
    cases hx
  unfold readEscape
  split
  · next h => cases h
  · next h =>
    obtain ⟨rfl, -⟩ := List.cons.inj h
    exact absurd rfl hu
  · next h =>
    obtain ⟨rfl, -⟩ := List.cons.inj h
    rw [hx]

theorem readEscape_point (h : Letters cs ys) (hn : FourHex hex n)
    (halone : Text.isHighSurrogate n = true → ∀ low m rest, FourHex low m →
      Text.isLowSurrogate m = true → cs ≠ backslash :: 'u' :: (low ++ rest)) (place : Nat) :
    readEscape place ('u' :: (hex ++ (cs ++ doubleQuote :: tail))) = .ok (Text.ofPoint n, 5) := by
  have hcode : escapeCode? (hex ++ (cs ++ doubleQuote :: tail)) = some n := hn.code (by simp)
  unfold readEscape
  simp only [hcode, hn.drop]
  cases hhigh : Text.isHighSurrogate n with
  | false => rfl
  | true =>
    simp only [Bool.not_true, Bool.false_eq_true, if_false]
    split
    · next b more hmore =>
      split
      · rfl
      · next hb =>
        obtain ⟨rfl, hfive⟩ : b = backslash ∧ Json.hasFive more = true := by simpa using hb
        obtain ⟨low, m, rest, hm, rfl⟩ := h.escape hmore
        have hlow : Text.isLowSurrogate m = false :=
          Bool.eq_false_iff.2 fun hlow => halone hhigh low m rest hm hlow rfl
        rw [List.cons_append, List.cons_append, List.append_assoc] at hmore
        obtain ⟨-, hmore⟩ := List.cons.inj hmore
        obtain ⟨-, rfl⟩ := List.cons.inj hmore
        rw [hm.take, hm.value]
        simp [hlow]
    · rfl

theorem readEscape_pair (hn : FourHex hex n) (hhigh : Text.isHighSurrogate n = true)
    (hm : FourHex low m) (hlow : Text.isLowSurrogate m = true) (hcs : cs ≠ []) (place : Nat) :
    readEscape place ('u' :: (hex ++ backslash :: 'u' :: (low ++ cs))) =
      .ok (Text.ofPoint (Text.joinSurrogates n m), 11) := by
  have hcode : escapeCode? (hex ++ backslash :: 'u' :: (low ++ cs)) = some n := hn.code (by simp)
  unfold readEscape
  simp only [hcode, hn.drop, hhigh, Bool.not_true, Bool.false_eq_true, if_false, bne_self_eq_false,
    Bool.false_or, hm.hasFive hcs, hm.take, hm.value, hlow, if_true]

/-- A string is read up to its last quote, and what it stands for is what was read. -/
theorem readString_letters (h : Letters cs ys) :
    ∀ {start fuel place : Nat} (acc : List Char), cs.length < fuel → ∃ place',
      readString start fuel ⟨place, cs ++ doubleQuote :: tail⟩ acc =
        .ok (String.ofList (acc.reverse ++ ys), ⟨place', tail⟩) := by
  induction h with
  | nil =>
    intro start fuel place acc hf
    obtain ⟨fuel, rfl⟩ := Nat.exists_eq_succ_of_ne_zero (Nat.ne_zero_of_lt hf)
    exact ⟨place + 1, by simp [readString, Cursor.advance]⟩
  | @plain x cs ys hq hb hx _ ih =>
    intro start fuel place acc hf
    obtain ⟨fuel, rfl⟩ := Nat.exists_eq_succ_of_ne_zero (Nat.ne_zero_of_lt hf)
    obtain ⟨place', hread⟩ := @ih start fuel (place + 1) (x :: acc) (by simpa using hf)
    refine ⟨place', ?_⟩
    have hx' : ¬x.toNat < 0x20 := Nat.not_lt.2 hx
    simpa [readString, hq, hb, hx', Cursor.advance] using hread
  | @letter x y cs ys hx _ ih =>
    intro start fuel place acc hf
    obtain ⟨fuel, rfl⟩ := Nat.exists_eq_succ_of_ne_zero (Nat.ne_zero_of_lt hf)
    obtain ⟨place', hread⟩ := @ih start fuel (place + 2) (y :: acc) (by simp at hf; omega)
    refine ⟨place', ?_⟩
    have hquote : backslash ≠ doubleQuote := by decide
    simpa [readString, hquote, readEscape_letter hx, Cursor.advance, bind, Except.bind] using hread
  | @point hex cs ys n hn halone h ih =>
    intro start fuel place acc hf
    obtain ⟨fuel, rfl⟩ := Nat.exists_eq_succ_of_ne_zero (Nat.ne_zero_of_lt hf)
    have hlength := hn.length
    obtain ⟨place', hread⟩ := @ih start fuel (place + 6) ((Text.ofPoint n).reverse ++ acc)
      (by simp at hf; omega)
    refine ⟨place', ?_⟩
    have hquote : backslash ≠ doubleQuote := by decide
    have hdrop : (backslash :: 'u' :: (hex ++ (cs ++ doubleQuote :: tail))).drop 6 =
        cs ++ doubleQuote :: tail := hn.drop _
    rw [List.cons_append, List.cons_append, List.append_assoc]
    simpa [readString, hquote, readEscape_point h hn halone, Cursor.advance, bind, Except.bind,
      hdrop] using hread
  | @pair high low cs ys n m hn hhigh hm hlow h ih =>
    intro start fuel place acc hf
    obtain ⟨fuel, rfl⟩ := Nat.exists_eq_succ_of_ne_zero (Nat.ne_zero_of_lt hf)
    have hlength := hn.length
    have hlength' := hm.length
    obtain ⟨place', hread⟩ := @ih start fuel (place + 12)
      ((Text.ofPoint (Text.joinSurrogates n m)).reverse ++ acc) (by simp at hf; omega)
    refine ⟨place', ?_⟩
    have hquote : backslash ≠ doubleQuote := by decide
    have hdrop : (backslash :: 'u' :: (high ++ backslash :: 'u' ::
        (low ++ (cs ++ doubleQuote :: tail)))).drop 12 = cs ++ doubleQuote :: tail := by
      rw [show 12 = 6 + 6 from rfl, ← List.drop_drop]
      exact (congrArg (List.drop 6) (hn.drop _)).trans (hm.drop _)
    simp only [List.cons_append, List.append_assoc]
    simpa [readString, hquote, readEscape_pair hn hhigh hm hlow, Cursor.advance, bind, Except.bind,
      hdrop] using hread

theorem readString_spelled (h : Letters cs ys) (place : Nat) (tail : List Char) : ∃ place',
    readString place ((doubleQuote :: (cs ++ doubleQuote :: tail)).length + 1)
        (Cursor.advance ⟨place, doubleQuote :: (cs ++ doubleQuote :: tail)⟩ 1) [] =
      .ok (String.ofList ys, ⟨place', tail⟩) :=
  readString_letters h [] (by simp; omega)

end

-- ---------------------------------------------------------------------------
-- Numbers
-- ---------------------------------------------------------------------------

/-- What may follow a value: nothing, a blank, or what ends a part. -/
def Follows (cs : List Char) : Prop :=
  ∀ x, cs.head? = some x → isGap x = true ∨ x = ',' ∨ x = ']' ∨ x = '\x7d'

theorem Exponent.read {ex : List Char} {e : Int} (h : Exponent ex e) (ht : Stops isDecimal tail) :
    readExponent? (ex ++ tail) = some (e, ex.length) := by
  have htake {ds : List Char} (hd : Digits ds) : (ds ++ tail).takeWhile isDecimal = ds :=
    takeWhile_of_stops hd.2 ht
  have hne {ds : List Char} (hd : Digits ds) : ds.isEmpty = false := by simpa using hd.1
  cases h with
  | @bare e ds he hd =>
    obtain ⟨x, xs, rfl⟩ := List.exists_cons_of_ne_nil hd.1
    have hdigit := hd.2 x List.mem_cons_self
    have hm : x ≠ '-' := ne_of_isDecimal hdigit rfl
    have hp : x ≠ '+' := ne_of_isDecimal hdigit rfl
    have htake' := htake hd
    rw [List.cons_append] at htake'
    simp [readExponent?, he, hm, hp, htake']
    omega
  | plus he hd =>
    simp only [List.cons_append, readExponent?, Bool.or_eq_true, decide_eq_true_eq, he, if_true,
      htake hd, hne hd, Bool.false_eq_true, if_false, Option.some.injEq, Prod.mk.injEq, true_and,
      List.length_cons]
    omega
  | minus he hd =>
    simp only [List.cons_append, readExponent?, Bool.or_eq_true, decide_eq_true_eq, he, if_true,
      htake hd, hne hd, Bool.false_eq_true, if_false, Option.some.injEq, Prod.mk.injEq, true_and,
      List.length_cons]
    omega

theorem readFraction_pointed (hf : fs = [] ∨ Digits fs) (ht : Stops isDecimal tail)
    (hp : tail.head? ≠ some '.') : readFraction (pointed fs ++ tail) = fs := by
  obtain rfl | hf := hf
  · unfold readFraction
    split
    · next rest h =>
      have h : tail = '.' :: rest := h
      exact absurd (by rw [h]; rfl) hp
    · rfl
  · have hne : fs.isEmpty = false := by simpa using hf.1
    simp [pointed, hne, readFraction, takeWhile_of_stops hf.2 ht]

def readUnsigned (negative : Bool) (sign : Nat) (c : Cursor) (rest : List Char) :
    Read (Value × Cursor) :=
  let whole := match rest with
    | '0' :: _ => ['0']
    | _ => rest.takeWhile isDecimal
  if whole.isEmpty then fail .value c.place
  else
    let rest := rest.drop whole.length
    let fraction := readFraction rest
    let point := if fraction.isEmpty then 0 else 1
    let rest := rest.drop (point + fraction.length)
    let used := sign + whole.length + point + fraction.length
    match readExponent? rest with
    | some (e, n) =>
      .ok (.float (Decimal.toFloat negative (Decimal.digitsValue (whole ++ fraction))
        (e - fraction.length)), c.advance (used + n))
    | none =>
      if fraction.isEmpty then
        if Text.wholeLimit < whole.length then .error (.oversized whole.length)
        else .ok (.int (negated negative (Decimal.digitsValue whole)), c.advance used)
      else
        .ok (.float (Decimal.toFloat negative (Decimal.digitsValue (whole ++ fraction))
          (-(fraction.length : Int))), c.advance used)

theorem readNumber_signed (negative : Bool) (hd : Digits ds) (place : Nat) (cs : List Char) :
    readNumber ⟨place, minus negative ++ (ds ++ cs)⟩ =
      readUnsigned negative (minus negative).length ⟨place, minus negative ++ (ds ++ cs)⟩
        (ds ++ cs) := by
  cases negative with
  | true => rfl
  | false =>
    obtain ⟨x, xs, rfl⟩ := List.exists_cons_of_ne_nil hd.1
    have hx : x ≠ '-' := ne_of_isDecimal (hd.2 x List.mem_cons_self) rfl
    unfold readNumber
    split
    · next heq =>
      split at heq
      · next hminus => exact absurd (List.cons.inj hminus).1 hx
      · cases heq
        rfl

theorem Whole.take (h : Whole ds) (ht : ds ≠ ['0'] → Stops isDecimal tail) :
    (match ds ++ tail with
      | '0' :: _ => ['0']
      | _ => (ds ++ tail).takeWhile isDecimal) = ds := by
  by_cases h0 : ds = ['0']
  · subst h0
    rfl
  · have htake := takeWhile_of_stops h.digits.2 (ht h0)
    have hfirst := h.first.resolve_left h0
    split
    · next rest heq =>
      cases ds with
      | nil => exact absurd rfl h.digits.1
      | cons x xs =>
        obtain ⟨rfl, -⟩ := List.cons.inj heq
        exact absurd rfl hfirst
    · exact htake

theorem pointed_length (fs : List Char) :
    (if fs.isEmpty then 0 else 1) + fs.length = (pointed fs).length := by
  unfold pointed
  split
  · next h => simpa using h
  · simp [Nat.add_comm]

theorem advance_past (negative : Bool) (ds fs tail : List Char) (place n : Nat) :
    Cursor.advance ⟨place, minus negative ++ (ds ++ (pointed fs ++ tail))⟩
        ((minus negative).length + ds.length + (if fs.isEmpty then 0 else 1) + fs.length + n) =
      ⟨place + (minus negative ++ (ds ++ pointed fs)).length + n, tail.drop n⟩ := by
  have hlength : (minus negative).length + ds.length + (if fs.isEmpty then 0 else 1) +
      fs.length = (minus negative ++ (ds ++ pointed fs)).length := by
    simp only [List.length_append, ← pointed_length]
    omega
  have hlist : minus negative ++ (ds ++ (pointed fs ++ tail)) =
      (minus negative ++ (ds ++ pointed fs)) ++ tail := by simp
  rw [hlength, hlist, Cursor.advance, ← List.drop_drop, List.drop_left, Nat.add_assoc]

/-- A number is read as far as it goes. -/
theorem readNumber_spelled (negative : Bool) (hd : Whole ds) (hf : fs = [] ∨ Digits fs)
    (ht : Stops isDecimal tail) (hp : tail.head? ≠ some '.') (place : Nat) : ∃ place',
    readNumber ⟨place, minus negative ++ (ds ++ (pointed fs ++ tail))⟩ =
      match readExponent? tail with
      | some (e, n) => .ok (.float (Decimal.toFloat negative (Decimal.digitsValue (ds ++ fs))
          (e - fs.length)), ⟨place' + n, tail.drop n⟩)
      | none =>
        if fs.isEmpty then
          if Text.wholeLimit < ds.length then .error (.oversized ds.length)
          else .ok (.int (negated negative (Decimal.digitsValue ds)), ⟨place', tail⟩)
        else .ok (.float (Decimal.toFloat negative (Decimal.digitsValue (ds ++ fs))
          (-(fs.length : Int))), ⟨place', tail⟩) := by
  have hstops : Stops isDecimal (pointed fs ++ tail) := by
    unfold pointed
    split
    · exact ht
    · rintro x ⟨⟩
      rfl
  have hempty : ds.isEmpty = false := by simpa using hd.digits.1
  refine ⟨place + (minus negative ++ (ds ++ pointed fs)).length, ?_⟩
  rw [readNumber_signed negative hd.digits]
  unfold readUnsigned
  have hwhole := hd.take fun _ => hstops
  generalize hw : (match ds ++ (pointed fs ++ tail) with
    | '0' :: _ => ['0']
    | _ => (ds ++ (pointed fs ++ tail)).takeWhile isDecimal) = whole at hwhole ⊢
  subst hwhole
  have hend := advance_past negative whole fs tail place 0
  rw [Nat.add_zero, Nat.add_zero, List.drop_zero] at hend
  simp only [hempty, Bool.false_eq_true, if_false, List.drop_left, readFraction_pointed hf ht hp,
    pointed_length, advance_past, hend]

theorem exponent_stops {ex : List Char} {e : Int} (h : Exponent ex e) (cs : List Char) :
    Stops isDecimal (ex ++ cs) ∧ (ex ++ cs).head? ≠ some '.' := by
  have hletter {x : Char} (hx : x = 'e' ∨ x = 'E') : isDecimal x = false ∧ x ≠ '.' := by
    rcases hx with rfl | rfl <;> decide
  cases h with
  | bare he => exact ⟨by rintro x ⟨⟩; exact (hletter he).1, by simpa using (hletter he).2⟩
  | plus he => exact ⟨by rintro x ⟨⟩; exact (hletter he).1, by simpa using (hletter he).2⟩
  | minus he => exact ⟨by rintro x ⟨⟩; exact (hletter he).1, by simpa using (hletter he).2⟩

theorem Follows.stops (h : Follows tail) :
    Stops isDecimal tail ∧ tail.head? ≠ some '.' ∧ readExponent? tail = none := by
  cases tail with
  | nil => exact ⟨nofun, nofun, rfl⟩
  | cons x rest =>
    have hx : isDecimal x = false ∧ x ≠ '.' ∧ x ≠ 'e' ∧ x ≠ 'E' := by
      rcases h x rfl with hgap | rfl | rfl | rfl
      · simp only [isGap, Bool.or_eq_true, decide_eq_true_eq] at hgap
        rcases hgap with ((rfl | rfl) | rfl) | rfl <;> decide
      · decide
      · decide
      · decide
    obtain ⟨hd, hp, he, hE⟩ := hx
    exact ⟨by rintro y ⟨⟩; exact hd, by simpa using hp, by simp [readExponent?, he, hE]⟩

end Provision.Json
