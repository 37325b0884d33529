import Mathlib.Data.List.Basic
import Provision.Text.Whole

/-!
# Which digits make a number

A digit of any script counts as the common digit of its value, and a digit form that has no
value makes no number. So a text of digits reads as a number exactly when each has a value
and they are not too many (`readWhole_eq_ok_iff`).
-/

namespace Provision.Text

variable {c : Char} {cs : List Char} {d : Nat} {ds : List Nat}

/-! ## Digits and other characters -/

theorem decimalValue?_of_ascii (h : decimalValue? c = some d) (hc : c.toNat < 0x80) :
    c.toNat = 48 + d := by
  obtain ⟨z, hz, rfl⟩ := Option.map_eq_some_iff.1 h
  have hlow : ∀ z ∈ decimalZeros, z < 0x80 → z = 48 := by decide
  have hrange := List.find?_some hz
  simp only [Bool.and_eq_true, decide_eq_true_eq] at hrange
  have := hlow z (List.mem_of_find?_eq_some hz) (by omega)
  omega

def digitRuns : List (Nat × Nat) := decimalZeros.map (fun z => (z, z + 9)) ++ digitForms

theorem exists_digitRun (h : isDigit c = true) :
    ∃ r ∈ digitRuns, r.1 ≤ c.toNat ∧ c.toNat ≤ r.2 := by
  rw [isDigit, Bool.or_eq_true] at h
  rcases h with h | h
  · obtain ⟨d, hd⟩ := Option.isSome_iff_exists.1 h
    obtain ⟨z, hz, -⟩ := Option.map_eq_some_iff.1 hd
    have hrange := List.find?_some hz
    simp only [Bool.and_eq_true, decide_eq_true_eq] at hrange
    exact ⟨(z, z + 9), List.mem_append_left _ (List.mem_map_of_mem (List.mem_of_find?_eq_some hz)),
      by omega, by omega⟩
  · obtain ⟨r, hr, hc⟩ := List.any_eq_true.1 h
    simp only [Bool.and_eq_true, decide_eq_true_eq] at hc
    exact ⟨r, List.mem_append_right _ hr, hc⟩

theorem isBlank_of_isDigit (h : isDigit c = true) : isBlank c = false := by
  obtain ⟨r, hr, hc⟩ := exists_digitRun h
  -- The gaps between the blanks, and each run stands in one of them.
  have hgaps : ∀ r ∈ digitRuns, (32 < r.1 ∧ r.2 < 0x85) ∨ (0xa0 < r.1 ∧ r.2 < 0x1680) ∨
      (0x1680 < r.1 ∧ r.2 < 0x2000) ∨ (0x205f < r.1 ∧ r.2 < 0x3000) ∨ 0x3000 < r.1 := by decide
  have := hgaps r hr
  simp only [isBlank, Bool.or_eq_false_iff, Bool.and_eq_false_iff, decide_eq_false_iff_not]
  omega

theorem decimalValue?_of_isDigit (h : isDigit c = true) (hc : c.toNat < 0x80) :
    ∃ d, decimalValue? c = some d := by
  rw [isDigit, Bool.or_eq_true] at h
  rcases h with h | h
  · exact Option.isSome_iff_exists.1 h
  · obtain ⟨r, hr, hrange⟩ := List.any_eq_true.1 h
    have hhigh : ∀ r ∈ digitForms, 0x80 ≤ r.1 := by decide
    have := hhigh r hr
    simp only [Bool.and_eq_true, decide_eq_true_eq] at hrange
    omega

/-! ## Digits as they count in a number -/

theorem numeral_of_decimal (h : decimalValue? c = some d) : numeral c = Char.ofNat (48 + d) := by
  unfold numeral
  split
  · next hc => rw [← decimalValue?_of_ascii h hc, Char.ofNat_toNat]
  · rw [if_neg (by simp [isBlank_of_isDigit (isDigit_of_decimalValue? h)]), h]

theorem numeral_of_form (h : isDigit c = true) (hn : decimalValue? c = none) :
    numeral c = c ∧ 0x80 ≤ c.toNat := by
  have hc : ¬ c.toNat < 0x80 := fun hc => by
    obtain ⟨d, hd⟩ := decimalValue?_of_isDigit h hc
    simp [hn] at hd
  refine ⟨?_, Nat.not_lt.1 hc⟩
  rw [numeral, if_neg hc, if_neg (by simp [isBlank_of_isDigit h]), hn]

theorem digitValue?_common (h : d < 10) : digitValue? 10 (Char.ofNat (48 + d)) = some d := by
  decide +revert

theorem common_ne_underscore (h : d < 10) : Char.ofNat (48 + d) ≠ '_' := by
  decide +revert

theorem digitValue?_of_high (h : 0x80 ≤ c.toNat) : digitValue? 10 c = none := by
  have hle (top : Char) (ht : top.toNat < 0x80) : ¬ c ≤ top := fun hc =>
    absurd (Nat.lt_of_le_of_lt hc ht) (Nat.not_lt.2 h)
  simp [digitValue?, hexValue?, hle '9' (by decide), hle 'f' (by decide), hle 'F' (by decide)]

theorem numeral_of_isDigit (h : isDigit c = true) :
    isNumberBlank (numeral c) = false ∧ numeral c ≠ '-' ∧ numeral c ≠ '+' := by
  cases hd : decimalValue? c with
  | some d =>
    rw [numeral_of_decimal hd]
    have := decimalValue?_lt hd
    clear hd h
    decide +revert
  | none =>
    obtain ⟨heq, hhigh⟩ := numeral_of_form h hd
    rw [heq]
    have hne (low : Char) (hl : low.toNat < 0x80) : c ≠ low := fun hc =>
      absurd (hc ▸ hl) (Nat.not_lt.2 hhigh)
    have hle : ¬ c ≤ '\r' := fun hc =>
      absurd (Nat.lt_of_le_of_lt hc (by decide)) (Nat.not_lt.2 hhigh)
    exact ⟨by simp [isNumberBlank, hne ' ' (by decide), hle], hne '-' (by decide),
      hne '+' (by decide)⟩

/-! ## Reading them -/

theorem readDigits_decimal (gap : Bool) (h : decimalValue? c = some d) (rest : List Char) :
    readDigits 10 gap (numeral c :: rest) =
      (readDigits 10 false rest).map fun r => (d :: r.1, r.2) := by
  have hd := decimalValue?_lt h
  rw [numeral_of_decimal h, readDigits, if_neg (common_ne_underscore hd), digitValue?_common hd]

theorem readDigits_form (gap : Bool) (h : isDigit c = true) (hn : decimalValue? c = none)
    (rest : List Char) :
    readDigits 10 gap (numeral c :: rest) = if gap then none else some ([], numeral c :: rest) := by
  obtain ⟨heq, hhigh⟩ := numeral_of_form h hn
  have hne : c ≠ '_' := fun hc => absurd (hc ▸ hhigh) (by decide)
  rw [heq, readDigits, if_neg hne, digitValue?_of_high hhigh]

theorem map_decimalValue?_cons (h : decimalValue? c = some d) :
    (c :: cs).map decimalValue? = ds.map some ↔
      ∃ rest, ds = d :: rest ∧ cs.map decimalValue? = rest.map some := by
  cases ds with
  | nil => simp
  | cons first rest =>
    rw [List.map_cons, List.map_cons, List.cons_eq_cons, h, Option.some_inj]
    constructor
    · rintro ⟨rfl, hrest⟩
      exact ⟨rest, rfl, hrest⟩
    · rintro ⟨rest', heq, hrest⟩
      obtain ⟨rfl, rfl⟩ := List.cons_eq_cons.1 heq
      exact ⟨rfl, hrest⟩

theorem readDigits_digits (h : ∀ c ∈ cs, isDigit c = true) :
    ∃ ds rest, readDigits 10 false (cs.map numeral) = some (ds, rest) ∧
      ∀ values : List Nat, cs.map decimalValue? = values.map some ↔
        rest.all isNumberBlank = true ∧ values = ds := by
  induction cs with
  | nil => exact ⟨[], [], rfl, fun values => by cases values <;> simp⟩
  | cons c cs ih =>
    obtain ⟨hc, hcs⟩ := List.forall_mem_cons.1 h
    cases hd : decimalValue? c with
    | none =>
      refine ⟨[], numeral c :: cs.map numeral, readDigits_form false hc hd _, fun values => ?_⟩
      cases values <;> simp [hd, (numeral_of_isDigit hc).1]
    | some d =>
      obtain ⟨ds, rest, hread, hvalues⟩ := ih hcs
      refine ⟨d :: ds, rest, ?_, fun values => ?_⟩
      · rw [List.map_cons, readDigits_decimal false hd, hread]
        rfl
      · rw [map_decimalValue?_cons hd]
        simp [hvalues, and_comm]

theorem withoutBase_ten (cs : List Char) : withoutBase 10 cs = cs := by
  unfold withoutBase
  split
  · rw [if_neg (by simp [baseLetter?])]
  · rfl

theorem readWhole_digits (h : ∀ c ∈ cs, isDigit c = true) :
    readWhole 10 (String.ofList cs) =
      match readDigits 10 true (cs.map numeral) with
      | none => .error .malformed
      | some (ds, rest) =>
        if wholeLimit < ds.length then .error (.oversized ds.length)
        else if ds = [] ∨ !rest.all isNumberBlank then .error .malformed
        else .ok (positional 10 ds) := by
  cases cs with
  | nil => rfl
  | cons c cs =>
    obtain ⟨hblank, hminus, hplus⟩ := numeral_of_isDigit (List.forall_mem_cons.1 h).1
    have hsigned : signed (numeral c :: cs.map numeral) = (false, numeral c :: cs.map numeral) := by
      unfold signed
      split
      · next heq => exact absurd (List.cons_eq_cons.1 heq).1 hminus
      · next heq => exact absurd (List.cons_eq_cons.1 heq).1 hplus
      · rfl
    rw [readWhole, String.toList_ofList, List.map_cons,
      List.dropWhile_cons_of_neg (by simp [hblank]), hsigned]
    simp only [withoutBase_ten, true_and]
    rfl

theorem readWhole_eq_ok_iff (h : ∀ c ∈ cs, isDigit c = true) {n : Int} :
    readWhole 10 (String.ofList cs) = .ok n ↔
      ∃ ds, cs.map decimalValue? = ds.map some ∧ ds ≠ [] ∧ ds.length ≤ wholeLimit ∧
        n = positional 10 ds := by
  rw [readWhole_digits h]
  cases cs with
  | nil => simp [readDigits]
  | cons c cs =>
    obtain ⟨hc, hcs⟩ := List.forall_mem_cons.1 h
    cases hd : decimalValue? c with
    | none =>
      rw [List.map_cons, readDigits_form true hc hd]
      simp only [if_true, reduceCtorEq, false_iff]
      rintro ⟨ds, hds, -⟩
      cases ds <;> simp [hd] at hds
    | some d =>
      obtain ⟨ds, rest, hread, hvalues⟩ := readDigits_digits hcs
      simp only [map_decimalValue?_cons hd, hvalues]
      rw [List.map_cons, readDigits_decimal true hd, hread]
      constructor
      · intro hn
        simp only [Option.map_some] at hn
        split at hn
        · cases hn
        · next hsize =>
          split at hn
          · cases hn
          · next hrest =>
            exact ⟨d :: ds, ⟨ds, rfl, by simpa using hrest, rfl⟩, List.cons_ne_nil d ds,
              Nat.not_lt.1 hsize, (Except.ok.inj hn).symm⟩
      · rintro ⟨_, ⟨_, rfl, hrest, rfl⟩, -, hsize, rfl⟩
        simp only [Option.map_some, if_neg (Nat.not_lt.2 hsize), hrest]
        rfl

end Provision.Text
