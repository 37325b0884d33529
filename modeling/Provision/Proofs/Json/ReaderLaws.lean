import Mathlib.Data.List.TakeWhile
import Provision.Json.Reader
import Provision.Proofs.Value.EntriesLaws
import Provision.Text.Blank

/-!
# What a JSON text is read as

An object that is read has every key once (`nodup_keys_of_read`). A whole number of too many
digits is not read at all, though nothing is wrong with it as JSON (`read_digits`).
-/

namespace Provision.Json

variable {cs : List Char} {text : String} {c c' : Cursor} {v : Value} {es : Entries}
  {fuel levels : Nat}

theorem read_empty : read "" = .error (.malformed .value 0) := rfl

-- ---------------------------------------------------------------------------
-- Objects
-- ---------------------------------------------------------------------------

theorem word_ne_dict {w : List Char × Value} (h : w ∈ words) : w.2 ≠ .dict es := by
  simp only [words, List.mem_cons, List.not_mem_nil, or_false] at h
  rcases h with rfl | rfl | rfl | rfl | rfl | rfl <;> exact Value.noConfusion

theorem readNumber_ne_dict : readNumber c ≠ .ok (.dict es, c') := by
  unfold readNumber
  dsimp only
  repeat' split
  all_goals exact nofun

theorem nodup_keys_of_readValue (h : readValue fuel levels c = .ok (.dict es, c')) :
    (Entries.keys es).Nodup := by
  cases fuel with
  | zero => simp [readValue, fail] at h
  | succ fuel =>
    unfold readValue at h
    split at h
    · cases h
    · split at h
      · cases hs : readString c.place (c.rest.length + 1) (c.advance 1) [] with
        | error e => rw [hs] at h; cases h
        | ok r => rw [hs] at h; cases h
      · split at h
        · split at h
          · cases h
          · dsimp only at h
            split at h
            · cases h
              exact List.nodup_nil
            · cases he : readEntries fuel (levels - 1) (c.advance 1).skipBlanks [] with
              | error e => rw [he] at h; cases h
              | ok r =>
                rw [he] at h
                cases h
                exact Entries.nodup_keys_ofPairs _
        · split at h
          · split at h
            · cases h
            · dsimp only at h
              split at h
              · cases h
              · cases hi : readItems fuel (levels - 1) (c.advance 1).skipBlanks [] with
                | error e => rw [hi] at h; cases h
                | ok r => rw [hi] at h; cases h
          · split at h
            · next hw =>
              cases h
              exact absurd rfl (word_ne_dict (List.mem_of_find?_eq_some hw))
            · exact absurd h readNumber_ne_dict

theorem nodup_keys_of_read (h : read text = .ok (.dict es)) : (Entries.keys es).Nodup := by
  unfold read readChars at h
  split at h
  · cases h
  · cases hv : readValue (2 * text.toList.length + 2) nestingLimit
        (Cursor.skipBlanks ⟨0, text.toList⟩) with
    | error e => rw [hv] at h; cases h
    | ok r =>
      obtain ⟨v, c⟩ := r
      rw [hv] at h
      dsimp only [pure_bind, bind, Except.bind] at h
      split at h
      · cases h
        exact nodup_keys_of_readValue hv
      · cases h

-- ---------------------------------------------------------------------------
-- Whole numbers
-- ---------------------------------------------------------------------------

theorem isDecimal_iff {x : Char} : isDecimal x = true ↔ '0' ≤ x ∧ x ≤ '9' := by
  simp [isDecimal]

theorem isBlank_of_isDecimal {x : Char} (hx : isDecimal x = true) : Text.isBlank x = false := by
  obtain ⟨h0, h9⟩ := isDecimal_iff.1 hx
  have hl : 48 ≤ x.toNat := h0
  have hu : x.toNat ≤ 57 := h9
  simp only [Text.isBlank, Bool.or_eq_false_iff, Bool.and_eq_false_iff, decide_eq_false_iff_not]
  omega

theorem ne_of_isDecimal {x y : Char} (hx : isDecimal x = true) (hy : isDecimal y = false) :
    x ≠ y := by
  rintro rfl
  exact Bool.noConfusion (hx.symm.trans hy)

theorem find?_words_of_isDecimal {x : Char} (hx : isDecimal x = true) (cs : List Char) :
    words.find? (fun w => w.1.isPrefixOf (x :: cs)) = none := by
  have hother : ∀ y : Char, isDecimal y = false → (y == x) = false := by
    intro y hy
    exact beq_false_of_ne (ne_of_isDecimal hx hy).symm
  simp [words, List.isPrefixOf, hother 'n' rfl, hother 't' rfl, hother 'f' rfl, hother 'N' rfl,
    hother 'I' rfl, hother '-' rfl]

theorem skipBlanks_digit {x : Char} (hx : isDecimal x = true) (cs : List Char) (place : Nat) :
    Cursor.skipBlanks ⟨place, x :: cs⟩ = ⟨place, x :: cs⟩ := by
  have hother : ∀ y : Char, isDecimal y = false → x ≠ y := fun y => ne_of_isDecimal hx
  simp [Cursor.skipBlanks, Cursor.advance, hother ' ' rfl, hother '\t' rfl, hother '\n' rfl,
    hother '\r' rfl]

theorem readValue_digit {x : Char} (hx : isDecimal x = true) (cs : List Char) (place : Nat) :
    readValue (fuel + 1) levels ⟨place, x :: cs⟩ = readNumber ⟨place, x :: cs⟩ := by
  have hother : ∀ y : Char, isDecimal y = false → x ≠ y := fun y => ne_of_isDecimal hx
  unfold readValue
  simp only [if_neg (hother Text.doubleQuote rfl), if_neg (hother '\x7b' rfl),
    if_neg (hother '[' rfl), find?_words_of_isDecimal hx]

section
variable {ds : List Char}

theorem readNumber_digits (hd : ∀ d ∈ ds, isDecimal d = true) (h0 : ds.head? ≠ some '0')
    (hl : Text.wholeLimit < ds.length) (place : Nat) :
    readNumber ⟨place, ds⟩ = .error (.oversized ds.length) := by
  have htake : ds.takeWhile isDecimal = ds := List.takeWhile_eq_self_iff.2 hd
  cases ds with
  | nil => exact absurd hl (Nat.not_lt_zero _)
  | cons d ds =>
    have hsign : d ≠ '-' := ne_of_isDecimal (hd d List.mem_cons_self) rfl
    have hzero : d ≠ '0' := fun h => h0 (congrArg some h)
    have hsize : Text.wholeLimit < ds.length + 1 := hl
    unfold readNumber
    simp [hsign, hzero, htake, readFraction, readExponent?, hsize]

theorem read_digits (hd : ∀ d ∈ ds, isDecimal d = true) (h0 : ds.head? ≠ some '0')
    (hl : Text.wholeLimit < ds.length) :
    read (String.ofList ds) = .error (.oversized ds.length) := by
  have hnumber := readNumber_digits hd h0 hl 0
  cases ds with
  | nil => exact absurd hl (Nat.not_lt_zero _)
  | cons d ds =>
    have hdigit := hd d List.mem_cons_self
    have hmark : d ≠ '\ufeff' := ne_of_isDecimal hdigit rfl
    unfold read readChars
    rw [String.toList_ofList, if_neg (by simpa using hmark), skipBlanks_digit hdigit,
      readValue_digit hdigit, hnumber]
    rfl

end

end Provision.Json
