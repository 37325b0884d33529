import Provision.Json.Writer
import Provision.Proofs.Text.Ascii
import Provision.Terminal.Screen
import Provision.Terminal.Style

/-!
# JSON is plain

What the writer writes is in ASCII, whatever the value (`write_ascii`). So there is
no half of a surrogate pair in it, and a terminal takes it with or without colours
(`plainLine_write_hasSurrogate`).
-/

namespace Provision

variable {cs ds : List Char} {c : Char}

open Text

-- ---------------------------------------------------------------------------
-- Numbers
-- ---------------------------------------------------------------------------

namespace Decimal

theorem toDigits_ascii (n : Nat) : Ascii (Nat.toDigits 10 n) := by
  intro c hc
  have h := Nat.isDigit_of_mem_toDigits (by decide) (by decide) hc
  simp only [Char.isDigit, Bool.and_eq_true, decide_eq_true_eq] at h
  have h9 : c.toNat ≤ 57 := h.2
  omega

theorem trimZeros_ascii (h : Ascii cs) : Ascii (trimZeros cs) := by
  unfold trimZeros
  split
  · simp [Ascii]
  · refine h.mono fun c hc => List.mem_reverse.1 ?_
    exact (List.dropWhile_sublist _).subset (List.mem_reverse.1 hc)

theorem zeros_ascii (n : Nat) : Ascii (zeros n) := ascii_replicate n (by decide)

theorem unsigned_ascii (l : Layout) (d : Digits) : Ascii (l.unsigned d) := by
  have hds := trimZeros_ascii (toDigits_ascii d.digits)
  unfold Layout.unsigned
  dsimp only
  generalize trimZeros (Nat.toDigits 10 d.digits) = ds at hds
  split
  · simp [Ascii]
  · split
    · split
      · exact ascii_append.2 ⟨ascii_append.2 ⟨by simp [Ascii], zeros_ascii _⟩, hds⟩
      · split
        · exact ascii_append.2 ⟨ascii_append.2 ⟨hds, zeros_ascii _⟩, by simp [Ascii]⟩
        · refine ascii_append.2 ⟨hds.mono (List.take_subset ..), ascii_cons.2 ⟨by decide, ?_⟩⟩
          exact hds.mono (List.drop_subset ..)
    · refine ascii_append.2 ⟨?_, ascii_cons.2 ⟨by decide, ascii_cons.2 ⟨?_, ?_⟩⟩⟩
      · split
        · exact ascii_nil
        · exact hds
        · obtain ⟨hc, hrest⟩ := ascii_cons.1 hds
          exact ascii_cons.2 ⟨hc, ascii_cons.2 ⟨by decide, hrest⟩⟩
      · split <;> decide
      · exact ascii_append.2 ⟨zeros_ascii _, toDigits_ascii _⟩

theorem write_ascii (l : Layout) (hn : Ascii l.notANumber.toList) (hi : Ascii l.infinite.toList)
    (x : Float) : Ascii (l.write x).toList := by
  have hsigned : ∀ (negative : Bool) (cs : List Char), Ascii cs →
      Ascii (if negative then '-' :: cs else cs) := by
    intro negative cs hcs
    split
    · exact ascii_cons.2 ⟨by decide, hcs⟩
    · exact hcs
  unfold Layout.write
  dsimp only
  split
  · exact hn
  · rw [String.toList_ofList]
    exact hsigned _ _ hi
  · rw [String.toList_ofList]
    exact hsigned _ _ (unsigned_ascii l _)

end Decimal

-- ---------------------------------------------------------------------------
-- Values
-- ---------------------------------------------------------------------------

namespace Json

theorem int_ascii (n : Int) : Ascii (toString n).toList := by
  cases n with
  | ofNat n =>
    have h : (toString (Int.ofNat n)).toList = Nat.toDigits 10 n := Nat.toList_repr
    exact h ▸ Decimal.toDigits_ascii n
  | negSucc n =>
    have h : (toString (Int.negSucc n)).toList = '-' :: Nat.toDigits 10 (n + 1) := by
      simp [toString, Int.repr]
    exact h ▸ ascii_cons.2 ⟨by decide, Decimal.toDigits_ascii _⟩

theorem ofNat_ascii {n : Nat} (h : n < 0x80) : (Char.ofNat n).toNat < 0x80 := by
  rw [toNat_ofNat_of_isValidChar (.inl (by omega))]
  exact h

theorem escapeUnit_ascii (n : Nat) : Ascii (escapeUnit n) :=
  ascii_cons.2 ⟨by decide, ascii_cons.2 ⟨by decide, hexChars_ascii 4 n⟩⟩

theorem writePoint_ascii (n : Nat) : Ascii (writePoint n) := by
  unfold writePoint
  split
  · next h =>
    refine ascii_cons.2 ⟨by decide, ascii_cons.2 ⟨?_, ascii_nil⟩⟩
    rcases h with rfl | rfl <;> decide
  · split
    · next h => exact ascii_cons.2 ⟨ofNat_ascii (by omega), ascii_nil⟩
    · split
      any_goals simp [Ascii, Text.backslash]
      -- What has no short escape is written by its units.
      split
      · exact escapeUnit_ascii _
      · exact ascii_append.2 ⟨escapeUnit_ascii _, escapeUnit_ascii _⟩

theorem writeString_ascii (s : String) : Ascii (writeString s) :=
  ascii_cons.2 ⟨by decide, ascii_append.2 ⟨.flatMap fun n _ => writePoint_ascii n,
    ascii_cons.2 ⟨by decide, ascii_nil⟩⟩⟩

theorem break_ascii (s : Spread) (level : Nat) : Ascii (s.break level) := by
  cases s with
  | line => exact ascii_nil
  | lines => exact ascii_cons.2 ⟨by decide, ascii_replicate _ (by decide)⟩

theorem comma_ascii (s : Spread) (level : Nat) : Ascii (s.comma level) := by
  cases s with
  | line => exact ascii_cons.2 ⟨by decide, ascii_nil⟩
  | lines => exact ascii_cons.2 ⟨by decide, break_ascii .lines level⟩

theorem colon_ascii (s : Spread) : Ascii s.colon := by
  cases s <;> simp [Ascii, Spread.colon]

mutual

theorem writeAt_ascii (s : Spread) (level : Nat) : ∀ v : Value, Ascii (writeAt s level v)
  | .null => by simp [writeAt, Ascii]
  | .bool b => by cases b <;> simp [writeAt, Ascii]
  | .int n => int_ascii n
  | .float x => Decimal.write_ascii _ (by simp [numberLayout, Ascii]) (by simp [numberLayout, Ascii]) x
  | .str t => writeString_ascii t
  | .list [] => by simp [writeAt, Ascii]
  | .list (v :: vs) => by
    have hv := writeAt_ascii s (level + 1) v
    have hvs := writeItems_ascii s (level + 1) vs
    simp [writeAt, ascii_cons, ascii_append, ascii_nil, break_ascii, hv, hvs]
  | .dict [] => by simp [writeAt, Ascii]
  | .dict ((k, v) :: es) => by
    have hv := writeAt_ascii s (level + 1) v
    have hes := writeEntries_ascii s (level + 1) es
    simp [writeAt, ascii_cons, ascii_append, ascii_nil, break_ascii, colon_ascii,
      writeString_ascii, hv, hes]

theorem writeItems_ascii (s : Spread) (level : Nat) : ∀ vs, Ascii (writeItems s level vs)
  | [] => ascii_nil
  | v :: vs => by
    have hv := writeAt_ascii s level v
    have hvs := writeItems_ascii s level vs
    simp [writeItems, ascii_append, comma_ascii, hv, hvs]

theorem writeEntries_ascii (s : Spread) (level : Nat) : ∀ es, Ascii (writeEntries s level es)
  | [] => ascii_nil
  | (k, v) :: es => by
    have hv := writeAt_ascii s level v
    have hes := writeEntries_ascii s level es
    simp [writeEntries, ascii_append, comma_ascii, colon_ascii, writeString_ascii, hv, hes]

end

theorem write_ascii (s : Spread) (v : Value) : Ascii (write s v).toList := by
  rw [write, String.toList_ofList]
  exact writeAt_ascii s 0 v

end Json

-- ---------------------------------------------------------------------------
-- On a terminal
-- ---------------------------------------------------------------------------

namespace Terminal

theorem stripCodes_subset (cs : List Char) : stripCodes cs ⊆ cs := by
  fun_induction stripCodes cs with
  | case1 rest n _ ih =>
    intro c hc
    exact List.mem_cons_of_mem _ (List.mem_cons_of_mem _ (List.drop_subset _ _ (ih hc)))
  | case2 rest _ ih => exact List.cons_subset_cons _ ih
  | case3 c rest _ ih => exact List.cons_subset_cons _ ih
  | case4 => exact List.Subset.refl _

theorem plainLine_ascii (color : Bool) {text : String} (h : Ascii text.toList) :
    Ascii (plainLine color text).toList := by
  have hline : Ascii (text ++ "\n").toList := by
    rw [String.toList_append]
    exact ascii_append.2 ⟨h, by simp [Ascii]⟩
  unfold plainLine shown
  split
  · exact hline
  · rw [String.toList_ofList]
    exact hline.mono (stripCodes_subset _)

theorem plainLine_write_hasSurrogate (color : Bool) (s : Json.Spread) (v : Value) :
    hasSurrogate (plainLine color (Json.write s v)) = false :=
  hasSurrogate_of_ascii (plainLine_ascii color (Json.write_ascii s v))

end Terminal

end Provision
