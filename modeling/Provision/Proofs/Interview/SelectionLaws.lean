import Mathlib.Algebra.Group.Nat.Defs
import Mathlib.Data.List.Induction
import Mathlib.Data.List.Sort
import Provision.Interview.Selection
import Provision.Proofs.Text.BlankLaws
import Provision.Proofs.Text.WholeLaws

/-!
# What a reply selects

A reply selects the numbers that its parts write. It is read exactly when each part that is
not blank writes a number within bounds, and what is read are these numbers in ascending
order (`parseSelection_eq_ok_iff`). So only the set of such parts matters
(`parseSelection_congr`), and a selection written out in full reads as itself
(`parseSelection_listed`).
-/

namespace Provision.Interview

open Text (decimalValue? isDigit positional wholeLimit readWhole)

variable {upper : Int} {part : List Char} {n : Nat}

/-! ## Parts -/

def items (raw : String) : List (List Char) :=
  ((raw.toList.splitOn ',').map trimmed).filter (· ≠ [])

/-- A part writes a number between one and `upper`, in digits of any script and in no more of
them than are read. Zeros may stand in front. -/
def Selects (upper : Int) (part : List Char) (n : Nat) : Prop :=
  ∃ ds, part.map decimalValue? = ds.map some ∧ ds ≠ [] ∧ ds.length ≤ wholeLimit ∧
    n = positional 10 ds ∧ 1 ≤ n ∧ n ≤ upper

theorem commaParts_eq_splitOn (cs : List Char) : commaParts cs = cs.splitOn ',' := by
  induction cs with
  | nil => rfl
  | cons c rest ih =>
    rw [commaParts, List.splitOn_cons_eq_if_modifyHead, ih]
    by_cases hc : c = ','
    · simp [hc]
    · rw [if_neg hc, if_neg (by simpa using hc)]
      have := List.splitOn_ne_nil ',' rest
      cases hs : rest.splitOn ',' with
      | nil => exact absurd hs this
      | cons p ps => rfl

theorem isDigit_of_values {cs : List Char} {ds : List Nat}
    (h : cs.map decimalValue? = ds.map some) : ∀ c ∈ cs, isDigit c = true := by
  intro c hc
  obtain ⟨d, -, hd⟩ := List.mem_map.1 (h ▸ List.mem_map_of_mem hc)
  exact Text.isDigit_of_decimalValue? hd.symm

theorem partNumber_eq_ok_iff : partNumber upper part = .ok n ↔ Selects upper part n := by
  unfold partNumber Selects
  by_cases hdigits : part.all isDigit = true
  · have hall := List.all_eq_true.1 hdigits
    simp only [hdigits, Bool.not_true, Bool.false_eq_true, if_false]
    constructor
    · intro h
      split at h
      · cases h
      · next m hm =>
        split at h
        · next hrange =>
          obtain ⟨ds, hds, hne, hsize, rfl⟩ := (Text.readWhole_eq_ok_iff hall).1 hm
          obtain rfl := Except.ok.inj h
          exact ⟨ds, hds, hne, hsize, rfl, by omega, by omega⟩
        · cases h
    · rintro ⟨ds, hds, hne, hsize, rfl, hlow, hhigh⟩
      rw [(Text.readWhole_eq_ok_iff hall).2 ⟨ds, hds, hne, hsize, rfl⟩]
      simp only
      rw [if_pos ⟨by omega, hhigh⟩]
      rfl
  · simp only [hdigits, Bool.not_false, if_true, reduceCtorEq, false_iff]
    rintro ⟨ds, hds, -⟩
    exact hdigits (List.all_eq_true.2 (isDigit_of_values hds))

theorem Selects.unique {m : Nat} (h : Selects upper part n) (hm : Selects upper part m) :
    m = n :=
  Except.ok.inj ((partNumber_eq_ok_iff.2 hm).symm.trans (partNumber_eq_ok_iff.2 h))

theorem partNumber_error {f : Fault} (h : partNumber upper part = .error f) :
    ∃ text, f = wrongValue text := by
  unfold partNumber at h
  simp only at h
  split at h
  · exact ⟨_, (Except.error.inj h).symm⟩
  · split at h
    · exact ⟨_, (Except.error.inj h).symm⟩
    · split at h
      · cases h
      · exact ⟨_, (Except.error.inj h).symm⟩

/-! ## Numbers in ascending order -/

theorem mem_insertUnique {k : Nat} {ms : List Nat} : k ∈ insertUnique n ms ↔ k = n ∨ k ∈ ms := by
  induction ms with
  | nil => simp [insertUnique]
  | cons m rest ih =>
    unfold insertUnique
    split
    · exact List.mem_cons
    · split
      · next h => simp [h]
      · rw [List.mem_cons, ih, List.mem_cons]
        exact or_left_comm

theorem insertUnique_ascending {ms : List Nat} (h : ms.Pairwise (· < ·)) :
    (insertUnique n ms).Pairwise (· < ·) := by
  induction ms with
  | nil => simp [insertUnique]
  | cons m rest ih =>
    obtain ⟨hm, hrest⟩ := List.pairwise_cons.1 h
    unfold insertUnique
    split
    · next hlt =>
      refine List.pairwise_cons.2 ⟨List.forall_mem_cons.2 ⟨hlt, fun k hk => ?_⟩, h⟩
      exact Nat.lt_trans hlt (hm k hk)
    · split
      · exact h
      · next hge hne =>
        refine List.pairwise_cons.2 ⟨fun k hk => ?_, ih hrest⟩
        rcases mem_insertUnique.1 hk with rfl | hk
        · omega
        · exact hm k hk

/-! ## Replies -/

theorem selectParts_eq_ok_iff {parts : List (List Char)} {picked out : List Nat}
    (hp : picked.Pairwise (· < ·)) :
    selectParts upper picked parts = .ok out ↔
      (∀ part ∈ (parts.map trimmed).filter (· ≠ []), ∃ n, Selects upper part n) ∧
      out.Pairwise (· < ·) ∧
      ∀ n, n ∈ out ↔
        n ∈ picked ∨ ∃ part ∈ (parts.map trimmed).filter (· ≠ []), Selects upper part n := by
  induction parts generalizing picked with
  | nil =>
    simp only [selectParts, Except.ok.injEq, List.map_nil, List.filter_nil, List.not_mem_nil,
      false_and, exists_false, or_false, false_implies, implies_true, true_and]
    constructor
    · rintro rfl
      exact ⟨hp, fun _ => Iff.rfl⟩
    · rintro ⟨hout, hmem⟩
      exact hp.eq_of_mem_iff hout fun n => (hmem n).symm
  | cons part rest ih =>
    unfold selectParts
    simp only
    split
    · next hblank =>
      rw [List.map_cons, List.filter_cons_of_neg (by simp [hblank])]
      exact ih hp
    · next hne =>
      rw [List.map_cons, List.filter_cons_of_pos (by simpa using hne)]
      cases hn : partNumber upper (trimmed part) with
      | error f =>
        simp only [reduceCtorEq, List.forall_mem_cons, false_iff]
        rintro ⟨⟨⟨n, hs⟩, -⟩, -⟩
        simp [partNumber_eq_ok_iff.2 hs] at hn
      | ok n =>
        have hs := partNumber_eq_ok_iff.1 hn
        have hmem (k : Nat) : Selects upper (trimmed part) k ↔ k = n :=
          ⟨fun hk => hs.unique hk, fun hk => hk ▸ hs⟩
        simp only [ih (insertUnique_ascending hp), mem_insertUnique, List.forall_mem_cons,
          List.exists_mem_cons_iff, hmem, exists_eq, true_and, or_assoc, or_left_comm]

/-- A reply is read if and only if each of its parts that is not blank writes a number within
bounds. What is read are these numbers in ascending order. -/
theorem parseSelection_eq_ok_iff {raw : String} {picked : List Nat} :
    parseSelection raw upper = .ok picked ↔
      (∀ part ∈ items raw, ∃ n, Selects upper part n) ∧ picked.Pairwise (· < ·) ∧
      ∀ n, n ∈ picked ↔ ∃ part ∈ items raw, Selects upper part n := by
  rw [parseSelection, commaParts_eq_splitOn, selectParts_eq_ok_iff .nil]
  simp only [List.not_mem_nil, false_or, items]

theorem selectParts_error {parts : List (List Char)} {picked : List Nat} {f : Fault}
    (h : selectParts upper picked parts = .error f) :
    ∃ part ∈ (parts.map trimmed).filter (· ≠ []), partNumber upper part = .error f := by
  induction parts generalizing picked with
  | nil => cases h
  | cons part rest ih =>
    unfold selectParts at h
    simp only at h
    split at h
    · next hblank =>
      rw [List.map_cons, List.filter_cons_of_neg (by simp [hblank])]
      exact ih h
    · next hne =>
      rw [List.map_cons, List.filter_cons_of_pos (by simpa using hne)]
      cases hn : partNumber upper (trimmed part) with
      | error e =>
        rw [hn] at h
        obtain rfl : e = f := Except.error.inj h
        exact ⟨_, List.mem_cons_self .., hn⟩
      | ok n =>
        rw [hn] at h
        obtain ⟨item, hitem, hf⟩ := ih h
        exact ⟨item, List.mem_cons_of_mem _ hitem, hf⟩

theorem parseSelection_error {raw : String} {f : Fault} (h : parseSelection raw upper = .error f) :
    ∃ part ∈ items raw, partNumber upper part = .error f := by
  rw [parseSelection, commaParts_eq_splitOn] at h
  exact selectParts_error h

/-- Neither the order of the parts matters nor how often they stand there, and blank ones
count for nothing. -/
theorem parseSelection_congr {raw raw' : String} {picked : List Nat}
    (h : ∀ part, part ∈ items raw' ↔ part ∈ items raw) :
    parseSelection raw' upper = .ok picked ↔ parseSelection raw upper = .ok picked := by
  simp only [parseSelection_eq_ok_iff, h]

/-! ## Selections written out -/

def listed (numbers : List Nat) : String := ",".intercalate (numbers.map toString)

theorem decimalValue?_of_common {c : Char} (h : c.isDigit = true) :
    decimalValue? c = some (c.toNat - 48) := by
  simp only [Char.isDigit, Bool.and_eq_true, decide_eq_true_eq] at h
  have hlow : 48 ≤ c.toNat := h.1
  have hhigh : c.toNat < 58 := Nat.lt_succ_of_le h.2
  simp [decimalValue?, Text.decimalZeros, hlow, hhigh]

theorem isDigit_of_mem_digits {c : Char} (h : c ∈ Nat.toDigits 10 n) : c.isDigit = true :=
  Nat.isDigit_of_mem_toDigits (by decide) (by decide) h

theorem positional_lt {ds : List Nat} (h : ∀ d ∈ ds, d < 10) :
    positional 10 ds < 10 ^ ds.length := by
  induction ds using List.reverseRecOn with
  | nil => decide
  | append_singleton ds d ih =>
    have hd : d < 10 := h d (by simp)
    have hds := ih fun d hd => h d (List.mem_append_left _ hd)
    unfold positional at hds ⊢
    rw [List.foldl_append, List.length_append, List.foldl_cons, List.foldl_nil,
      List.length_singleton, Nat.pow_succ]
    omega

theorem selects_digits (h : Selects upper part n) : Selects upper (Nat.toDigits 10 n) n := by
  obtain ⟨ds, hds, -, hsize, hn, hlow, hhigh⟩ := h
  have hten : ∀ d ∈ ds, d < 10 := by
    intro d hd
    obtain ⟨c, -, hc⟩ := List.mem_map.1 (hds.symm ▸ List.mem_map_of_mem hd)
    exact Text.decimalValue?_lt hc
  have hlength : (Nat.toDigits 10 n).length ≤ wholeLimit := by
    rw [Nat.length_toDigits_le_iff (by decide) (by decide)]
    calc n = positional 10 ds := hn
      _ < 10 ^ ds.length := positional_lt hten
      _ ≤ 10 ^ wholeLimit := Nat.pow_le_pow_right (by decide) hsize
  refine ⟨(Nat.toDigits 10 n).map fun c => c.toNat - 48, ?_, ?_, ?_, ?_, hlow, hhigh⟩
  · rw [List.map_map]
    exact List.map_congr_left fun c hc => decimalValue?_of_common (isDigit_of_mem_digits hc)
  · simp [Nat.toDigits_ne_nil]
  · rwa [List.length_map]
  · calc n = Nat.ofDigitChars 10 (Nat.toDigits 10 n) 0 :=
          (Nat.ofDigitChars_toDigits (by decide) (by decide)).symm
      _ = positional 10 ((Nat.toDigits 10 n).map fun c => c.toNat - 48) := by
          rw [Nat.ofDigitChars_eq_foldl, positional, List.foldl_map]
          simp only [Nat.mul_comm]
          rfl

theorem trimmed_of_bare {cs : List Char} (h : ∀ c ∈ cs, Text.isBlank c = false) :
    trimmed cs = cs := by
  have hreverse : ∀ c ∈ cs.reverse, Text.isBlank c = false := by
    simpa only [List.mem_reverse] using h
  rw [trimmed, Text.trimStart, Text.dropWhile_isBlank_of_bare h, Text.trimEnd,
    Text.dropWhile_isBlank_of_bare hreverse, List.reverse_reverse]

theorem items_of_digits {cs : List Char} (hne : cs ≠ []) (h : ∀ c ∈ cs, isDigit c = true) :
    items (String.ofList cs) = [cs] := by
  have hcomma : ',' ∉ cs := fun hc => absurd (h _ hc) (by decide)
  have htrim : trimmed cs = cs := trimmed_of_bare fun c hc => Text.isBlank_of_isDigit (h c hc)
  simp [items, List.splitOn_eq_singleton hcomma, htrim, hne]

/-- A number of too many digits is refused, and zeros in front count as well. -/
theorem parseSelection_of_oversized {cs : List Char} (h : ∀ c ∈ cs, isDigit c = true)
    (hlong : wholeLimit < cs.length) (picked : List Nat) :
    parseSelection (String.ofList cs) upper ≠ .ok picked := by
  intro hp
  have hne : cs ≠ [] := List.ne_nil_of_length_pos (Nat.lt_of_le_of_lt (Nat.zero_le _) hlong)
  have hcs : cs ∈ items (String.ofList cs) := by simp [items_of_digits hne h]
  obtain ⟨n, ds, hds, -, hsize, -⟩ := (parseSelection_eq_ok_iff.1 hp).1 cs hcs
  have hlength : cs.length = ds.length := by
    simpa only [List.length_map] using congrArg List.length hds
  omega

theorem trimmed_digits (n : Nat) : trimmed (Nat.toDigits 10 n) = Nat.toDigits 10 n :=
  trimmed_of_bare fun _ hc => Text.isBlank_of_isDigit
    (Text.isDigit_of_decimalValue? (decimalValue?_of_common (isDigit_of_mem_digits hc)))

theorem items_listed (numbers : List Nat) :
    items (listed numbers) = numbers.map (Nat.toDigits 10) := by
  have hchars : (listed numbers).toList = [','].intercalate (numbers.map (Nat.toDigits 10)) := by
    rw [listed, String.toList_intercalate, List.map_map]
    exact congrArg _ (List.map_congr_left fun n _ => Nat.toList_repr)
  have htrim : (numbers.map (Nat.toDigits 10)).map trimmed = numbers.map (Nat.toDigits 10) := by
    rw [List.map_map]
    exact List.map_congr_left fun n _ => trimmed_digits n
  cases numbers with
  | nil => rfl
  | cons n rest =>
    rw [items, hchars, List.splitOn_intercalate ',' ?_ (by simp), htrim, List.filter_eq_self]
    · intro digits hdigits
      obtain ⟨m, -, rfl⟩ := List.mem_map.1 hdigits
      simp [Nat.toDigits_ne_nil]
    · intro digits hdigits hcomma
      obtain ⟨m, -, rfl⟩ := List.mem_map.1 hdigits
      exact absurd (isDigit_of_mem_digits hcomma) (by decide)

theorem parseSelection_listed {raw : String} {picked : List Nat}
    (h : parseSelection raw upper = .ok picked) :
    parseSelection (listed picked) upper = .ok picked := by
  obtain ⟨-, hascending, hmem⟩ := parseSelection_eq_ok_iff.1 h
  have hdigits : ∀ n ∈ picked, Selects upper (Nat.toDigits 10 n) n := by
    intro n hn
    obtain ⟨part, -, hpart⟩ := (hmem n).1 hn
    exact selects_digits hpart
  rw [parseSelection_eq_ok_iff, items_listed]
  refine ⟨fun part hpart => ?_, hascending, fun n => ⟨fun hn => ?_, ?_⟩⟩
  · obtain ⟨n, hn, rfl⟩ := List.mem_map.1 hpart
    exact ⟨n, hdigits n hn⟩
  · exact ⟨_, List.mem_map_of_mem hn, hdigits n hn⟩
  · rintro ⟨part, hpart, hn⟩
    obtain ⟨m, hm, rfl⟩ := List.mem_map.1 hpart
    rwa [(hdigits m hm).unique hn]

end Provision.Interview
