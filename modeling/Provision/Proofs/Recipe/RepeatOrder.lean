import Mathlib.Data.List.Induction
import Mathlib.Data.List.Pairwise
import Provision.Proofs.Recipe.Accepted

/-!
# The order of repeated names

A name is found to be repeated where it stands for the second time, so that is the order of what
is found (`duplicates_byPlace`). It is the order in which the names were first seen unless one of
them is repeated before an earlier one is (`Overtakes`).
-/

namespace Provision.Recipe

variable {names more ds : List String} {a b : String} {n : Nat}

-- ---------------------------------------------------------------------------
-- Places
-- ---------------------------------------------------------------------------

/-- Names in the order of their places in a row, of which the first has the number 0. -/
def ByPlace (n : Nat) (names ds : List String) : Prop :=
  ds.Pairwise fun a b => names.idxOfNth a n < names.idxOfNth b n

/-- `b` comes after `a`, and is repeated before `a` is. -/
structure Overtakes (names : List String) (a b : String) : Prop where
  later : names.idxOfNth a 0 < names.idxOfNth b 0
  sooner : names.idxOfNth b 1 < names.idxOfNth a 1
  repeated : 2 ≤ names.count a

/-- Two names whose second places are in the order of their first ones. -/
def Aligned (names : List String) (a b : String) : Prop :=
  names.idxOfNth a 0 < names.idxOfNth b 0 ∧ names.idxOfNth a 1 < names.idxOfNth b 1 ∨
  names.idxOfNth b 0 < names.idxOfNth a 0 ∧ names.idxOfNth b 1 < names.idxOfNth a 1

instance (names : List String) : Std.Symm (Aligned names) := ⟨fun _ _ => Or.symm⟩

theorem idxOfNth_append_of_lt_count (h : n < names.count a) :
    (names ++ more).idxOfNth a n = names.idxOfNth a n := by
  induction names generalizing n with
  | nil => simp at h
  | cons b names ih =>
    rw [List.cons_append]
    rw [List.count_cons] at h
    cases hb : b == a with
    | true =>
      rw [hb, if_pos rfl] at h
      cases n with
      | zero => rw [List.idxOfNth_cons_zero_of_beq hb, List.idxOfNth_cons_zero_of_beq hb]
      | succ n =>
        rw [List.idxOfNth_cons_succ_of_beq hb, List.idxOfNth_cons_succ_of_beq hb,
          ih (Nat.lt_of_succ_lt_succ h)]
    | false =>
      rw [hb, if_neg Bool.false_ne_true] at h
      rw [List.idxOfNth_cons_of_not_beq hb, List.idxOfNth_cons_of_not_beq hb, ih h]

theorem idxOfNth_concat_self (names : List String) (a : String) :
    (names ++ [a]).idxOfNth a (names.count a) = names.length := by
  induction names with
  | nil => simp
  | cons b names ih =>
    rw [List.cons_append, List.count_cons, List.length_cons]
    cases hb : b == a with
    | true => rw [if_pos rfl, List.idxOfNth_cons_succ_of_beq hb, ih]
    | false =>
      rw [if_neg Bool.false_ne_true, Nat.add_zero, List.idxOfNth_cons_of_not_beq hb, ih]

-- ---------------------------------------------------------------------------
-- What is found
-- ---------------------------------------------------------------------------

theorem duplicatesFrom_append (seen found names more : List String) :
    duplicatesFrom seen found (names ++ more) =
      duplicatesFrom (seen ++ names) (duplicatesFrom seen found names) more := by
  induction names generalizing seen found with
  | nil => simp [duplicatesFrom]
  | cons a names ih =>
    rw [List.cons_append, duplicatesFrom, ih, duplicatesFrom, List.append_assoc]
    rfl

theorem duplicates_concat (names : List String) (a : String) :
    duplicates (names ++ [a]) =
      if a ∈ names ∧ a ∉ duplicates names then duplicates names ++ [a]
      else duplicates names := by
  rw [duplicates, duplicatesFrom_append]
  rfl

theorem mem_duplicates_iff_count : a ∈ duplicates names ↔ 2 ≤ names.count a := by
  rw [mem_duplicates_iff, List.duplicate_iff_two_le_count]

theorem duplicates_byPlace (names : List String) : ByPlace 1 names (duplicates names) := by
  induction names using List.reverseRecOn with
  | nil => exact .nil
  | append_singleton names a ih =>
    have hkept : ByPlace 1 (names ++ [a]) (duplicates names) := by
      refine List.Pairwise.imp_of_mem (fun hb hc hlt => ?_) ih
      rwa [idxOfNth_append_of_lt_count (mem_duplicates_iff_count.1 hb),
        idxOfNth_append_of_lt_count (mem_duplicates_iff_count.1 hc)]
    rw [duplicates_concat]
    split
    · next h =>
      have hone : names.count a = 1 := by
        have hpos := List.count_pos_iff.2 h.1
        have hlt := Nat.lt_of_not_le (mt mem_duplicates_iff_count.2 h.2)
        omega
      refine List.pairwise_append.2 ⟨hkept, List.pairwise_singleton .., fun b hb c hc => ?_⟩
      obtain rfl := List.mem_singleton.1 hc
      have hb' := mem_duplicates_iff_count.1 hb
      have hlast := idxOfNth_concat_self names c
      rw [hone] at hlast
      rw [idxOfNth_append_of_lt_count hb', hlast]
      exact List.idxOfNth_lt_length_of_lt_count hb'
    · exact hkept

theorem ByPlace.nodup (h : ByPlace n names ds) : ds.Nodup := by
  refine List.Pairwise.imp ?_ h
  rintro a _ hlt rfl
  exact Nat.lt_irrefl _ hlt

/-- What is found is in the order of first places unless a name overtakes another. -/
theorem duplicates_first_seen_iff (names : List String) :
    ByPlace 0 names (duplicates names) ↔ ∀ a b, ¬Overtakes names a b := by
  have hfound := duplicates_byPlace names
  constructor
  · intro hseen a b h
    have hb : 2 ≤ names.count b :=
      List.idxOfNth_lt_length_iff.1 (Nat.lt_of_lt_of_le h.sooner List.idxOfNth_le_length)
    have hne : a ≠ b := by
      rintro rfl
      exact Nat.lt_irrefl _ h.later
    have haligned : (duplicates names).Pairwise (Aligned names) := (hseen.and hfound).imp .inl
    rcases haligned.forall (mem_duplicates_iff_count.2 h.repeated)
      (mem_duplicates_iff_count.2 hb) hne with ⟨-, hlt⟩ | ⟨hlt, -⟩
    · exact Nat.lt_asymm hlt h.sooner
    · exact Nat.lt_asymm hlt h.later
  · intro hnone
    refine List.Pairwise.imp_of_mem (fun {a b} ha hb hlt => ?_) hfound
    rcases Nat.lt_trichotomy (names.idxOfNth a 0) (names.idxOfNth b 0) with hseen | hsame | hseen
    · exact hseen
    · rw [List.idxOfNth_zero, List.idxOfNth_zero] at hsame
      have ha' : a ∈ names := List.count_pos_iff.1
        (Nat.lt_of_lt_of_le Nat.zero_lt_two (mem_duplicates_iff_count.1 ha))
      rw [(List.idxOf_inj ha').1 hsame] at hlt
      exact absurd hlt (Nat.lt_irrefl _)
    · exact absurd ⟨hseen, hlt, mem_duplicates_iff_count.1 hb⟩ (hnone b a)

/-- The names of a row that are repeated: exactly those that stand in it twice or more, each once,
in the order of their second places. That is the order in which they were first seen unless one
overtakes another. -/
structure Repeats (names ds : List String) : Prop where
  mem_iff : ∀ a, a ∈ ds ↔ 2 ≤ names.count a
  nodup : ds.Nodup
  eq_nil_iff : ds = [] ↔ names.Nodup
  byPlace : ByPlace 1 names ds
  first_seen_iff : ByPlace 0 names ds ↔ ∀ a b, ¬Overtakes names a b

theorem duplicates_repeats (names : List String) : Repeats names (duplicates names) where
  mem_iff _ := mem_duplicates_iff_count
  nodup := (duplicates_byPlace names).nodup
  eq_nil_iff := duplicates_eq_nil_iff
  byPlace := duplicates_byPlace names
  first_seen_iff := duplicates_first_seen_iff names

/-- Of all names, of the aliases of groups and of those of targets the repeated ones are found, in
the order in which they are repeated. The complaint about targets names them in that order. -/
theorem repeated_aliases (names : List String) (groups : List Group) (targets : List Target) :
    Repeats names (duplicates names) ∧ Repeats (groupAliases groups) (duplicateAliases groups) ∧
    ∃ ds, Repeats (targets.map (·.aliasName)) ds ∧
      uniqueTargets targets = if ds = [] then none
        else some s!"target org alias used more than once: {Text.commas ds}" := by
  refine ⟨duplicates_repeats names, duplicates_repeats (groupAliases groups),
    duplicates (targets.map (·.aliasName)), duplicates_repeats _, ?_⟩
  unfold uniqueTargets
  split
  · next hnil => rw [hnil, if_pos rfl]
  · next hne => rw [if_neg hne]

def interleaved : List Group :=
  ["deploy", "data", "data", "deploy"].map fun name => ⟨name, name, "about", []⟩

/-- The alias that was seen last is found first. -/
theorem interleaved_aliases :
    groupAliases interleaved = ["deploy", "data", "data", "deploy"] ∧
    duplicateAliases interleaved = ["data", "deploy"] ∧
    ¬ByPlace 0 (groupAliases interleaved) (duplicateAliases interleaved) := by
  have hfound : duplicateAliases interleaved = ["data", "deploy"] := by decide
  refine ⟨rfl, hfound, ?_⟩
  rw [hfound]
  intro h
  have hlt := (List.pairwise_cons.1 h).1 "deploy" (by simp)
  exact absurd hlt (by decide)

end Provision.Recipe
