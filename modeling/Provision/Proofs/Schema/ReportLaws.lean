import Mathlib.Data.List.Nodup
import Provision.Proofs.Schema.ReaderLaws
import Provision.Text.Quoted

/-!
# What a reader reports

For each way to put readers together the laws of this module say which keys are reported
as missing (`Misses`), and that no place is reported twice (`Tidy`). A tidy report also
names places without quotes, so that an entry can be told apart into its place and its text
(`entry_inj`), and words its rules in a way that is given.

A tidy report has one entry for each key that is missing (`Checked.Tidy.missing_entries`).
-/

namespace Provision.Schema

open Text (singleQuote)

variable {α β : Type} {es : Entries} {key second : String} {r : Reader α} {v w : Value}
  {vs : List Value} {n : Need} {path path' : List String} {text text' : String} {p : Problem}
  {R : String → Prop}

-- ---------------------------------------------------------------------------
-- Texts
-- ---------------------------------------------------------------------------

theorem append_ne_append {a b : String} (hab : ¬a.toList <+: b.toList)
    (hba : ¬b.toList <+: a.toList) (x y : String) : a ++ x ≠ b ++ y := by
  intro heq
  have hlists := congrArg String.toList heq
  rw [String.toList_append, String.toList_append] at hlists
  have ha : a.toList <+: b.toList ++ y.toList := ⟨_, hlists⟩
  rcases List.prefix_or_prefix_of_prefix ha ⟨_, rfl⟩ with h | h
  · exact hab h
  · exact hba h

theorem append_ne_text {a b : String} (hab : ¬a.toList <+: b.toList)
    (hba : ¬b.toList <+: a.toList) (x : String) : a ++ x ≠ b :=
  String.append_empty (s := b) ▸ append_ne_append hab hba x ""

def Unquoted (path : List String) : Prop := ∀ word ∈ path, singleQuote ∉ word.toList

instance : Decidable (Unquoted path) := inferInstanceAs (Decidable (∀ _ ∈ _, _))

@[simp] theorem unquoted_nil : Unquoted [] := List.forall_mem_nil _

theorem unquoted_cons : Unquoted (key :: path) ↔ singleQuote ∉ key.toList ∧ Unquoted path :=
  List.forall_mem_cons

theorem unquoted_toString (i : Nat) : singleQuote ∉ (toString i).toList := by
  intro hq
  have hdigits : (toString i).toList = Nat.toDigits 10 i := Nat.toList_repr
  have hdigit := Nat.isDigit_of_mem_toDigits (by decide) (by decide) (hdigits ▸ hq)
  exact absurd hdigit (by decide)

theorem Unquoted.place (h : Unquoted path) : singleQuote ∉ (".".intercalate path).toList := by
  induction path with
  | nil => simp
  | cons word rest ih =>
    obtain ⟨hword, hrest⟩ := unquoted_cons.1 h
    cases rest with
    | nil => simpa using hword
    | cons next rest =>
      rw [String.intercalate_cons_cons]
      simp only [String.toList_append, List.mem_append, not_or]
      exact ⟨⟨hword, by decide⟩, ih hrest⟩

theorem place_ne_empty {rest : List String} (h : key ≠ "") :
    ".".intercalate (key :: rest) ≠ "" := by
  cases rest with
  | nil => simpa using h
  | cons next rest => simp [String.intercalate_cons_cons]

def entry (path : List String) (text : String) : String :=
  "'" ++ ".".intercalate path ++ "': " ++ text

theorem entry_toList (path : List String) (text : String) :
    (entry path text).toList = singleQuote :: ((".".intercalate path).toList ++
      singleQuote :: (": ".toList ++ text.toList)) := by
  simp [entry, singleQuote]

/-- The place ends at the second quote of an entry. -/
theorem entry_inj (h : Unquoted path) (h' : Unquoted path')
    (heq : entry path text = entry path' text') :
    ".".intercalate path = ".".intercalate path' ∧ text = text' := by
  have hlists := congrArg String.toList heq
  rw [entry_toList, entry_toList, List.cons_inj_right] at hlists
  have hlength := congrArg (List.idxOf singleQuote) hlists
  rw [List.idxOf_append_of_notMem h.place, List.idxOf_append_of_notMem h'.place,
    List.idxOf_cons_self, List.idxOf_cons_self] at hlength
  obtain ⟨hplace, hrest⟩ := List.append_inj hlists hlength
  exact ⟨String.toList_inj.1 hplace,
    String.toList_inj.1 (List.append_cancel_left (List.tail_eq_of_cons_eq hrest))⟩

theorem Problem.text_eq_entry (h : p.place ≠ "") : p.text = entry p.path p.need.text := by
  rw [Problem.text, if_neg fun hp => h hp.1]
  rfl

-- ---------------------------------------------------------------------------
-- What is missing
-- ---------------------------------------------------------------------------

namespace Checked

def Misses (c : Checked α) (path : List String) : Prop := ⟨path, .present⟩ ∈ c.problems

theorem not_misses_ok {a : α} : ¬Misses (.ok a) path := by simp [Misses, problems]

theorem not_misses_need (h : n ≠ .present) : ¬Misses (need n : Checked α) path := by
  simp [Misses, need, problems, Ne.symm h]

theorem misses_and {f : Checked (α → β)} {c : Checked α} :
    (f.and c).Misses path ↔ f.Misses path ∨ c.Misses path := by
  simp [Misses, problems_and]

theorem misses_under {c : Checked α} :
    (c.under key).Misses path ↔ ∃ rest, path = key :: rest ∧ c.Misses rest := by
  simp only [Misses, problems_under, List.mem_map]
  constructor
  · rintro ⟨⟨rest, n⟩, hp, heq⟩
    cases heq
    exact ⟨rest, rfl, hp⟩
  · rintro ⟨rest, rfl, hp⟩
    exact ⟨_, hp, rfl⟩

theorem misses_ensure {c : Checked α} {rule : α → Option String} :
    (c.ensure rule).Misses path ↔ c.Misses path := by
  cases c with
  | error ps => rfl
  | ok a => cases h : rule a <;> simp [ensure, h, Misses, problems]

end Checked

theorem misses_required :
    (required es key second r).Misses path ↔
      (Lacks es key second ∧ path = [key]) ∨
        ∃ used v rest, Holds es key second used v ∧ path = used :: rest ∧ (r v).Misses rest := by
  rcases lacks_or_holds es key second with h | ⟨used, v, h⟩
  · rw [required_of_lacks h]
    constructor
    · intro hp
      simp only [Checked.Misses, Checked.problems, List.mem_singleton, Problem.mk.injEq,
        and_true] at hp
      exact .inl ⟨h, hp⟩
    · rintro (⟨-, rfl⟩ | ⟨_, _, _, h', -⟩)
      · exact List.mem_singleton_self _
      · exact absurd h h'.not_lacks
  · rw [required_of_holds h, Checked.misses_under]
    constructor
    · rintro ⟨rest, rfl, hp⟩
      exact .inr ⟨used, v, rest, h, rfl, hp⟩
    · rintro (⟨h', -⟩ | ⟨_, _, rest, h', rfl, hp⟩)
      · exact absurd h' h.not_lacks
      · obtain ⟨rfl, rfl⟩ := h.unique h'
        exact ⟨rest, rfl, hp⟩

theorem misses_withDefault {a : α} :
    (withDefault es key second r a).Misses path ↔
      ∃ used v rest, Holds es key second used v ∧ path = used :: rest ∧ (r v).Misses rest := by
  rcases lacks_or_holds es key second with h | ⟨used, v, h⟩
  · rw [withDefault_of_lacks h]
    refine iff_of_false Checked.not_misses_ok ?_
    rintro ⟨_, _, _, h', -⟩
    exact h'.not_lacks h
  · rw [withDefault_of_holds h, Checked.misses_under]
    constructor
    · rintro ⟨rest, rfl, hp⟩
      exact ⟨used, v, rest, h, rfl, hp⟩
    · rintro ⟨_, _, rest, h', rfl, hp⟩
      obtain ⟨rfl, rfl⟩ := h.unique h'
      exact ⟨rest, rfl, hp⟩

theorem misses_required_of_silent (h : ∀ v path, ¬(r v).Misses path) :
    (required es key second r).Misses path ↔ Lacks es key second ∧ path = [key] := by
  simp [misses_required, h]

theorem not_misses_withDefault {a : α} (h : ∀ v path, ¬(r v).Misses path) :
    ¬(withDefault es key second r a).Misses path := by
  simp [misses_withDefault, h]

theorem misses_record {name : String} {fields : Entries → Checked α} :
    (record name fields v).Misses path ↔ ∃ es, v = .dict es ∧ (fields es).Misses path := by
  cases v <;> simp [record, need, Checked.Misses, Checked.problems]

theorem problems_map {f : α → β} {c : Checked α} : Checked.problems (f <$> c) = c.problems := by
  cases c <;> rfl

theorem misses_itemsFrom {i : Nat} :
    (itemsFrom r i vs).Misses path ↔ ∃ (j : Nat) (w : Value) (rest : List String),
      vs[j]? = some w ∧ path = toString (i + j) :: rest ∧ (r w).Misses rest := by
  induction vs generalizing i with
  | nil => simp [itemsFrom, Checked.not_misses_ok]
  | cons v vs ih =>
    have hfirst : (List.cons <$> Checked.under (toString i) (r v)).Misses path ↔
        ∃ rest, path = toString i :: rest ∧ (r v).Misses rest := by
      rw [← Checked.misses_under, Checked.Misses, problems_map, Checked.Misses]
    rw [itemsFrom, Checked.misses_and, hfirst, ih]
    constructor
    · rintro (⟨rest, hpath, hp⟩ | ⟨j, w, rest, hw, hpath, hp⟩)
      · exact ⟨0, v, rest, rfl, hpath, hp⟩
      · exact ⟨j + 1, w, rest, hw, by rw [hpath, Nat.add_right_comm, Nat.add_assoc], hp⟩
    · rintro ⟨j, w, rest, hw, hpath, hp⟩
      cases j with
      | zero =>
        cases hw
        exact .inl ⟨rest, hpath, hp⟩
      | succ j => exact .inr ⟨j, w, rest, hw, by rw [hpath, Nat.add_right_comm, Nat.add_assoc], hp⟩

theorem misses_list :
    (list r v).Misses path ↔ ∃ (vs : List Value) (i : Nat) (w : Value) (rest : List String),
      v = .list vs ∧ vs[i]? = some w ∧ path = toString i :: rest ∧ (r w).Misses rest := by
  cases v with
  | list vs => simp [list, misses_itemsFrom]
  | _ => simp [list, Checked.not_misses_need]

-- ---------------------------------------------------------------------------
-- Where problems are
-- ---------------------------------------------------------------------------

structure Problem.Fair (R : String → Prop) (p : Problem) : Prop where
  unquoted : Unquoted p.path
  rule : ∀ text, p.need = .rule text → R text

theorem Problem.Fair.under (h : p.Fair R) (hkey : singleQuote ∉ key.toList) :
    (p.under key).Fair R :=
  ⟨unquoted_cons.2 ⟨hkey, h.unquoted⟩, h.rule⟩

namespace Checked

def places (c : Checked α) : List (List String) := c.problems.map (·.path)

theorem places_and {f : Checked (α → β)} {c : Checked α} :
    (f.and c).places = f.places ++ c.places := by
  simp [places, problems_and]

theorem places_under {c : Checked α} : (c.under key).places = c.places.map (key :: ·) := by
  simp [places, problems_under, Problem.under]

/-- No two problems of a value have one place, and each is fair. -/
structure Tidy (R : String → Prop) (c : Checked α) : Prop where
  nodup : c.places.Nodup
  fair : ∀ p ∈ c.problems, p.Fair R

structure TidyBelow (R : String → Prop) (keys : List String) (c : Checked α) : Prop where
  nodup : c.places.Nodup
  below : ∀ p ∈ c.problems, ∃ key ∈ keys, ∃ q : Problem, p = q.under key ∧ q.Fair R

theorem tidy_ok {a : α} : Tidy R (.ok a) := ⟨List.nodup_nil, by simp [problems]⟩

theorem tidy_need (h : ∀ text, n ≠ .rule text) : Tidy R (need n : Checked α) := by
  refine ⟨List.nodup_singleton _, fun p hp => ?_⟩
  obtain rfl := List.mem_singleton.1 hp
  exact ⟨by simp, fun text ht => absurd ht (h text)⟩

theorem Tidy.ensure {c : Checked α} {rule : α → Option String} (h : c.Tidy R)
    (hrule : ∀ a text, c = .ok a → rule a = some text → R text) : (c.ensure rule).Tidy R := by
  cases c with
  | error ps => exact h
  | ok a =>
    cases ht : rule a with
    | none => simpa [Checked.ensure, ht] using h
    | some text =>
      simp only [Checked.ensure, ht]
      refine ⟨List.nodup_singleton _, fun p hp => ?_⟩
      obtain rfl := List.mem_singleton.1 hp
      refine ⟨by simp, fun text' ht' => ?_⟩
      cases ht'
      exact hrule a text rfl ht

theorem Tidy.under {c : Checked α} {keys : List String} (h : c.Tidy R) (hkey : key ∈ keys) :
    (c.under key).TidyBelow R keys := by
  constructor
  · rw [places_under]
    exact h.nodup.map fun _ _ => List.tail_eq_of_cons_eq
  · rw [problems_under]
    intro p hp
    obtain ⟨q, hq, rfl⟩ := List.mem_map.1 hp
    exact ⟨key, hkey, q, rfl, h.fair q hq⟩

theorem tidyBelow_ok {a : α} : TidyBelow R [] (.ok a) :=
  ⟨List.nodup_nil, by simp [problems]⟩

theorem TidyBelow.map {f : α → β} {c : Checked α} {keys : List String} (h : c.TidyBelow R keys) :
    TidyBelow R keys (f <$> c) := by
  refine ⟨?_, ?_⟩
  · rw [places, problems_map]
    exact h.nodup
  · rw [problems_map]
    exact h.below

theorem TidyBelow.and {f : Checked (α → β)} {c : Checked α} {keys more : List String}
    (hf : f.TidyBelow R keys) (hc : c.TidyBelow R more) (hkeys : ∀ key ∈ keys, key ∉ more) :
    (f.and c).TidyBelow R (keys ++ more) := by
  constructor
  · -- A place begins with the key that it is below, and no key is on both sides.
    rw [places_and]
    refine hf.nodup.append hc.nodup fun path hleft hright => ?_
    obtain ⟨p, hp, rfl⟩ := List.mem_map.1 hleft
    obtain ⟨q, hq, heq⟩ := List.mem_map.1 hright
    obtain ⟨key, hkey, p', rfl, -⟩ := hf.below p hp
    obtain ⟨key', hkey', q', rfl, -⟩ := hc.below q hq
    cases List.head_eq_of_cons_eq heq
    exact hkeys key hkey hkey'
  · rw [problems_and, List.forall_mem_append]
    constructor
    · intro p hp
      obtain ⟨key, hkey, h⟩ := hf.below p hp
      exact ⟨key, List.mem_append_left _ hkey, h⟩
    · intro p hp
      obtain ⟨key, hkey, h⟩ := hc.below p hp
      exact ⟨key, List.mem_append_right _ hkey, h⟩

theorem TidyBelow.place_ne_empty {c : Checked α} {keys : List String} (h : c.TidyBelow R keys)
    (hkeys : ∀ key ∈ keys, key ≠ "") : ∀ p ∈ c.problems, p.place ≠ "" := by
  intro p hp
  obtain ⟨key, hkey, q, rfl, -⟩ := h.below p hp
  exact Schema.place_ne_empty (hkeys key hkey)

theorem TidyBelow.tidy {c : Checked α} {keys : List String} (h : c.TidyBelow R keys)
    (hkeys : Unquoted keys) : c.Tidy R := by
  refine ⟨h.nodup, fun p hp => ?_⟩
  obtain ⟨key, hkey, q, rfl, hq⟩ := h.below p hp
  exact hq.under (hkeys key hkey)

end Checked

open Checked (Tidy TidyBelow)

theorem tidy_required (h : ∀ used v, Holds es key second used v → (r v).Tidy R) :
    (required es key second r).TidyBelow R [key, second] := by
  rcases lacks_or_holds es key second with hl | ⟨used, v, hv⟩
  · rw [required_of_lacks hl]
    refine ⟨List.nodup_singleton _, fun p hp => ?_⟩
    obtain rfl := List.mem_singleton.1 hp
    exact ⟨key, by simp, ⟨[], .present⟩, rfl, by simp, by simp⟩
  · rw [required_of_holds hv]
    exact (h used v hv).under hv.used_mem

theorem tidy_withDefault {a : α} (h : ∀ used v, Holds es key second used v → (r v).Tidy R) :
    (withDefault es key second r a).TidyBelow R [key, second] := by
  rcases lacks_or_holds es key second with hl | ⟨used, v, hv⟩
  · rw [withDefault_of_lacks hl]
    exact ⟨List.nodup_nil, by simp [Checked.problems]⟩
  · rw [withDefault_of_holds hv]
    exact (h used v hv).under hv.used_mem

theorem tidy_itemsFrom {i : Nat} (h : ∀ v ∈ vs, (r v).Tidy R) :
    (itemsFrom r i vs).TidyBelow R ((List.range' i vs.length).map toString) := by
  induction vs generalizing i with
  | nil => exact Checked.tidyBelow_ok
  | cons v vs ih =>
    obtain ⟨hv, hvs⟩ := List.forall_mem_cons.1 h
    have hfirst : TidyBelow R [toString i] (List.cons <$> Checked.under (toString i) (r v)) :=
      (hv.under (List.mem_singleton_self _)).map
    -- A position comes again in no later item.
    have hlater : ∀ word ∈ [toString i],
        word ∉ (List.range' (i + 1) vs.length).map toString := by
      intro word hword hlater
      obtain rfl := List.mem_singleton.1 hword
      obtain ⟨j, hj, heq⟩ := List.mem_map.1 hlater
      have hji : j = i := by
        have := congrArg (fun s => Nat.ofDigitChars 10 s.toList 0) heq
        simpa [Nat.toString_eq_ofList_toDigits] using this
      have := (List.mem_range'_1.1 hj).1
      omega
    exact hfirst.and (ih hvs) hlater

theorem tidy_list (h : ∀ vs, v = .list vs → ∀ w ∈ vs, (r w).Tidy R) : (list r v).Tidy R := by
  cases v with
  | list vs =>
    refine (tidy_itemsFrom (h vs rfl)).tidy fun key hkey => ?_
    obtain ⟨i, -, rfl⟩ := List.mem_map.1 hkey
    exact unquoted_toString i
  | _ => exact Checked.tidy_need (by simp)

theorem tidy_record {name : String} {fields : Entries → Checked α}
    (h : ∀ es, v = .dict es → (fields es).Tidy R) : (record name fields v).Tidy R := by
  cases v with
  | dict es => exact h es rfl
  | _ => exact Checked.tidy_need (by simp)

-- ---------------------------------------------------------------------------
-- Plain values
-- ---------------------------------------------------------------------------

/-- A reader that looks at a value as a whole. It asks for no key and knows no rules. -/
def Plain (r : Reader α) : Prop :=
  ∀ v, (∃ a, r v = .ok a) ∨ ∃ n : Need, r v = need n ∧ n ≠ .present ∧ ∀ text, n ≠ .rule text

namespace Plain

theorem not_misses (h : Plain r) : ¬(r v).Misses path := by
  rcases h v with ⟨a, ha⟩ | ⟨n, hn, hpresent, -⟩
  · rw [ha]
    exact Checked.not_misses_ok
  · rw [hn]
    exact Checked.not_misses_need hpresent

theorem tidy (h : Plain r) : (r v).Tidy R := by
  rcases h v with ⟨a, ha⟩ | ⟨n, hn, -, hrule⟩
  · rw [ha]
    exact Checked.tidy_ok
  · rw [hn]
    exact Checked.tidy_need hrule

end Plain

theorem plain_string : Plain string := by
  intro v
  cases v <;> simp [string, need]

theorem plain_nonEmpty : Plain nonEmpty := by
  intro v
  cases v with
  | str s =>
    simp only [nonEmpty, looked]
    split
    · exact .inr ⟨_, rfl, by simp⟩
    · split
      · exact .inr ⟨_, rfl, by simp⟩
      · exact .inl ⟨s, rfl⟩
  | _ => exact .inr ⟨_, rfl, by simp⟩

theorem plain_strictTruth : Plain strictTruth := by
  intro v
  cases v <;> simp [strictTruth, need]

theorem plain_dict : Plain dict := by
  intro v
  cases v <;> simp [dict, need]

theorem Plain.optional (h : Plain r) : Plain (Schema.optional r) := by
  intro v
  have hsome : (∃ a, some <$> r v = .ok a) ∨ ∃ n : Need,
      some <$> r v = (need n : Checked (Option α)) ∧ n ≠ .present ∧ ∀ text, n ≠ .rule text := by
    rcases h v with ⟨a, ha⟩ | ⟨n, hn, hneeds⟩
    · exact .inl ⟨some a, by rw [ha]; rfl⟩
    · exact .inr ⟨n, by rw [hn]; rfl, hneeds⟩
  cases v with
  | null => exact .inl ⟨none, rfl⟩
  | _ => exact hsome

theorem Plain.tidy_list (h : Plain r) : (list r v).Tidy R := Schema.tidy_list fun _ _ _ _ => h.tidy

theorem Plain.not_misses_list (h : Plain r) : ¬(list r v).Misses path := by
  simp [misses_list, h.not_misses]

-- ---------------------------------------------------------------------------
-- Entries for missing keys
-- ---------------------------------------------------------------------------

def missingText : String := "missing required key"

def reportsMissing (text : String) : Bool :=
  match text.toList with
  | [] => false
  | first :: rest =>
    first = singleQuote &&
      rest.dropWhile (· ≠ singleQuote) = singleQuote :: ": ".toList ++ missingText.toList

theorem reportsMissing_entry (h : Unquoted path) :
    reportsMissing (entry path text) = decide (text = missingText) := by
  have hplace : ∀ c ∈ (".".intercalate path).toList, decide (c ≠ singleQuote) = true := by
    intro c hc
    have hne : c ≠ singleQuote := fun heq => h.place (heq ▸ hc)
    simpa using hne
  have hrest : ((".".intercalate path).toList ++
      singleQuote :: (": ".toList ++ text.toList)).dropWhile (· ≠ singleQuote) =
        singleQuote :: ": ".toList ++ text.toList := by
    rw [List.dropWhile_append_of_pos hplace, List.dropWhile_cons_of_neg (by simp)]
    rfl
  simp only [reportsMissing, entry_toList, hrest, decide_true, Bool.true_and]
  simp [String.toList_inj]

example : reportsMissing "'options': used more than once: x': missing required key" = false := by
  decide +kernel

theorem need_text_eq_iff (h : ∀ text, n = .rule text → text ≠ missingText) :
    n.text = missingText ↔ n = .present := by
  cases n with
  | present => exact ⟨fun _ => rfl, fun _ => rfl⟩
  | rule text => exact iff_of_false (h text rfl) (by simp)
  | record name => exact iff_of_false (append_ne_text (by decide) (by decide) _) (by simp)
  | oneOf options => exact iff_of_false (append_ne_text (by decide) (by decide) _) (by simp)
  | _ => exact iff_of_false (by unfold Need.text missingText; decide) (by simp)

theorem Problem.Fair.reportsMissing_text (hfair : p.Fair R) (hplace : p.place ≠ "")
    (hrule : ∀ text, R text → text ≠ missingText) :
    reportsMissing p.text = decide (p.need = .present) := by
  rw [p.text_eq_entry hplace, reportsMissing_entry hfair.unquoted]
  exact decide_eq_decide.2 (need_text_eq_iff fun text hn => hrule text (hfair.rule text hn))

/-- The entries that say that a key is missing are one for each key that is. -/
theorem Checked.Tidy.missing_entries {c : Checked α} (h : c.Tidy R)
    (hplaces : ∀ p ∈ c.problems, p.place ≠ "") (hrule : ∀ text, R text → text ≠ missingText) :
    ∃ paths : List (List String), paths.Nodup ∧ (∀ path, path ∈ paths ↔ c.Misses path) ∧
      (c.problems.map Problem.text).filter reportsMissing =
        paths.map fun path => entry path missingText := by
  set missing := c.problems.filter fun p => decide (p.need = .present)
  refine ⟨missing.map (·.path), ?_, fun path => ?_, ?_⟩
  · exact h.nodup.sublist (List.filter_sublist.map _)
  · rw [Checked.Misses, List.mem_map]
    constructor
    · rintro ⟨⟨_, n⟩, hp, rfl⟩
      obtain ⟨hp, hn⟩ := List.mem_filter.1 hp
      obtain rfl : n = .present := by simpa using hn
      exact hp
    · exact fun hp => ⟨_, List.mem_filter.2 ⟨hp, by simp⟩, rfl⟩
  · have hreports : ∀ p ∈ c.problems, (reportsMissing ∘ Problem.text) p =
        decide (p.need = .present) := fun p hp =>
      (h.fair p hp).reportsMissing_text (hplaces p hp) hrule
    rw [List.filter_map, List.filter_congr hreports, List.map_map]
    refine List.map_congr_left fun p hp => ?_
    obtain ⟨hp, hn⟩ := List.mem_filter.1 hp
    obtain hn : p.need = .present := by simpa using hn
    show p.text = entry p.path missingText
    rw [p.text_eq_entry (hplaces p hp), hn]
    rfl

end Provision.Schema
