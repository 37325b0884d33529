import Provision.Proofs.User.DefinitionLaws

/-!
# The texts of a record update

The platform takes the fields of a record as pairs of a name and a text between single quotes, with
a blank between two pairs. Within the quotes a backslash takes the meaning from a quote behind it,
and any other quote closes the text.

`readPairs?` reads such a row. It accepts what is written with a backslash before each quote, and
nothing else, where a text cannot end in a backslash since that takes the meaning from the quote
that should close it (`readRow?_eq_some_iff`). The fields of a definition are written so, and the
name of the user is not.
-/

namespace Provision

namespace User

open Text (singleQuote backslash)

-- ---------------------------------------------------------------------------
-- Reading
-- ---------------------------------------------------------------------------

def readName? : List Char → Option (List Char × List Char)
  | [] => none
  | c :: rest =>
    if c = '=' then some ([], rest) else (readName? rest).map fun r => (c :: r.1, r.2)

def readText? : List Char → Option (List Char × List Char)
  | [] => none
  | [c] => if c = singleQuote then some ([], []) else none
  | c :: d :: rest =>
    if c = singleQuote then some ([], d :: rest)
    else if c = backslash ∧ d = singleQuote then (readText? rest).map fun r => (d :: r.1, r.2)
    else (readText? (d :: rest)).map fun r => (c :: r.1, r.2)

abbrev Pair := List Char × List Char

def readPair? (cs : List Char) : Option (Pair × List Char) :=
  match readName? cs with
  | some (name, c :: rest) =>
    if c = singleQuote then (readText? rest).map fun r => ((name, r.1), r.2) else none
  | _ => none

-- ---------------------------------------------------------------------------
-- What is read
-- ---------------------------------------------------------------------------

variable {cs name text rest : List Char} {c : Char} {pair : Pair} {pairs : List Pair}

def closing (text rest : List Char) : List Char := text.flatMap escapeQuote ++ singleQuote :: rest

/-- Whether a text takes the meaning from a quote that is put behind it. -/
def Gapes (text : List Char) : Prop := text.getLast? = some backslash

instance : Decidable (Gapes text) := inferInstanceAs (Decidable (_ = _))

theorem not_gapes_nil : ¬Gapes [] := nofun

theorem gapes_cons (c : Char) (text : List Char) :
    Gapes (c :: text) ↔ text = [] ∧ c = backslash ∨ Gapes text := by
  unfold Gapes
  cases text <;> simp

theorem closing_nil (rest : List Char) : closing [] rest = singleQuote :: rest := rfl

theorem closing_quote (text rest : List Char) :
    closing (singleQuote :: text) rest = backslash :: singleQuote :: closing text rest := rfl

theorem closing_cons (h : c ≠ singleQuote) (text rest : List Char) :
    closing (c :: text) rest = c :: closing text rest := by
  simp [closing, escapeQuote, h]

theorem head?_closing : (closing text rest).head? = some singleQuote ↔ text = [] := by
  cases text with
  | nil => simp [closing_nil]
  | cons c text =>
    by_cases h : c = singleQuote
    · subst h
      simp [closing_quote, show backslash ≠ singleQuote by decide]
    · simp [closing_cons h, h]

theorem readText?_quote (rest : List Char) : readText? (singleQuote :: rest) = some ([], rest) := by
  cases rest <;> simp [readText?]

theorem readText?_escaped (rest : List Char) :
    readText? (backslash :: singleQuote :: rest) =
      (readText? rest).map fun r => (singleQuote :: r.1, r.2) := by
  simp [readText?, show backslash ≠ singleQuote by decide]

theorem readText?_cons (hc : c ≠ singleQuote) (h : ¬(c = backslash ∧ rest.head? = some singleQuote)) :
    readText? (c :: rest) = (readText? rest).map fun r => (c :: r.1, r.2) := by
  cases rest with
  | nil => simp [readText?, hc]
  | cons d rest =>
    rw [List.head?_cons, Option.some_inj] at h
    rw [readText?, if_neg hc, if_neg h]

theorem readText?_closing (h : ¬Gapes text) : readText? (closing text rest) = some (text, rest) := by
  induction text with
  | nil => exact readText?_quote rest
  | cons c text ih =>
    rw [gapes_cons, not_or] at h
    obtain ⟨hlast, htext⟩ := h
    by_cases hc : c = singleQuote
    · subst hc
      rw [closing_quote, readText?_escaped, ih htext]
      rfl
    · rw [closing_cons hc, readText?_cons hc, ih htext]
      · rfl
      · rwa [head?_closing, and_comm]

theorem closing_of_readText? (h : readText? cs = some (text, rest)) :
    cs = closing text rest ∧ ¬Gapes text := by
  fun_induction readText? cs generalizing text with
  | case1 => cases h
  | case2 =>
    cases h
    exact ⟨rfl, not_gapes_nil⟩
  | case3 => cases h
  | case4 =>
    cases h
    exact ⟨rfl, not_gapes_nil⟩
  | case5 c d cs hc hd ih =>
    obtain ⟨rfl, rfl⟩ := hd
    obtain ⟨⟨text, _⟩, hr, ⟨⟩⟩ := Option.map_eq_some_iff.1 h
    obtain ⟨rfl, htext⟩ := ih hr
    refine ⟨closing_quote .., ?_⟩
    rw [gapes_cons, not_or]
    exact ⟨fun hlast => absurd hlast.2 (by decide), htext⟩
  | case6 c d cs hc hd ih =>
    obtain ⟨⟨text, _⟩, hr, ⟨⟩⟩ := Option.map_eq_some_iff.1 h
    obtain ⟨hcs, htext⟩ := ih hr
    refine ⟨by rw [closing_cons hc, hcs], ?_⟩
    rw [gapes_cons, not_or]
    refine ⟨?_, htext⟩
    -- A backslash that ends the text would stand before the quote that closes it.
    rintro ⟨rfl, rfl⟩
    rw [closing_nil, List.cons.injEq] at hcs
    exact hd ⟨rfl, hcs.1⟩

/-- What is read as a text is what is written of one that does not gape. -/
theorem readText?_eq_some_iff :
    readText? cs = some (text, rest) ↔ cs = closing text rest ∧ ¬Gapes text :=
  ⟨closing_of_readText?, fun ⟨hcs, h⟩ => hcs ▸ readText?_closing h⟩

theorem readName?_eq_some_iff :
    readName? cs = some (name, rest) ↔ cs = name ++ '=' :: rest ∧ '=' ∉ name := by
  induction cs generalizing name with
  | nil => simp [readName?]
  | cons c cs ih =>
    unfold readName?
    split
    · next hc =>
      subst hc
      cases name with
      | nil => simp [eq_comm]
      | cons d name => simp; grind
    · next hc =>
      cases name with
      | nil => simp [hc]
      | cons d name =>
        simp only [Option.map_eq_some_iff, Prod.exists]
        grind

structure Pair.Enclosed (pair : Pair) : Prop where
  name : '=' ∉ pair.1
  text : ¬Gapes pair.2

def Pair.before (pair : Pair) (rest : List Char) : List Char :=
  pair.1 ++ '=' :: singleQuote :: closing pair.2 rest

theorem readPair?_before (h : pair.Enclosed) (rest : List Char) :
    readPair? (pair.before rest) = some (pair, rest) := by
  have hname : readName? (pair.before rest) = some (pair.1, singleQuote :: closing pair.2 rest) :=
    readName?_eq_some_iff.2 ⟨rfl, h.name⟩
  rw [readPair?, hname]
  simp [readText?_closing h.text]

theorem before_of_readPair? (h : readPair? cs = some (pair, rest)) :
    cs = pair.before rest ∧ pair.Enclosed := by
  unfold readPair? at h
  split at h
  · next name c rest' hname =>
    split at h
    · next hc =>
      subst hc
      obtain ⟨⟨text, rest''⟩, htext, ⟨⟩⟩ := Option.map_eq_some_iff.1 h
      obtain ⟨rfl, hsign⟩ := readName?_eq_some_iff.1 hname
      obtain ⟨rfl, hshut⟩ := readText?_eq_some_iff.1 htext
      exact ⟨rfl, hsign, hshut⟩
    · cases h
  · cases h

theorem before_append (pair : Pair) (rest : List Char) :
    pair.before rest = pair.before [] ++ rest := by
  simp [Pair.before, closing]

theorem length_before (pair : Pair) (rest : List Char) :
    rest.length < (pair.before rest).length := by
  simp [Pair.before, closing]
  omega

-- ---------------------------------------------------------------------------
-- Rows of pairs
-- ---------------------------------------------------------------------------

def readRow? (cs : List Char) : Option (List Pair) :=
  match _h : readPair? cs with
  | none => none
  | some (pair, []) => some [pair]
  | some (pair, c :: rest) =>
    if c = ' ' then (readRow? rest).map (pair :: ·) else none
termination_by cs.length
decreasing_by
  obtain ⟨rfl, -⟩ := before_of_readPair? ‹_›
  refine Nat.lt_of_le_of_lt ?_ (length_before _ _)
  exact Nat.le_succ _

def row (pairs : List Pair) : List Char := Value.joinChars [' '] (pairs.map (·.before []))

theorem row_one (pair : Pair) : row [pair] = pair.before [] := rfl

theorem row_cons (h : pairs ≠ []) (pair : Pair) :
    row (pair :: pairs) = pair.before (' ' :: row pairs) := by
  cases pairs with
  | nil => exact absurd rfl h
  | cons next pairs =>
    rw [before_append]
    simp [row, Value.joinChars]

theorem readRow?_last (h : pair.Enclosed) : readRow? (pair.before []) = some [pair] := by
  have hpair := readPair?_before h []
  rw [readRow?]
  split <;> simp_all

theorem readRow?_next (h : pair.Enclosed) (rest : List Char) :
    readRow? (pair.before (' ' :: rest)) = (readRow? rest).map (pair :: ·) := by
  have hpair := readPair?_before h (' ' :: rest)
  rw [readRow?]
  split <;> simp_all

theorem row_of_readRow? (h : readRow? cs = some pairs) :
    pairs ≠ [] ∧ cs = row pairs ∧ ∀ pair ∈ pairs, pair.Enclosed := by
  fun_induction readRow? cs generalizing pairs with
  | case1 => cases h
  | case2 cs pair hpair =>
    cases h
    obtain ⟨rfl, henclosed⟩ := before_of_readPair? hpair
    exact ⟨List.cons_ne_nil _ _, rfl, List.forall_mem_singleton.2 henclosed⟩
  | case3 cs pair rest hpair ih =>
    obtain ⟨pairs, hpairs, rfl⟩ := Option.map_eq_some_iff.1 h
    obtain ⟨hne, rfl, hall⟩ := ih hpairs
    obtain ⟨rfl, henclosed⟩ := before_of_readPair? hpair
    exact ⟨List.cons_ne_nil _ _, (row_cons hne pair).symm, List.forall_mem_cons.2 ⟨henclosed, hall⟩⟩
  | case4 => cases h

theorem readRow?_row (hne : pairs ≠ []) (h : ∀ pair ∈ pairs, pair.Enclosed) :
    readRow? (row pairs) = some pairs := by
  induction pairs with
  | nil => exact absurd rfl hne
  | cons pair pairs ih =>
    obtain ⟨hpair, hpairs⟩ := List.forall_mem_cons.1 h
    by_cases hnil : pairs = []
    · subst hnil
      exact readRow?_last hpair
    · rw [row_cons hnil, readRow?_next hpair, ih hnil hpairs]
      rfl

/-- What is read as a row is what is written of pairs that can be told apart. -/
theorem readRow?_eq_some_iff :
    readRow? cs = some pairs ↔ pairs ≠ [] ∧ cs = row pairs ∧ ∀ pair ∈ pairs, pair.Enclosed :=
  ⟨row_of_readRow?, fun ⟨hne, hcs, h⟩ => hcs ▸ readRow?_row hne h⟩

def Pair.texts (pair : Pair) : String × String := (String.ofList pair.1, String.ofList pair.2)

theorem Pair.texts_inj (pair pair' : Pair) (h : pair.texts = pair'.texts) : pair = pair' := by
  simpa [Pair.texts, String.ofList_inj, Prod.ext_iff] using h

def readPairs? (text : String) : Option (List (String × String)) :=
  if text = "" then some [] else (readRow? text.toList).map fun pairs => pairs.map Pair.texts

theorem readPairs?_eq_some_iff {text : String} (h : text ≠ "") :
    readPairs? text = some (pairs.map Pair.texts) ↔ readRow? text.toList = some pairs := by
  rw [readPairs?, if_neg h, Option.map_eq_some_iff]
  simp only [List.map_inj_right Pair.texts_inj]
  grind

-- ---------------------------------------------------------------------------
-- Fields
-- ---------------------------------------------------------------------------

variable {definition : Entries}

def fieldPairs (definition : Entries) : List Pair :=
  (recordFields definition).map fun e => (e.1.toList, (fieldText e.2).toList)

theorem toList_recordValues (definition : Entries) :
    (recordValues definition).toList = row (fieldPairs definition) := by
  simp [recordValues, row, fieldPairs, pairChars, Pair.before, closing, Function.comp_def]

theorem readPairs?_recordValues_iff (h : ∀ e ∈ recordFields definition, '=' ∉ e.1.toList) :
    readPairs? (recordValues definition) =
        some ((recordFields definition).map fun e => (e.1, fieldText e.2)) ↔
      ∀ e ∈ recordFields definition, ¬Gapes (fieldText e.2).toList := by
  have hpairs : (recordFields definition).map (fun e => (e.1, fieldText e.2)) =
      (fieldPairs definition).map Pair.texts := by
    simp [fieldPairs, Pair.texts]
  by_cases hnone : recordFields definition = []
  · simp [hnone, recordValues, readPairs?, Value.joinChars]
  · have hne : fieldPairs definition ≠ [] := by simpa [fieldPairs] using hnone
    have htext : recordValues definition ≠ "" := by
      rw [ne_eq, recordValues_eq_empty_iff]
      simpa [recordFields, Entries.keys] using hnone
    rw [hpairs, readPairs?_eq_some_iff htext, readRow?_eq_some_iff, toList_recordValues]
    constructor
    · rintro ⟨-, -, hall⟩ e he
      exact (hall _ (List.mem_map_of_mem he)).text
    · intro hall
      refine ⟨hne, rfl, ?_⟩
      intro pair hpair
      obtain ⟨e, he, rfl⟩ := List.mem_map.1 hpair
      exact ⟨h e he, hall e he⟩

theorem flatMap_escapeQuote_eq_self_iff : text.flatMap escapeQuote = text ↔ singleQuote ∉ text := by
  induction text with
  | nil => simp
  | cons c text ih =>
    by_cases hc : c = singleQuote
    · subst hc
      simp [escapeQuote, show backslash ≠ singleQuote by decide]
    · simp [escapeQuote, hc, ih, Ne.symm hc]

theorem readPairs?_bare_iff {name text : String} (h : '=' ∉ name.toList) :
    readPairs? s!"{name}='{text}'" = some [(name, text)] ↔
      singleQuote ∉ text.toList ∧ ¬Gapes text.toList := by
  have hchars : s!"{name}='{text}'".toList =
      name.toList ++ '=' :: singleQuote :: (text.toList ++ [singleQuote]) := by
    simp [ToString.toString, singleQuote]
  have hne : s!"{name}='{text}'" ≠ "" := by
    intro hempty
    simp [hempty] at hchars
  have hpair : [(name, text)] = [((name.toList, text.toList) : Pair)].map Pair.texts := by
    simp [Pair.texts]
  rw [hpair, readPairs?_eq_some_iff hne, readRow?_eq_some_iff, hchars, row_one]
  have hwritten : name.toList ++ '=' :: singleQuote :: (text.toList ++ [singleQuote]) =
      Pair.before (name.toList, text.toList) [] ↔ singleQuote ∉ text.toList := by
    rw [← flatMap_escapeQuote_eq_self_iff]
    simp [Pair.before, closing, eq_comm]
  rw [hwritten]
  constructor
  · rintro ⟨-, hquote, hall⟩
    exact ⟨hquote, (List.forall_mem_singleton.1 hall).text⟩
  · rintro ⟨hquote, hshut⟩
    exact ⟨List.cons_ne_nil _ _, hquote, List.forall_mem_singleton.2 ⟨h, hshut⟩⟩

end User

end Provision
