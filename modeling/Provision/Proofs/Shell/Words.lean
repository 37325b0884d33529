import Mathlib.Data.List.Forall2
import Provision.Shell.Quote

/-!
# The words of a command line

How a shell takes a line apart into words. Blanks separate words. Between single
quotes everything stands for itself. Between double quotes a backslash takes the
meaning from those characters that have one there, and outside quotes from any
character.

`words?` reads lines that are nothing but words. A character that makes a shell do
more than split, such as an unquoted semicolon or a dollar sign between double
quotes, leaves a line without words. So does a quote that nothing closes.

`Spells cs w` says that the characters `cs` add the text `w` to the word they stand
in, and `Reads cs ws` that they are, between blanks, the words `ws`. What is quoted
spells itself (`spells_quote`).
-/

namespace Provision.Shell

open Text (singleQuote doubleQuote backslash)

inductive Quoting where
  | bare
  | single
  | double
  /-- Behind a backslash. -/
  | escaped
  /-- Behind a backslash between double quotes. -/
  | doubleEscaped
  deriving DecidableEq, Repr

def isSeparator (c : Char) : Bool := c = ' ' || c = '\t'

/-- Characters that start an expansion, also between double quotes. -/
def expanding : List Char := ['$', '\x60']

/-- Characters that mean more to a shell than themselves where nothing quotes them:
they end commands, redirect, expand, match names of files or begin a comment. -/
def special : List Char :=
  ['|', '&', ';', '<', '>', '(', ')', '\n', '*', '?', '[', ']', '#', '~', '!', '\x7b', '\x7d',
    '^'] ++ expanding

/-- What a backslash between double quotes takes the meaning from. -/
def escapable : List Char := [doubleQuote, backslash] ++ expanding

structure Reading where
  quoting : Quoting := .bare
  word : Option (List Char) := none
  words : List (List Char) := []
  deriving DecidableEq, Repr

namespace Reading

def extend (r : Reading) (cs : List Char) : Reading :=
  { r with word := some (r.word.getD [] ++ cs) }

def closed (r : Reading) : Reading :=
  { r with word := none, words := r.words ++ r.word.toList }

def step? (r : Reading) (c : Char) : Option Reading :=
  match r.quoting with
  | .bare =>
    if c = singleQuote then some { r.extend [] with quoting := .single }
    else if c = doubleQuote then some { r.extend [] with quoting := .double }
    else if c = backslash then some { r with quoting := .escaped }
    else if isSeparator c then some r.closed
    else if c ∈ special then none
    else some (r.extend [c])
  | .single => some (if c = singleQuote then { r with quoting := .bare } else r.extend [c])
  | .double =>
    if c = doubleQuote then some { r with quoting := .bare }
    else if c = backslash then some { r with quoting := .doubleEscaped }
    else if c ∈ expanding then none
    else some (r.extend [c])
  -- A backslash joins the line it ends with the next one.
  | .escaped =>
    some { (if c = '\n' then r else r.extend [c]) with quoting := .bare }
  | .doubleEscaped =>
    some { (if c = '\n' then r
      else r.extend (if c ∈ escapable then [c] else [backslash, c])) with quoting := .double }

def run? (r : Reading) (cs : List Char) : Option Reading := cs.foldlM step? r

def finish? (r : Reading) : Option (List (List Char)) :=
  if r.quoting = .bare then some r.closed.words else none

end Reading

def words? (line : String) : Option (List String) :=
  ((({} : Reading).run? line.toList).bind Reading.finish?).map (·.map String.ofList)

variable {r : Reading} {c : Char} {cs ds w x : List Char} {ws xs : List (List Char)}

-- ---------------------------------------------------------------------------
-- Parts of a word
-- ---------------------------------------------------------------------------

namespace Reading

@[simp] theorem run?_nil : r.run? [] = some r := rfl

@[simp] theorem run?_cons : r.run? (c :: cs) = (r.step? c).bind (·.run? cs) := rfl

theorem run?_append : r.run? (cs ++ ds) = (r.run? cs).bind (·.run? ds) := List.foldlM_append

theorem extend_append : r.extend (cs ++ ds) = (r.extend cs).extend ds := by
  simp [extend]

end Reading

/-- The characters add the text `w` to the word that they stand in. -/
def Spells (cs w : List Char) : Prop :=
  ∀ r : Reading, r.quoting = .bare → r.run? cs = some (r.extend w)

theorem Spells.append (h : Spells cs w) (h' : Spells ds x) : Spells (cs ++ ds) (w ++ x) := by
  intro r hr
  rw [Reading.run?_append, h r hr, Option.bind_some, h' (r.extend w) hr, Reading.extend_append]

theorem special_not_plain : ∀ c ∈ special, isPlain c = false := by
  have hall : special.all (fun c => !isPlain c) = true := by decide
  simpa using hall

theorem spells_plain_char (h : isPlain c = true) : Spells [c] [c] := by
  have hs : c ∉ special := fun hc => by simp [special_not_plain c hc] at h
  have hne : ∀ d, isPlain d = false → c ≠ d := fun d hd hcd => by simp [← hcd, h] at hd
  have hblank : isSeparator c = false := by
    simp [isSeparator, hne ' ' (by decide), hne '\t' (by decide)]
  intro r hr
  simp [Reading.step?, hr, hne singleQuote (by decide), hne doubleQuote (by decide),
    hne backslash (by decide), hblank, hs]

theorem spells_plain (hne : cs ≠ []) (h : ∀ c ∈ cs, isPlain c = true) : Spells cs cs := by
  induction cs with
  | nil => exact absurd rfl hne
  | cons c cs ih =>
    obtain ⟨hc, hcs⟩ := List.forall_mem_cons.1 h
    cases cs with
    | nil => exact spells_plain_char hc
    | cons d ds => exact (spells_plain_char hc).append (ih (List.cons_ne_nil d ds) hcs)

-- ---------------------------------------------------------------------------
-- Quoted texts
-- ---------------------------------------------------------------------------

theorem run?_quoteChar (hr : r.quoting = .single) :
    r.run? (quoteChar c) = some (r.extend [c]) := by
  obtain ⟨quoting, word, words⟩ := r
  subst hr
  unfold quoteChar
  split
  · next hc =>
    subst hc
    simp [Reading.step?, Reading.extend, show singleQuote ≠ doubleQuote by decide,
      show doubleQuote ≠ singleQuote by decide, show singleQuote ≠ backslash by decide,
      show singleQuote ∉ expanding by decide]
  · next hc => simp [Reading.step?, hc]

theorem run?_flatMap_quoteChar (hr : r.quoting = .single) :
    (r.extend w).run? (cs.flatMap quoteChar) = some (r.extend (w ++ cs)) := by
  induction cs generalizing w with
  | nil => simp
  | cons c cs ih =>
    rw [List.flatMap_cons, Reading.run?_append, run?_quoteChar (r := r.extend w) hr,
      Option.bind_some, ← Reading.extend_append, ih, List.append_assoc, List.singleton_append]

theorem spells_quoteChars (cs : List Char) : Spells (quoteChars cs) cs := by
  unfold quoteChars
  split
  · next h => exact spells_plain h.1 (List.all_eq_true.1 h.2)
  · intro r hr
    have hopen : r.step? singleQuote =
        some (({ r with quoting := .single } : Reading).extend []) := by
      simp [Reading.step?, hr, Reading.extend]
    have hclose : (({ r with quoting := .single } : Reading).extend cs).step? singleQuote =
        some (r.extend cs) := by
      simp [Reading.step?, hr, Reading.extend]
    rw [Reading.run?_cons, hopen, Option.bind_some, Reading.run?_append,
      run?_flatMap_quoteChar rfl, Option.bind_some, List.nil_append, Reading.run?_cons, hclose]
    rfl

theorem spells_quote (s : String) : Spells (quote s).toList s.toList := by
  rw [quote, String.toList_ofList]
  exact spells_quoteChars s.toList

-- ---------------------------------------------------------------------------
-- Rows of words
-- ---------------------------------------------------------------------------

/-- The characters are, between blanks, the words `ws`. -/
def Reads (cs : List Char) (ws : List (List Char)) : Prop :=
  ∀ r : Reading, r.quoting = .bare → r.word = none →
    ∃ r', r.run? cs = some r' ∧ r'.quoting = .bare ∧
      r'.closed = { r with words := r.words ++ ws }

theorem reads_nil : Reads [] [] := by
  intro r hr hw
  refine ⟨r, rfl, hr, ?_⟩
  simp [Reading.closed, hw]

theorem Spells.reads (h : Spells cs w) : Reads cs [w] := by
  intro r hr hw
  refine ⟨r.extend w, h r hr, hr, ?_⟩
  simp [Reading.closed, Reading.extend, hw]

/-- A blank ends one row of words and lets another begin. -/
theorem Reads.join (h : Reads cs ws) (h' : Reads ds xs) : Reads (cs ++ ' ' :: ds) (ws ++ xs) := by
  intro r hr hw
  obtain ⟨r₁, hrun₁, hr₁, hclosed₁⟩ := h r hr hw
  have hblank : r₁.step? ' ' = some { r with words := r.words ++ ws } := by
    simp [Reading.step?, hr₁, isSeparator, ← hclosed₁, singleQuote, doubleQuote, backslash]
  obtain ⟨r₂, hrun₂, hr₂, hclosed₂⟩ := h' { r with words := r.words ++ ws } hr hw
  refine ⟨r₂, ?_, hr₂, ?_⟩
  · rw [Reading.run?_append, hrun₁, Option.bind_some, Reading.run?_cons, hblank,
      Option.bind_some, hrun₂]
  · rw [hclosed₂, List.append_assoc]

theorem reads_intercalate {texts : List String} {wss : List (List (List Char))}
    (h : List.Forall₂ (fun t ws => Reads t.toList ws) texts wss) :
    Reads (" ".intercalate texts).toList wss.flatten := by
  induction h with
  | nil => exact reads_nil
  | @cons t ws texts wss ht hts ih =>
    cases hts with
    | nil => simpa using ht
    | cons _ _ =>
      rw [String.intercalate_cons_cons, String.append_assoc, String.toList_append,
        String.toList_append]
      exact ht.join ih

theorem words?_of_reads {line : String} (h : Reads line.toList ws) :
    words? line = some (ws.map String.ofList) := by
  obtain ⟨r, hrun, hr, hclosed⟩ := h {} rfl rfl
  simp [words?, hrun, Reading.finish?, hr, hclosed]

example : words? "sfdx 'a b'\"'\"c --name\\ x" = some ["sfdx", "a b'c", "--name x"] := by
  decide +kernel

example : words? "sfdx a; rm -rf b" = none := by decide +kernel

end Provision.Shell
