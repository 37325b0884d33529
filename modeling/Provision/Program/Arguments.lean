/-!
# Arguments of a command line

A word that begins with a dash holds options. Behind two dashes stands the name of
one option, which may be followed by an equals sign and its value. Behind one dash
stand options of one letter each, and the first that wants a value takes the rest of
the word as its value. A value that is not in the word is the next word, whatever
that looks like. Two dashes alone end the options. A lone dash is no option.

The program leaves this to a library for command lines that is not part of this
project. The rules are the ones that it documents. The wording of its complaints
is assumed, and no suggestions are added to them.
-/

namespace Provision.Program

inductive Misuse where
  | noSuchOption (name : String)
  | missingValue (name : String)
  | needlessValue (name : String)
  | noChoice (name value : String)
  | noSuchCommand (name : String)
  | missingCommand
  | excess (words : List String)
  deriving DecidableEq, Repr

def Misuse.text : Misuse → String
  | .noSuchOption name => s!"No such option: {name}"
  | .missingValue name => s!"Option '{name}' requires an argument."
  | .needlessValue name => s!"Option '{name}' does not take a value."
  | .noChoice name value => s!"Invalid value for '{name}': '{value}'"
  | .noSuchCommand name => s!"No such command '{name}'."
  | .missingCommand => "Missing command."
  | .excess words =>
    let shown := " ".intercalate words
    s!"Got unexpected extra arguments ({shown})"

structure Spelling (κ : Type) where
  key : κ
  names : List String
  wantsValue : Bool := false

structure Use (κ : Type) where
  key : κ
  value : String := ""
  deriving DecidableEq, Repr

structure Arguments (κ : Type) where
  uses : List (Use κ)
  /-- The words that are no options. -/
  words : List String

namespace Arguments

variable {κ : Type}

def find? (table : List (Spelling κ)) (name : String) : Option (Spelling κ) :=
  table.find? (name ∈ ·.names)

/-- The uses in one word, and whether the next word is a value of theirs. -/
abbrev Reading (κ : Type) := Except Misuse (List (Use κ) × Bool)

def taking (key : κ) (name : String) : Option String → Reading κ
  | some value => .ok ([⟨key, value⟩], true)
  | none => .error (.missingValue name)

def readLong (table : List (Spelling κ)) (name : String) (value next : Option String) :
    Reading κ :=
  match find? table name with
  | none => .error (.noSuchOption name)
  | some s =>
    match s.wantsValue, value with
    | true, some v => .ok ([⟨s.key, v⟩], false)
    | true, none => taking s.key name next
    | false, some _ => .error (.needlessValue name)
    | false, none => .ok ([⟨s.key, ""⟩], false)

def readShort (table : List (Spelling κ)) (next : Option String) : List Char → Reading κ
  | [] => .ok ([], false)
  | c :: rest =>
    let name := String.ofList ['-', c]
    match find? table name with
    | none => .error (.noSuchOption name)
    | some s =>
      if s.wantsValue then
        if rest = [] then taking s.key name next
        else .ok ([⟨s.key, String.ofList rest⟩], false)
      else (readShort table next rest).map fun r => (⟨s.key, ""⟩ :: r.1, r.2)

def splitValue (cs : List Char) : String × Option String :=
  match cs.span (· ≠ '=') with
  | (name, []) => (String.ofList name, none)
  | (name, _ :: value) => (String.ofList name, some (String.ofList value))

def readWord (table : List (Spelling κ)) (next : Option String) : List Char → Reading κ
  | '-' :: '-' :: rest =>
    let (name, value) := splitValue ('-' :: '-' :: rest)
    readLong table name value next
  | cs => readShort table next (cs.drop 1)

def holdsOptions (word : String) : Bool :=
  match word.toList with
  | '-' :: _ :: _ => true
  | _ => false

/-- Reads a command line. Options are looked for among all words, or only in front
of the first word that is none. -/
def read (table : List (Spelling κ)) (everywhere : Bool) : List String → Except Misuse (Arguments κ)
  | [] => .ok ⟨[], []⟩
  | word :: rest =>
    if word = "--" then .ok ⟨[], rest⟩
    else if holdsOptions word then
      match readWord table rest.head? word.toList with
      | .error m => .error m
      | .ok (uses, taken) =>
        (read table everywhere (rest.drop taken.toNat)).map fun a => { a with uses := uses ++ a.uses }
    else if everywhere then
      (read table everywhere rest).map fun a => { a with words := word :: a.words }
    else .ok ⟨[], word :: rest⟩
termination_by words => words.length
decreasing_by all_goals (simp only [List.length_drop, List.length_cons]; omega)

/-! ## Looking at what was used -/

variable [DecidableEq κ]

def given (a : Arguments κ) (key : κ) : Bool := a.uses.any (·.key = key)

def values (a : Arguments κ) (key : κ) : List String :=
  (a.uses.filter (·.key = key)).map (·.value)

def value? (a : Arguments κ) (key : κ) : Option String := (a.values key).getLast?

def last? (a : Arguments κ) (keys : List κ) : Option κ :=
  ((a.uses.map (·.key)).filter (· ∈ keys)).getLast?

def first? (a : Arguments κ) (keys : List κ) : Option κ := (a.uses.map (·.key)).find? (· ∈ keys)

end Arguments

end Provision.Program
