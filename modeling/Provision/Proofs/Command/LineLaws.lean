import Provision.Command.Line
import Provision.Proofs.Shell.Words
import Provision.Proofs.Text.CaseLaws

/-!
# A command line is read as it was meant

A shell takes the line of a command apart into the program, the command's name, its
arguments and the words of its flags, whatever characters there are in them. What is
written between words is a blank, and what quotes a word is gone.
-/

namespace Provision.Command

open Shell Text

variable {name : String} {value : Value}

def Unquoted (s : String) : Prop := s ≠ "" ∧ ∀ c ∈ s.toList, isPlain c = true

instance {s : String} : Decidable (Unquoted s) :=
  decidable_of_iff (s ≠ "" ∧ s.toList.all isPlain = true) (by simp [Unquoted])

def FlagName (name : String) : Prop :=
  name ≠ "" ∧ ∀ c ∈ name.toList, c.isAlphanum = true ∨ c = '-' ∨ c = '_'

instance {name : String} : Decidable (FlagName name) :=
  decidable_of_iff
    (name ≠ "" ∧ name.toList.all (fun c => c.isAlphanum || c = '-' || c = '_') = true)
    (by simp [FlagName, or_assoc])

/-- A flag's name on the line, where it is in lower case. A name of one letter has one
hyphen, and a longer one two. -/
def optionWord (name : String) : String :=
  (if name.length = 1 then "-" else "--") ++ String.ofList (name.toList.map Char.toLower)

def flagWords (name : String) : Value → List String
  | .null => []
  | .bool b => if b then [optionWord name] else []
  | v => [optionWord name, v.text]

def keyed (flags : List (String × Value)) : Entries := flags.map fun f => ("FLAG_" ++ f.1, f.2)

-- ---------------------------------------------------------------------------
-- Names of flags
-- ---------------------------------------------------------------------------

namespace FlagName

theorem ascii (h : FlagName name) : Ascii name.toList := by
  intro c hc
  rcases h.2 c hc with h | rfl | rfl
  · exact isAlphanum_lt h
  · decide
  · decide

theorem toLower_plain (h : FlagName name) : ∀ c ∈ name.toList, isPlain c.toLower = true := by
  intro c hc
  rcases h.2 c hc with h | rfl | rfl
  · exact forall_ascii (P := fun c => c.isAlphanum = true → isPlain c.toLower = true) (by decide)
      (isAlphanum_lt h) h
  · decide
  · decide

theorem flagName?_eq (h : FlagName name) :
    flagName? ("FLAG_" ++ name) = some (String.ofList (name.toList.map Char.toLower)) := by
  have hsame : ("FLAG_".toList).flatMap upperChars = "FLAG_".toList := by decide
  have hupper : (Text.upper ("FLAG_" ++ name)).toList =
      "FLAG_".toList ++ name.toList.flatMap upperChars := by
    rw [Text.upper, String.toList_append, List.flatMap_append, hsame]
    exact String.toList_ofList
  have hmarked : ("FLAG_".toList).isPrefixOf (Text.upper ("FLAG_" ++ name)).toList = true := by
    rw [hupper]
    exact List.isPrefixOf_iff_prefix.2 (List.prefix_append _ _)
  have hascii : Ascii ("FLAG_" ++ name).toList := by
    rw [String.toList_append]
    exact ascii_append.2 ⟨by decide, h.ascii⟩
  have hdrop : Text.drop 5 ("FLAG_" ++ name) = name := by
    rw [drop_of_ascii hascii, String.toList_append]
    exact String.ofList_toList
  rw [Command.flagName?, if_pos hmarked, hdrop, lower_of_ascii h.ascii]

theorem flagWord_eq (h : FlagName name) :
    flagWord (String.ofList (name.toList.map Char.toLower)) = optionWord name := by
  have hascii : Ascii (String.ofList (name.toList.map Char.toLower)).toList := by
    rw [String.toList_ofList]
    exact toLower_ascii h.ascii
  rw [Command.flagWord, optionWord, size_of_ascii hascii, String.length_ofList, List.length_map,
    String.length_toList]

theorem spells_optionWord (h : FlagName name) :
    Spells (optionWord name).toList (optionWord name).toList := by
  have hhyphens : ∀ c ∈ (if name.length = 1 then "-" else "--").toList, isPlain c = true :=
    List.all_eq_true.1 (by split <;> decide)
  have hne : (if name.length = 1 then "-" else "--").toList ≠ [] := by
    split <;> decide
  have hplain : ∀ c ∈ name.toList.map Char.toLower, isPlain c = true :=
    List.forall_mem_map.2 h.toLower_plain
  have htext : (optionWord name).toList =
      (if name.length = 1 then "-" else "--").toList ++ name.toList.map Char.toLower := by
    rw [optionWord, String.toList_append]
    exact congrArg _ String.toList_ofList
  rw [htext]
  exact spells_plain (List.append_ne_nil_of_left_ne_nil hne _)
    (List.forall_mem_append.2 ⟨hhyphens, hplain⟩)

end FlagName

-- ---------------------------------------------------------------------------
-- Flags
-- ---------------------------------------------------------------------------

structure FlagReads (name : String) (value : Value) : Prop where
  left : flagText? ("FLAG_" ++ name) value = none → flagWords name value = []
  there : ∀ text, flagText? ("FLAG_" ++ name) value = some text →
    Reads text.toList ((flagWords name value).map String.toList)

theorem reads_value (h : FlagName name) (text : String) :
    Reads s!"{optionWord name} {quote text}".toList
      ([optionWord name, text].map String.toList) := by
  have hline : s!"{optionWord name} {quote text}".toList =
      (optionWord name).toList ++ ' ' :: (quote text).toList := by
    simp [String.toList_append, toString]
  rw [hline]
  exact h.spells_optionWord.reads.join (spells_quote text).reads

theorem FlagName.flagText?_eq (h : FlagName name) (value : Value) :
    flagText? ("FLAG_" ++ name) value =
      match value with
      | .null => none
      | .bool b => if b then some (optionWord name) else none
      | v => some s!"{optionWord name} {quote v.text}" := by
  unfold flagText?
  rw [h.flagName?_eq]
  cases value <;> simp only [h.flagWord_eq]

theorem FlagName.reads (h : FlagName name) (value : Value) : FlagReads name value := by
  constructor
  · rw [h.flagText?_eq]
    intro hnone
    cases value with
    | null => rfl
    | bool b =>
      cases b with
      | false => rfl
      | true => cases hnone
    | _ => cases hnone
  · rw [h.flagText?_eq]
    intro text hsome
    cases value with
    | null => cases hsome
    | bool b =>
      cases b with
      | false => cases hsome
      | true =>
        cases hsome
        exact h.spells_optionWord.reads
    | _ =>
      cases hsome
      exact reads_value h _

theorem keyed_cons (f : String × Value) (flags : List (String × Value)) :
    keyed (f :: flags) = ("FLAG_" ++ f.1, f.2) :: keyed flags := rfl

theorem flags_read {flags : List (String × Value)} (h : ∀ f ∈ flags, FlagName f.1) :
    ∃ wss, List.Forall₂ (fun (text : String) ws => Reads text.toList ws)
        ((keyed flags).filterMap fun f => flagText? f.1 f.2) wss ∧
      wss.flatten = (flags.flatMap fun f => flagWords f.1 f.2).map String.toList := by
  induction flags with
  | nil => exact ⟨[], .nil, rfl⟩
  | cons f flags ih =>
    obtain ⟨hf, hflags⟩ := List.forall_mem_cons.1 h
    obtain ⟨wss, hreads, hwords⟩ := ih hflags
    rw [keyed_cons, List.filterMap_cons, List.flatMap_cons, List.map_append]
    cases ht : flagText? ("FLAG_" ++ f.1) f.2 with
    | none =>
      rw [(hf.reads f.2).left ht]
      exact ⟨wss, hreads, hwords⟩
    | some text =>
      exact ⟨_ :: wss, .cons ((hf.reads f.2).there text ht) hreads, by
        rw [List.flatten_cons, hwords]⟩

/-- A shell takes the line of a command apart into the program, the name, the arguments as they
are and each flag's words, one of which is the text of the flag's value if it has one. -/
theorem line_words (c : Command) (program : String) (flags : List (String × Value))
    (hname : Unquoted c.command) (hflags : ∀ f ∈ flags, FlagName f.1) :
    words? ({ c with flags := keyed flags }.line program) =
      some (program :: c.command :: c.args ++ flags.flatMap fun f => flagWords f.1 f.2) := by
  obtain ⟨wss, hreads, hwords⟩ := flags_read hflags
  have hcommand : Reads c.command.toList [c.command.toList] :=
    (spells_plain (by simpa using hname.1) hname.2).reads
  have hargs : List.Forall₂ (fun (text : String) ws => Reads text.toList ws)
      (c.args.map quote) (c.args.map fun a => [a.toList]) :=
    List.forall₂_map_left_iff.2 (List.forall₂_map_right_iff.2
      (List.forall₂_same.2 fun a _ => (spells_quote a).reads))
  have hrow : List.Forall₂ (fun (text : String) ws => Reads text.toList ws)
      (quote program :: c.command :: (c.args.map quote ++
        (keyed flags).filterMap fun f => flagText? f.1 f.2))
      ([program.toList] :: [c.command.toList] :: ((c.args.map fun a => [a.toList]) ++ wss)) :=
    .cons (spells_quote program).reads (.cons hcommand (List.rel_append hargs hreads))
  have hline : ({ c with flags := keyed flags } : Command).line program =
      " ".intercalate (quote program :: c.command :: (c.args.map quote ++
        (keyed flags).filterMap fun f => flagText? f.1 f.2)) := by
    simp [line]
  have hwhole : (c.args.map fun a => [a.toList]).flatten = c.args.map String.toList := by
    rw [← List.flatMap_def, ← List.map_eq_flatMap]
  rw [hline, words?_of_reads (reads_intercalate hrow)]
  simp [hwords, hwhole, Function.comp_def]

def hostile : Command where
  command := "force:user:create"
  args := ["LastName=O'Brien \"Rep\"; rm -rf ~", "", "$(echo PWNED)\n"]

def hostileFlags : List (String × Value) :=
  [("U", .str "it's"), ("json", .bool true), ("NoPrompt", .bool false), ("Dev-Hub_2", .null),
    ("WAIT", .int 10)]

/-- Quotes, blanks and marks in the program, the arguments and a value stay in their words. -/
theorem hostile_words :
    Unquoted hostile.command ∧ (∀ f ∈ hostileFlags, FlagName f.1) ∧
      words? ({ hostile with flags := keyed hostileFlags }.line "/opt/my tools/sfdx") =
        some ["/opt/my tools/sfdx", "force:user:create", "LastName=O'Brien \"Rep\"; rm -rf ~", "",
          "$(echo PWNED)\n", "-u", "it's", "--json", "--wait", "10"] := by
  have hname : Unquoted hostile.command := by decide
  have hflags : ∀ f ∈ hostileFlags, FlagName f.1 := by decide
  have hwords := line_words hostile "/opt/my tools/sfdx" hostileFlags hname hflags
  exact ⟨hname, hflags, hwords.trans rfl⟩

end Provision.Command
