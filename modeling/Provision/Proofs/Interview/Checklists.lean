import Provision.Proofs.Interview.Defaults
import Provision.Proofs.Interview.SelectionLaws

/-!
# Checklists on a terminal

A checklist refuses the lines that are neither blank nor a selection, with the reason, and
goes by the first line of another kind (`ask_checklist`). A blank line leaves the choices
that are checked from the start, and a selection picks choices by their numbers: each number
that is read has a choice, and the choices come in the order of the menu.
-/

namespace Provision.Interview

open Text (Scalar mark scalar_of_ascii scalar_of_forall_ne)
open Terminal

-- ---------------------------------------------------------------------------
-- Refusals are shown
-- ---------------------------------------------------------------------------

theorem ne_mark_of_isBlank {c : Char} (h : Text.isBlank c = true) : c ≠ mark := by
  rintro rfl
  exact absurd h (by decide)

theorem ne_mark_of_isDigit {c : Char} (h : Text.isDigit c = true) : c ≠ mark := by
  rintro rfl
  exact absurd h (by decide)

theorem scalar_splitOn {cs : List Char} (h : Scalar cs) : ∀ part ∈ cs.splitOn ',', Scalar part := by
  have hhead {front : List Char → List Char} {parts : List (List Char)}
      (hfront : ∀ {cs}, Scalar cs → Scalar (front cs)) (hparts : ∀ part ∈ parts, Scalar part) :
      ∀ part ∈ parts.modifyHead front, Scalar part := by
    cases parts with
    | nil => exact hparts
    | cons first rest =>
      obtain ⟨hfirst, hrest⟩ := List.forall_mem_cons.1 hparts
      exact List.forall_mem_cons.2 ⟨hfront hfirst, hrest⟩
  induction h with
  | nil => exact List.forall_mem_singleton.2 .nil
  | char hc _ ih =>
    rw [List.splitOn_cons_eq_if_modifyHead]
    split
    · exact List.forall_mem_cons.2 ⟨.nil, ih⟩
    · exact hhead (.char hc) ih
  | marks _ ih =>
    have hmark : ¬ (mark == ',') = true := by decide
    rw [List.splitOn_cons_eq_if_modifyHead, if_neg hmark, List.splitOn_cons_eq_if_modifyHead,
      if_neg hmark, List.modifyHead_modifyHead]
    exact hhead .marks ih

theorem scalar_trimmed {cs : List Char} (h : Scalar cs) : Scalar (trimmed cs) := by
  have hstart : Scalar (Text.trimStart cs) := by
    rw [← List.takeWhile_append_dropWhile (p := Text.isBlank) (l := cs)] at h
    exact h.of_append fun c hc => ne_mark_of_isBlank (List.mem_takeWhile_imp hc)
  have hend : Text.trimEnd (Text.trimStart cs) ++
      ((Text.trimStart cs).reverse.takeWhile Text.isBlank).reverse = Text.trimStart cs := by
    rw [Text.trimEnd, ← List.reverse_append, List.takeWhile_append_dropWhile, List.reverse_reverse]
  rw [← hend] at hstart
  exact hstart.left_of_append fun c hc =>
    ne_mark_of_isBlank (List.mem_takeWhile_imp (List.mem_reverse.1 hc))

theorem scalar_items {raw : String} (h : Scalar raw.toList) : ∀ part ∈ items raw, Scalar part := by
  intro part hpart
  obtain ⟨whole, hwhole, rfl⟩ := List.mem_map.1 (List.mem_of_mem_filter hpart)
  exact scalar_trimmed (scalar_splitOn h whole hwhole)

theorem scalar_join {s t : String} (hs : Scalar s.toList) (ht : Scalar t.toList) :
    Scalar (s ++ t).toList := by
  rw [String.toList_append]
  exact hs.append ht

theorem message_scalar {cs : List Char} (h : ∀ c ∈ cs, Text.isDigit c = true)
    (f : Text.WholeFault) : Scalar (f.message 10 (String.ofList cs)).toList := by
  cases f with
  | malformed =>
    have hopen : Scalar "invalid literal for int() with base ".toList :=
      scalar_of_ascii (by decide)
    have hcolon : Scalar ": ".toList := scalar_of_ascii (by decide)
    have hcs : ∀ c ∈ (Text.quoted (String.ofList cs)).toList, c ≠ mark := by
      rw [Text.quoted, String.toList_ofList, String.toList_ofList]
      exact Text.quotedChars_ne_mark fun c hc => ne_mark_of_isDigit (h c hc)
    have hshown := scalar_of_forall_ne (Text.take_ne_mark 200 hcs)
    exact scalar_join (scalar_join (scalar_join hopen (Console.toString_scalar 10)) hcolon) hshown
  | oversized digits =>
    have hopen : Scalar "Exceeds the limit (".toList := scalar_of_ascii (by decide)
    have hunit : Scalar " digits) for integer string conversion: ".toList :=
      scalar_of_ascii (by decide)
    have hvalue : Scalar "value has ".toList := scalar_of_ascii (by decide)
    have hadvice : Scalar (" digits; use sys.set_int_max_str_digits() to increase the limit" :
        String).toList := scalar_of_ascii (by decide)
    exact scalar_join
      (scalar_join (scalar_join hopen (Console.toString_scalar Text.wholeLimit)) hunit)
      (scalar_join (scalar_join hvalue (Console.toString_scalar digits)) hadvice)

theorem partNumber_error_scalar {upper : Int} {part : List Char} {f : Fault} (hpart : Scalar part)
    (h : partNumber upper part = .error f) : Scalar f.text.toList := by
  unfold partNumber at h
  simp only at h
  split at h
  · obtain rfl := Except.error.inj h
    have hquote : Scalar "'".toList := scalar_of_ascii (by decide)
    have hrest : Scalar "' is not a number".toList := scalar_of_ascii (by decide)
    have hpart : Scalar (String.ofList part).toList := by rwa [String.toList_ofList]
    exact scalar_join (scalar_join hquote hpart) hrest
  · next hdigits =>
    have hall : ∀ c ∈ part, Text.isDigit c = true := by simpa using hdigits
    split at h
    · obtain rfl := Except.error.inj h
      exact message_scalar hall _
    · split at h
      · cases h
      · obtain rfl := Except.error.inj h
        have hrange : Scalar " is out of range 1-".toList := scalar_of_ascii (by decide)
        exact scalar_join (scalar_join (scalar_of_ascii (Json.int_ascii _)) hrange)
          (scalar_of_ascii (Json.int_ascii upper))

-- ---------------------------------------------------------------------------
-- Asking again
-- ---------------------------------------------------------------------------

namespace Console

variable {α : Type} {prompt : String} {read : String → Except String α} {c : Console}

def typed (c : Console) (line : String) : String := if c.echo then line ++ "\n" else ""

def again (c : Console) (prompt : String) (read : String → Except String α) (line : String) :
    String :=
  c.typed line ++ ((match read line with
    | .error refusal => refusal
    | .ok _ => "") ++ prompt)

def RefusedBy (read : String → Except String α) (line : String) : Prop :=
  ∃ refusal, read line = .error refusal ∧ Text.hasSurrogate refusal = false

theorem readWith_again (hp : Text.hasSurrogate prompt = false) {line : String}
    (h : RefusedBy read line) (rest : List String) :
    readWith prompt read (line :: rest) c =
      readWith prompt read rest
        { c with lines := rest, shown := c.shown ++ c.again prompt read line } := by
  obtain ⟨refusal, hr, hs⟩ := h
  have hw : ∀ text ∈ [refusal, prompt], Text.hasSurrogate text = false := by simp [hs, hp]
  simp only [readWith, hr, showing, written_eq_join hw, again, typed]
  simp [String.append_assoc]

theorem readWith_left (lines left : List String) :
    readWith prompt read lines { c with lines := left } = readWith prompt read lines c := by
  cases lines <;> rfl

/-- Each refused line is asked for again, and then the others are read. -/
theorem readWith_append (hp : Text.hasSurrogate prompt = false) {refused : List String}
    (h : ∀ r ∈ refused, RefusedBy read r) (later : List String) :
    readWith prompt read (refused ++ later) c =
      readWith prompt read later { c with
        shown := c.shown ++ String.join (refused.map (c.again prompt read)) } := by
  induction refused generalizing c with
  | nil => simp
  | cons r rest ih =>
    obtain ⟨hr, hrest⟩ := List.forall_mem_cons.1 h
    let shown := c.shown ++ c.again prompt read r ++ String.join (rest.map (c.again prompt read))
    rw [List.cons_append, readWith_again hp hr, ih hrest, List.map_cons, String.join_cons,
      ← String.append_assoc]
    exact readWith_left (c := { c with shown }) later (rest ++ later)

theorem readWith_refused (hp : Text.hasSurrogate prompt = false) {refused later : List String}
    {line : String} {a : α} (h : ∀ r ∈ refused, RefusedBy read r) (hl : read line = .ok a) :
    readWith prompt read (refused ++ line :: later) c =
      (.ok a, { c with
        lines := later
        shown := c.shown ++ String.join (refused.map (c.again prompt read)) ++ c.typed line }) := by
  rw [readWith_append hp h, readWith, hl]
  rfl

theorem readWith_refused_all (hp : Text.hasSurrogate prompt = false) {lines : List String}
    (h : ∀ r ∈ lines, RefusedBy read r) :
    readWith prompt read lines c =
      (.error .abort, { c with
        lines := []
        shown := c.shown ++ String.join (lines.map (c.again prompt read)) }) := by
  rw [← List.append_nil lines, readWith_append hp h, readWith, List.append_nil]

theorem written_fault {texts : List String} {f : Fault} (h : (written texts).2 = some f) :
    ∃ text, f = .mishap .notWritable text := by
  change (objection.taken texts).2 = some f at h
  induction texts with
  | nil => cases h
  | cons text rest ih =>
    unfold Objection.taken at h
    split at h
    · next hf =>
      obtain rfl := Option.some.inj h
      obtain ⟨e, -, rfl⟩ := Option.map_eq_some_iff.1 hf
      exact ⟨_, rfl⟩
    · exact ih h

theorem readWith_error {lines : List String} {f : Fault}
    (h : (readWith prompt read lines c).1 = .error f) :
    f = .abort ∨ ∃ text, f = .mishap .notWritable text := by
  induction lines generalizing c with
  | nil => exact .inl (Except.error.inj h).symm
  | cons line rest ih =>
    unfold readWith at h
    simp only at h
    split at h
    · cases h
    · unfold showing at h
      split at h
      · next hw =>
        obtain rfl := Except.error.inj h
        exact .inr (written_fault (congrArg Prod.snd hw))
      · exact ih h

theorem asking_error {head : List String} {answer : α → Answer} {f : Fault}
    (h : (c.asking head prompt read answer).1 = .error f) :
    f = .abort ∨ ∃ text, f = .mishap .notWritable text := by
  unfold asking at h
  simp only at h
  have hread : (c.showing (head ++ [Terminal.shown c.color prompt])
      (readWith (Terminal.shown c.color prompt) read c.lines)).1 = .error f := by
    cases hr : (c.showing (head ++ [Terminal.shown c.color prompt])
        (readWith (Terminal.shown c.color prompt) read c.lines)).1 with
    | error e =>
      rw [hr] at h
      exact congrArg Except.error (Except.error.inj h)
    | ok a =>
      rw [hr] at h
      cases h
  unfold showing at hread
  split at hread
  · next hw =>
    obtain rfl := Except.error.inj hread
    exact .inr (written_fault (congrArg Prod.snd hw))
  · exact readWith_error hread

theorem asking_written {head : List String} (answer : α → Answer)
    (hw : ∀ text ∈ head ++ [Terminal.shown c.color prompt], Text.hasSurrogate text = false) :
    c.asking head prompt read answer =
      Prod.map (answer <$> ·) id (readWith (Terminal.shown c.color prompt) read c.lines
        { c with shown := c.shown ++ String.join (head ++ [Terminal.shown c.color prompt]) }) := by
  simp only [asking, showing, written_eq_join hw]
  rfl

end Console

-- ---------------------------------------------------------------------------
-- Checklists
-- ---------------------------------------------------------------------------

def Question.numbered (q : Question) (numbers : List Nat) : List Answer :=
  ((q.choices.zipIdx 1).filter (·.2 ∈ numbers)).map (·.1.value)

def Refuses (q : Question) (line : String) : Prop :=
  Text.isBlankText line = false ∧ ∀ numbers, parseSelection line q.choices.length ≠ .ok numbers

/-- What a checklist takes a line for. -/
inductive Takes (q : Question) (line : String) : List Answer → Prop
  | preset (h : Text.isBlankText line = true) : Takes q line q.preset
  | numbered {numbers : List Nat} (h : Text.isBlankText line = false)
      (hn : parseSelection line q.choices.length = .ok numbers) :
      Takes q line (q.numbered numbers)

section Checklist

variable {q : Question} {line : String} {numbers : List Nat}

theorem refuses_or_takes (q : Question) (line : String) :
    Refuses q line ∨ ∃ answers, Takes q line answers := by
  cases hb : Text.isBlankText line with
  | true => exact .inr ⟨_, .preset hb⟩
  | false =>
    cases hn : parseSelection line q.choices.length with
    | error f => exact .inl ⟨hb, by simp [hn]⟩
    | ok numbers => exact .inr ⟨_, .numbered hb hn⟩

/-- The lines that are refused stand in front of the first that is taken, if one is. -/
theorem first_taken (q : Question) (lines : List String) :
    (∃ refused line later answers, lines = refused ++ line :: later ∧
      (∀ r ∈ refused, Refuses q r) ∧ Takes q line answers) ∨ ∀ r ∈ lines, Refuses q r := by
  induction lines with
  | nil => exact .inr (by simp)
  | cons first rest ih =>
    rcases refuses_or_takes q first with hr | ⟨answers, ht⟩
    · rcases ih with ⟨refused, line, later, answers, rfl, hrefused, ht⟩ | hall
      · exact .inl ⟨first :: refused, line, later, answers, rfl,
          List.forall_mem_cons.2 ⟨hr, hrefused⟩, ht⟩
      · exact .inr (List.forall_mem_cons.2 ⟨hr, hall⟩)
    · exact .inl ⟨[], first, rest, answers, rfl, by simp, ht⟩

theorem picked_numbers (h : parseSelection line q.choices.length = .ok numbers) :
    ((q.choices.zipIdx 1).filter (·.2 ∈ numbers)).map (·.2) = numbers := by
  obtain ⟨-, hascending, hmem⟩ := parseSelection_eq_ok_iff.1 h
  have hmenu : ((q.choices.zipIdx 1).map (·.2)).Pairwise (· < ·) := by
    rw [List.zipIdx_map_snd]
    exact List.pairwise_lt_range'
  refine (hmenu.sublist (List.filter_sublist.map _)).eq_of_mem_iff hascending fun n => ?_
  rw [List.mem_map]
  constructor
  · rintro ⟨choice, hchoice, rfl⟩
    simpa using (List.mem_filter.1 hchoice).2
  · intro hn
    obtain ⟨part, -, ds, -, -, -, -, hlow, hhigh⟩ := (hmem n).1 hn
    have hlt : n - 1 < q.choices.length := by omega
    refine ⟨(q.choices[n - 1], n), List.mem_filter.2 ⟨?_, by simpa using hn⟩, rfl⟩
    rw [List.mk_mem_zipIdx_iff_le_and_getElem?_sub]
    exact ⟨hlow, List.getElem?_eq_getElem hlt⟩

theorem length_numbered (h : parseSelection line q.choices.length = .ok numbers) :
    (q.numbered numbers).length = numbers.length := by
  rw [Question.numbered, List.length_map, ← congrArg List.length (picked_numbers h),
    List.length_map]

theorem values_numbered (h : parseSelection line q.choices.length = .ok numbers) :
    (numbers.filterMap fun i => (q.choices[i - 1]?).map (·.value)) = q.numbered numbers := by
  have hchoice : ∀ choice ∈ (q.choices.zipIdx 1).filter (·.2 ∈ numbers),
      (q.choices[choice.2 - 1]?).map (·.value) = some choice.1.value := by
    rintro ⟨choice, n⟩ hc
    have hmem := (List.mem_filter.1 hc).1
    rw [List.mk_mem_zipIdx_iff_le_and_getElem?_sub] at hmem
    rw [hmem.2, Option.map_some]
  calc (numbers.filterMap fun i => (q.choices[i - 1]?).map (·.value))
      = (((q.choices.zipIdx 1).filter (·.2 ∈ numbers)).map (·.2)).filterMap
          fun i => (q.choices[i - 1]?).map (·.value) := by rw [picked_numbers h]
    _ = ((q.choices.zipIdx 1).filter (·.2 ∈ numbers)).filterMap
          fun choice => (q.choices[choice.2 - 1]?).map (·.value) := List.filterMap_map
    _ = ((q.choices.zipIdx 1).filter (·.2 ∈ numbers)).filterMap
          fun choice => some choice.1.value := List.filterMap_congr hchoice
    _ = q.numbered numbers := congrFun List.filterMap_eq_map _

theorem readChecks_of_takes (color : Bool) {answers : List Answer} (h : Takes q line answers) :
    Console.readChecks color q line = .ok answers := by
  cases h with
  | preset hb => simp [Console.readChecks, hb]
  | numbered hb hn => simp [Console.readChecks, hb, hn, values_numbered hn]

theorem readChecks_of_refuses (color : Bool) (hs : Scalar line.toList) (h : Refuses q line) :
    Console.RefusedBy (Console.readChecks color q) line := by
  obtain ⟨hb, hn⟩ := h
  cases hf : parseSelection line q.choices.length with
  | ok numbers => exact absurd hf (hn numbers)
  | error f =>
    obtain ⟨part, hpart, hf'⟩ := parseSelection_error hf
    have htext : Scalar f.text.toList := partNumber_error_scalar (scalar_items hs part hpart) hf'
    have hindent : Scalar "  ".toList := scalar_of_ascii (by decide)
    refine ⟨shownLine color { color := some .red } s!"  {f.text}", ?_,
      Console.shownLine_hasSurrogate color _ (scalar_join hindent htext)⟩
    simp [Console.readChecks, hb, hf]

/-- What a terminal has shown when a checklist reads its first line. -/
def Console.opened (c : Console) (q : Question) (message : String) : String :=
  c.shown ++ String.join
    (heading c.color checkLine q message ++ [Terminal.shown c.color checksPrompt])

/-- What a terminal shows of the lines that a checklist refuses. Each brings its reason and
the prompt for the next. -/
def Console.refusals (c : Console) (q : Question) (refused : List String) : String :=
  String.join
    (refused.map (c.again (Terminal.shown c.color checksPrompt) (readChecks c.color q)))

/-- A checklist goes by the first line that it takes and asks again for each one in front of
it. Where it takes none the interview is aborted. -/
theorem ask_checklist {message : String} {c : Console} (hk : q.kind = .checkbox)
    (hm : Scalar message.toList) (hq : ∀ choice ∈ q.choices, Scalar choice.name.toList)
    (hl : ∀ line ∈ c.lines, Scalar line.toList) :
    (∃ refused line later answers, c.lines = refused ++ line :: later ∧
      (∀ r ∈ refused, Refuses q r) ∧ Takes q line answers ∧
      Console.ask q message c = (.ok (.several answers), { c with
        lines := later
        shown := c.opened q message ++ c.refusals q refused ++ c.typed line })) ∨
    ((∀ r ∈ c.lines, Refuses q r) ∧
      Console.ask q message c = (.error .abort, { c with
        lines := []
        shown := c.opened q message ++ c.refusals q c.lines })) := by
  have hprompt : Text.hasSurrogate (Terminal.shown c.color Console.checksPrompt) = false :=
    hasSurrogate_shown _ (scalar_of_ascii (by decide))
  have hask : Console.ask q message c = Prod.map (Answer.several <$> ·) id
      (Console.readWith (Terminal.shown c.color Console.checksPrompt)
        (Console.readChecks c.color q) c.lines { c with shown := c.opened q message }) := by
    simp only [Console.ask, hk]
    exact Console.asking_written .several (Console.checklist_hasSurrogate c.color hm hq)
  rcases first_taken q c.lines with ⟨refused, line, later, answers, hlines, hrefused, ht⟩ | hall
  · refine .inl ⟨refused, line, later, answers, hlines, hrefused, ht, ?_⟩
    have hagain : ∀ r ∈ refused, Console.RefusedBy (Console.readChecks c.color q) r := fun r hr =>
      readChecks_of_refuses c.color (hl r (by simp [hlines, hr])) (hrefused r hr)
    rw [hask, hlines, Console.readWith_refused hprompt hagain (readChecks_of_takes c.color ht)]
    rfl
  · refine .inr ⟨hall, ?_⟩
    have hagain : ∀ r ∈ c.lines, Console.RefusedBy (Console.readChecks c.color q) r := fun r hr =>
      readChecks_of_refuses c.color (hl r hr) (hall r hr)
    rw [hask, Console.readWith_refused_all hprompt hagain]
    rfl

end Checklist

/-- Selections and the checklists that are answered with them.

A reply is read, or refused as a wrong value. It is read exactly when each part that is not
blank writes a number within bounds, and then as these numbers in ascending order. Only the
set of these parts matters, and a selection written out in full reads as itself.

A checklist ends with an answer, with the input, or at a text that the terminal does not
take. Between texts that it does take all typed lines are refused, with the reason, up to
the first that is blank or a selection, and that one decides. Each number that was read
there has a choice. -/
theorem checklist_input :
    (∀ (raw : String) (upper : Int),
      (∀ f, parseSelection raw upper = .error f → ∃ text, f = wrongValue text) ∧
      ((∃ picked, parseSelection raw upper = .ok picked) ↔
        ∀ part ∈ items raw, ∃ n, Selects upper part n) ∧
      ∀ picked, parseSelection raw upper = .ok picked →
        picked.Pairwise (· < ·) ∧
        (∀ n, n ∈ picked ↔ ∃ part ∈ items raw, Selects upper part n) ∧
        (∀ raw', (∀ part, part ∈ items raw' ↔ part ∈ items raw) →
          parseSelection raw' upper = .ok picked) ∧
        parseSelection (listed picked) upper = .ok picked) ∧
    ∀ (q : Question) (message : String) (c : Console), q.kind = .checkbox →
      (∀ f, (Console.ask q message c).1 = .error f →
        f = .abort ∨ ∃ text, f = .mishap .notWritable text) ∧
      (∀ line numbers, parseSelection line q.choices.length = .ok numbers →
        (q.numbered numbers).length = numbers.length) ∧
      (Scalar message.toList → (∀ choice ∈ q.choices, Scalar choice.name.toList) →
        (∀ line ∈ c.lines, Scalar line.toList) →
        (∃ refused line later answers, c.lines = refused ++ line :: later ∧
          (∀ r ∈ refused, Refuses q r) ∧ Takes q line answers ∧
          Console.ask q message c = (.ok (.several answers), { c with
            lines := later
            shown := c.opened q message ++ c.refusals q refused ++ c.typed line })) ∨
        ((∀ r ∈ c.lines, Refuses q r) ∧
          Console.ask q message c = (.error .abort, { c with
            lines := []
            shown := c.opened q message ++ c.refusals q c.lines }))) := by
  refine ⟨fun raw upper => ⟨fun f hf => ?_, ⟨?_, fun hall => ?_⟩, fun picked hp => ?_⟩,
    fun q message c hk => ⟨fun f hf => ?_, fun _ _ h => length_numbered h, ask_checklist hk⟩⟩
  · obtain ⟨part, -, hpart⟩ := parseSelection_error hf
    exact partNumber_error hpart
  · rintro ⟨picked, hp⟩
    exact (parseSelection_eq_ok_iff.1 hp).1
  · cases hp : parseSelection raw upper with
    | ok picked => exact ⟨picked, rfl⟩
    | error f =>
      obtain ⟨part, hpart, hf⟩ := parseSelection_error hp
      obtain ⟨n, hn⟩ := hall part hpart
      simp [partNumber_eq_ok_iff.2 hn] at hf
  · obtain ⟨-, hascending, hmem⟩ := parseSelection_eq_ok_iff.1 hp
    exact ⟨hascending, hmem, fun raw' h => (parseSelection_congr h).2 hp, parseSelection_listed hp⟩
  · simp only [Console.ask, hk] at hf
    exact Console.asking_error hf

/-- A checklist of three choices that was answered by number, at the third attempt. -/
theorem checklist_answered_late :
    let q : Question := ⟨.checkbox, "groups", fun _ => .ok "Pick groups",
      [.of "deploy" (.value .null) "" true, .of "data" (.value .null) "" false,
        .of "users" (.value .null) "" true], .null, fun _ => true⟩
    let c : Console := ⟨false, true, ["9", "one", " 3,, 1,1 ", "2"], ""⟩
    ∃ refused line later answers, c.lines = refused ++ line :: later ∧
      (∀ r ∈ refused, Refuses q r) ∧ Takes q line answers ∧
      Console.ask q "Pick groups" c = (.ok (.several answers), { c with
        lines := later
        shown := c.opened q "Pick groups" ++ c.refusals q refused ++ c.typed line }) := by
  intro q c
  obtain ⟨-, -, hask⟩ := checklist_input.2 q "Pick groups" c rfl
  have htexts : ∀ choice ∈ q.choices, Text.Ascii choice.name.toList := by decide
  have hlines : ∀ line ∈ c.lines, Text.Ascii line.toList := by decide
  rcases hask (scalar_of_ascii (by decide)) (fun choice h => scalar_of_ascii (htexts choice h))
    (fun line h => scalar_of_ascii (hlines line h)) with h | ⟨hall, -⟩
  · exact h
  · have htaken := (hall " 3,, 1,1 " (by simp [c])).2 [1, 3]
    exact absurd (by rfl) htaken

/-- Zeros in front of a number can be too many, a part that is blanked out takes its number
with it, and a choice with half a character in its name is not shown, so nothing is read. -/
theorem unread_checklists :
    (let digits : List Char := List.replicate 4300 '0' ++ ['1']
      let values : List Nat := List.replicate 4300 0 ++ [1]
      digits.map Text.decimalValue? = values.map some ∧ Text.positional 10 values = 1 ∧
        ∀ picked, parseSelection (String.ofList digits) 3 ≠ .ok picked) ∧
    (parseSelection "1,2" 3 = .ok [1, 2] ∧ parseSelection "1, " 3 = .ok [1]) ∧
    (let broken : Question := ⟨.checkbox, "groups", fun _ => .ok "Pick groups",
        [.of (String.ofList (Text.ofPoint 0xd800)) (.value .null) "" true], .null, fun _ => true⟩
      ∃ text c', Console.ask broken "Pick groups" ⟨true, true, ["1"], ""⟩ =
        (.error (.mishap .notWritable text), c')) := by
  have hvalues : (List.replicate 4300 '0' ++ ['1']).map Text.decimalValue? =
      (List.replicate 4300 0 ++ [1]).map some := by
    rw [List.map_append, List.map_append, List.map_replicate, List.map_replicate]
    rfl
  have hlong : Text.wholeLimit < (List.replicate 4300 '0' ++ ['1']).length := by
    rw [List.length_append, List.length_replicate]
    decide
  have hdigits := isDigit_of_values hvalues
  exact ⟨⟨hvalues, by decide +kernel, parseSelection_of_oversized hdigits hlong⟩, ⟨rfl, rfl⟩,
    _, _, rfl⟩

end Provision.Interview
