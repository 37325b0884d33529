import Provision.Proofs.Action.AbsenceLaws
import Provision.Proofs.Action.Twins
import Provision.Proofs.Runner.Rehearsed

/-!
# Rehearsed actions

What a rehearsal was set to may be what the processes of the tool print. A command then ends in
the same way in both, and so does every action (`agrees_with_tool`): with the same status and
message, and by the same commands. This is so for what the reader of an output takes, and only
for that. A rehearsal reads nothing, so what is too long or too deep to be read is no obstacle
to it, as it is to the tool (`long_number_disagrees`).
-/

namespace Provision

open Outcome Stage

namespace Rehearsal

/-- Outcomes of a command that have the same kind, status and message and both hold some
entries. -/
def SameReport (es : Entries) (result result' : Except Raised Outcome) : Prop :=
  ∃ o o', result = .ok o ∧ result' = .ok o' ∧ o.kind = o'.kind ∧ o.status = o'.status ∧
    o.message = o'.message ∧
    ∀ key ∈ Entries.keys es, o.detail.get? key = es.get? key ∧ o'.detail.get? key = es.get? key

inductive SameEnd : Except Fault Outcome → Except Fault Outcome → Prop
  | ran {o o' : Outcome} (hs : o.status = o'.status) (hm : o.message = o'.message) :
      SameEnd (.ok o) (.ok o')
  | refused (f : Fault) : SameEnd (.error f) (.error f)

/-- What the tool prints for a command is what the rehearsal of it was set to, and the reader takes
it. -/
def ComesTrue (m : Rehearsal) (t : Tool) (c : Command) : Prop :=
  ∃ d k es, m.Printed c d k (t.ending (c.line t.program)) es ∧ Json.Within Json.nestingLimit d k

variable {m : Rehearsal} {t : Tool} {c : Command} {d k : Nat} {es : Entries}
  {result result' : Except Raised Outcome}

theorem Agree.sameReport (h : Agree es result result') : SameReport es result result' := by
  obtain ⟨o, o', ho, ho', hakin, hes⟩ := h
  exact ⟨o, o', ho, ho', hakin.kind, hakin.status, hakin.message, hes⟩

theorem ComesTrue.answers (h : m.ComesTrue t c) : m.toRunner.Answers t.toRunner c := by
  obtain ⟨d, k, es, hprinted, hw⟩ := h
  intro now now' calls log
  obtain ⟨o, o', ho, ho', hakin, -⟩ := hprinted.agree rfl hw now now' calls log
  exact ⟨o, o', ho, ho', hakin⟩

theorem sameReport_iff (h : m.Printed c d k (t.ending (c.line t.program)) es)
    (now now' : Moment) (calls : List Command) (log : List ShellEvent) :
    SameReport es (m.run c now .never calls).result (t.run c now' .never log).result ↔
      Json.Within Json.nestingLimit d k := by
  constructor
  · rintro ⟨o, o', -, ho', -⟩
    refine Classical.byContradiction fun hw => ?_
    obtain ⟨f, hf⟩ := h.raised rfl hw now' log
    cases hf.symm.trans ho'
  · intro hw
    exact (h.agree rfl hw now now' calls log).sameReport

theorem sameEnd (a : Action) (c : Option Context) (options : Entries) {s : Stage (List Command)}
    {u : Stage (List ShellEvent)} (hs : Twin s u)
    (h : ∀ command ∈ since s ((a.run m.toRunner c options).run s).2, m.ComesTrue t command) :
    SameEnd ((a.run m.toRunner c options).run s).1 ((a.run t.toRunner c options).run u).1 ∧
      ((a.run m.toRunner c options).run s).2.calls =
        ((a.run t.toRunner c options).run u).2.calls := by
  obtain ⟨htwin, hran⟩ := Action.run_mirrors a c options s u hs fun command hc =>
    (h command hc).answers
  refine ⟨?_, htwin.calls⟩
  generalize ((a.run m.toRunner c options).run s).1 = result at hran ⊢
  generalize ((a.run t.toRunner c options).run u).1 = result' at hran ⊢
  cases hran with
  | ok h => exact .ran h.status h.message
  | refused f => exact .refused f

/-- Where the tool prints what a rehearsal was set to, its report on a command is the same exactly
within the limits of the reader. Where it does so for the commands of an action, the action ends in
the same way and by the same commands. -/
theorem agrees_with_tool (m : Rehearsal) (t : Tool) :
    (∀ c d k es, m.Printed c d k (t.ending (c.line t.program)) es → ∀ now now' calls log,
      (SameReport es (m.run c now .never calls).result (t.run c now' .never log).result ↔
        Json.Within Json.nestingLimit d k)) ∧
    ∀ (a : Action) (c : Option Context) (options : Entries) (s : Stage (List Command))
      (u : Stage (List ShellEvent)), Twin s u →
      (∀ command ∈ since s ((a.run m.toRunner c options).run s).2, m.ComesTrue t command) →
      SameEnd ((a.run m.toRunner c options).run s).1 ((a.run t.toRunner c options).run u).1 ∧
        ((a.run m.toRunner c options).run s).2.calls =
          ((a.run t.toRunner c options).run u).2.calls :=
  ⟨fun _ _ _ _ h => sameReport_iff h, fun a c options _ _ => sameEnd a c options⟩

-- ---------------------------------------------------------------------------
-- A deletion that is denied
-- ---------------------------------------------------------------------------

def entryText (key : String) (cs : List Char) : String :=
  String.ofList ('\x7b' :: Text.doubleQuote ::
    (key.toList ++ Text.doubleQuote :: ':' :: (cs ++ ['\x7d'])))

theorem prints_entry {key : String} {cs : List Char} {v : Value}
    (hk : Json.Letters key.toList key.toList) (h : Json.Spells d k cs (.value v)) :
    Json.Prints (d + 1) k (entryText key cs) (.dict [(key, v)]) := by
  have hnone : Json.Gap [] := nofun
  have hspells := Json.Spells.dict (.lastEntry hnone hnone hnone hnone hk h)
  rw [String.ofList_toList] at hspells
  refine ⟨[], _, [], ?_, hnone, hnone, hspells⟩
  simp [entryText]

theorem ascii_entryText {key : String} {cs : List Char} (hk : Text.Ascii key.toList)
    (hcs : Text.Ascii cs) : Text.Ascii (entryText key cs).toList := by
  have hbraces : Text.Ascii ['\x7b', Text.doubleQuote, ':', '\x7d'] := by decide
  simp only [Text.ascii_cons, Text.ascii_nil, and_true] at hbraces
  rw [entryText, String.toList_ofList]
  simp only [Text.ascii_cons, Text.ascii_append, Text.ascii_nil, hk, hcs, hbraces, and_self]

def denial : String := entryText "name" "\"AuthError\"".toList

def denying : Tool where
  launch := fun _ => .ended (denial.toList.flatMap String.utf8EncodeChar)
    ("Dev hub is not authorized\n".toList.flatMap String.utf8EncodeChar) 1 0.0

theorem prints_denial : Json.Prints 1 0 denial (.dict [("name", .str "AuthError")]) := by
  have hname : Json.Letters "name".toList "name".toList := .of_plain rfl
  have herror : Json.Letters "AuthError".toList "AuthError".toList := .of_plain rfl
  exact prints_entry hname (.text herror)

theorem refusing_printed (h : c.command = "force:org:delete") (line : String) :
    Action.refusing.Printed c 1 0 (denying.ending line)
      [("cause", .str "Dev hub is not authorized"), ("error_name", .str "AuthError"),
        ("stderr", .str "Dev hub is not authorized")] := by
  have hdenial : Text.Ascii denial.toList := ascii_entryText (by decide) (by decide)
  have houtput := Tool.printed_text hdenial
  have herrors := Tool.printed_text
    (show Text.Ascii "Dev hub is not authorized\n".toList by decide)
  have hsays : Command.Says 1 0
      (Text.decodeUtf8Lenient (denial.toList.flatMap String.utf8EncodeChar))
      [("name", .str "AuthError")] := by
    rw [houtput]
    exact .object prints_denial
  refine .failure (by rw [h]; rfl) (by rw [h]; rfl) (by decide) ?_ hsays rfl
  rw [herrors]
  rfl

theorem denied_deletion_agrees :
    (∀ c : Command, c.command = "force:org:delete" → SameReport
      [("cause", .str "Dev hub is not authorized"), ("error_name", .str "AuthError"),
        ("stderr", .str "Dev hub is not authorized")]
      (Action.refusing.run c .zero .never []).result (denying.run c .zero .never []).result) ∧
    SameEnd (Action.deletion "demo1").1
      (((Action.ofName .deleteScratchOrg).run denying.toRunner (some Action.office)
        [("scratchOrgAlias", .str "demo1")]).run (.opened [] .zero)).1 ∧
    (Action.deletion "demo1").1.toOption.map (·.status) = some .error := by
  have hw : Json.Within Json.nestingLimit 1 0 := ⟨by decide, by decide⟩
  obtain ⟨hreport, hend⟩ := agrees_with_tool Action.refusing denying
  refine ⟨fun c hc => (hreport c 1 0 _ (refusing_printed hc _) _ _ _ _).2 hw, ?_, by decide +kernel⟩
  have htwin : Twin (.opened [] .zero : Stage (List Command))
      (.opened [] .zero : Stage (List ShellEvent)) := ⟨rfl, rfl, fun _ => rfl, fun _ => rfl⟩
  have hcommands : (Action.deletion "demo1").2.calls.map (·.command) = ["force:org:delete"] := by
    decide +kernel
  rw [Action.deletion] at hcommands
  refine (hend (Action.ofName .deleteScratchOrg) (some Action.office)
    [("scratchOrgAlias", .str "demo1")] _ _ htwin fun command hc => ?_).1
  rw [since_opened] at hc
  have hcommand := List.mem_map_of_mem (f := (·.command)) hc
  rw [hcommands] at hcommand
  exact ⟨1, 0, _, refusing_printed (List.mem_singleton.1 hcommand) _, hw⟩

-- ---------------------------------------------------------------------------
-- A number that is too long
-- ---------------------------------------------------------------------------

def counted (digits : Nat) : String := entryText "result" (List.replicate digits '1')

def count (digits : Nat) : Entries :=
  [("result", .int (Decimal.digitsValue (List.replicate digits '1')))]

theorem prints_counted {digits : Nat} (h : 0 < digits) :
    Json.Prints 1 digits (counted digits) (.dict (count digits)) := by
  have hdigits : Json.Digits (List.replicate digits '1') := by
    refine ⟨by simpa using Nat.ne_of_gt h, fun x hx => ?_⟩
    obtain rfl := List.eq_of_mem_replicate hx
    rfl
  have hwhole : Json.Whole (List.replicate digits '1') :=
    ⟨hdigits, .inr (by simp [List.head?_replicate])⟩
  have hresult : Json.Letters "result".toList "result".toList := .of_plain rfl
  have hspells := Json.Spells.whole false hwhole
  rw [List.length_replicate] at hspells
  exact prints_entry hresult hspells

def deployment : Command where
  command := ActionName.deployMetadata.command

def counting (digits : Nat) : Rehearsal where
  outputs := [(deployment.command, count digits)]

theorem long_number_disagrees :
    (counting 4301).Printed deployment 1 4301
      ((Tool.printing (counted 4301)).ending (deployment.line Command.defaultProgram))
      (count 4301) ∧
    ((counting 4301).run deployment .zero .never []).result.toOption.map (·.status) =
      some .success ∧
    ¬SameReport (count 4301) ((counting 4301).run deployment .zero .never []).result
      ((Tool.printing (counted 4301)).run deployment .zero .never []).result := by
  have hascii : Text.Ascii (counted 4301).toList :=
    ascii_entryText (by decide) (Text.ascii_replicate 4301 (by decide))
  have hsays : Command.Says 1 4301
      (Text.decodeUtf8Lenient ((counted 4301).toList.flatMap String.utf8EncodeChar))
      (count 4301) := by
    rw [Tool.printed_text hascii]
    exact .object (prints_counted (by decide))
  have hsilent : Text.isBlankText (Text.decodeUtf8Lenient []) = true := by
    rw [Text.decodeUtf8Lenient_nil]
    rfl
  have hprinted : (counting 4301).Printed deployment 1 4301
      ((Tool.printing (counted 4301)).ending (deployment.line Command.defaultProgram))
      (count 4301) :=
    .output rfl rfl rfl nofun hsilent hsays
  refine ⟨hprinted, rfl, ?_⟩
  rintro ⟨o, o', -, ho', -⟩
  obtain ⟨f, hf⟩ := hprinted.raised rfl (fun hw => absurd hw.2 (by decide)) .zero []
  cases hf.symm.trans ho'

end Rehearsal

end Provision
