import Provision.Proofs.Action.MessageLaws
import Provision.Proofs.Command.OutputLaws
import Provision.Proofs.Text.Utf8Laws

/-!
# The verdict on a process

Whatever a process leaves behind, the tool either raises what kept it from being launched or
answers with a verdict: a success if nothing speaks of a failure, and else a failure with its
cause. There is one exception. An output that is JSON but goes beyond what the reader takes
has neither; the fault of the reader is raised instead (`run_of_overflows`), and nothing is said
(`answered_iff`).
-/

namespace Provision

open Outcome
open Text (trim isBlankText decodeUtf8Lenient)

namespace Tool

-- ---------------------------------------------------------------------------
-- Verdicts
-- ---------------------------------------------------------------------------

structure Clean (parsed : Entries) (said : String) (code : Int) : Prop where
  silent : isBlankText said = true
  code : code = 0
  status : ∀ status, parsed.get? "status" = some status →
    status = .null ∨ status.same (.int 0) = true

/-- A process that ended in time, printed these entries and left nothing that speaks of a
failure. -/
def SucceedsWith (parsed : Entries) : Ending → Prop
  | .ended output errors code _ =>
    Command.parseOutput (decodeUtf8Lenient output) = .ok parsed ∧
      Clean parsed (decodeUtf8Lenient errors) code
  | _ => False

def Succeeds (ending : Ending) : Prop := ∃ parsed, SucceedsWith parsed ending

/-- The cause of a failure, by what the process left behind. -/
inductive Cause (t : Tool) : Ending → Value → Prop
  | late {elapsed : Float} :
    Cause t (.overdue elapsed) (.str s!"Command timed out after {t.timeout.text}s")
  | written {output errors : List UInt8} {code : Int} {elapsed : Float}
    (hs : isBlankText (decodeUtf8Lenient errors) = false) :
    Cause t (.ended output errors code elapsed) (.str (trim (decodeUtf8Lenient errors)))
  | printed {output errors : List UInt8} {code : Int} {elapsed : Float} {parsed : Entries}
    (hs : isBlankText (decodeUtf8Lenient errors) = true)
    (hp : Command.parseOutput (decodeUtf8Lenient output) = .ok parsed)
    (hm : (parsed.getD "message").truthy = true) :
    Cause t (.ended output errors code elapsed) (parsed.getD "message")
  | coded {output errors : List UInt8} {code : Int} {elapsed : Float} {parsed : Entries}
    (hs : isBlankText (decodeUtf8Lenient errors) = true)
    (hp : Command.parseOutput (decodeUtf8Lenient output) = .ok parsed)
    (hm : (parsed.getD "message").truthy = false) :
    Cause t (.ended output errors code elapsed) (.str s!"Command exited with code {code}")

/-- What a command says of a failure: its own words, or the cause if it has none. -/
def wording (c : Command) (cause : Value) : String :=
  if c.errorMsg = "" then cause.text else c.errorMsg

structure Failed (c : Command) (cause : Value) (o : Outcome) : Prop where
  status : o.status = .failure
  recorded : o.detail.get? "cause" = some cause
  message : o.message = wording c cause
  message_ne : o.message ≠ ""

structure Verdict (t : Tool) (c : Command) (ending : Ending) (o : Outcome) : Prop where
  finalized : o.finalized = true
  kind : o.kind = .executor
  success_iff : o.status = .success ↔ Succeeds ending
  failed : ¬Succeeds ending → ∃ cause, Cause t ending cause ∧ Failed c cause o

def announcement (c : Command) (o : Outcome) (now : Moment) : String :=
  s!"[{o.durationText now}] {o.status.name}: " ++
    if o.status = .success then c.successMsg else o.message

def aftermath : Ending → List ShellEvent
  | .overdue _ => [.killed]
  | _ => []

/-- What kept a command from being launched is raised. Else there is a verdict, and it is the
one thing that is said after the launch. -/
structure Answered (t : Tool) (c : Command) (log : List ShellEvent) (ending : Ending)
    (reply : Runner.Reply (List ShellEvent)) : Prop where
  result : (∃ r, ending = .refused r ∧ reply.result = .error r ∧ reply.progress = opening c) ∨
    ∃ o, reply.result = .ok o ∧ Verdict t c ending o ∧
      reply.progress = opening c ++ [announcement c o reply.now]
  shell : reply.state =
    log ++ .launched (c.line t.program) t.directory :: aftermath ending

/-- The output of a process that ended in time is beyond the reader's limits. -/
def Overflows : Ending → Prop
  | .ended output _ _ _ => Command.Excessive (decodeUtf8Lenient output)
  | _ => False

variable {t : Tool} {c : Command} {line : String} {now now' : Moment} {log : List ShellEvent}
  {parsed es : Entries} {output errors : List UInt8} {said : String} {code : Int}
  {elapsed : Float} {ending : Ending} {o : Outcome} {v cause : Value}

-- ---------------------------------------------------------------------------
-- What speaks of a failure
-- ---------------------------------------------------------------------------

theorem same_null_iff : v.same .null = true ↔ v = .null := by
  cases v <;> simp [Value.same]

theorem statusOk_iff {status : Value} :
    statusOk status = true ↔ status = .null ∨ status.same (.int 0) = true := by
  rw [statusOk, Bool.or_eq_true, same_null_iff]
  exact or_comm

theorem statusOk_getD_iff :
    statusOk ((parsed.get? "status").getD (.int 0)) = true ↔
      ∀ status, parsed.get? "status" = some status →
        status = .null ∨ status.same (.int 0) = true := by
  rw [statusOk_iff]
  cases parsed.get? "status" with
  | none => simp [Value.same]
  | some status => simp

theorem not_clean_iff :
    ¬Clean parsed said code ↔
      trim said ≠ "" ∨ code ≠ 0 ∨ !statusOk ((parsed.get? "status").getD (.int 0)) := by
  have hclean : Clean parsed said code ↔
      trim said = "" ∧ code = 0 ∧ statusOk ((parsed.get? "status").getD (.int 0)) = true := by
    rw [Text.trim_eq_empty_iff, statusOk_getD_iff]
    exact ⟨fun h => ⟨h.silent, h.code, h.status⟩, fun ⟨h, hc, hs⟩ => ⟨h, hc, hs⟩⟩
  rw [hclean, not_and_or, not_and_or, Bool.not_eq_true', Bool.not_eq_true]

theorem succeeds_iff (hp : Command.parseOutput (decodeUtf8Lenient output) = .ok parsed) :
    Succeeds (.ended output errors code elapsed) ↔
      Clean parsed (decodeUtf8Lenient errors) code := by
  constructor
  · rintro ⟨parsed', hp', h⟩
    cases hp.symm.trans hp'
    exact h
  · exact fun h => ⟨parsed, hp, h⟩

-- ---------------------------------------------------------------------------
-- Causes
-- ---------------------------------------------------------------------------

theorem Cause.truthy (h : Cause t ending cause) : cause.truthy = true := by
  cases h with
  | late => simp [Value.truthy, ToString.toString]
  | @written _ errors _ _ hs =>
    rw [truthy_str_iff, Ne, Text.trim_eq_empty_iff]
    exact ne_true_of_eq_false hs
  | printed _ _ hm => exact hm
  | coded => simp [Value.truthy, ToString.toString]

theorem judged_cause (hp : Command.parseOutput (decodeUtf8Lenient output) = .ok parsed) :
    Cause t (.ended output errors code elapsed)
      (firstGiven (.str (trim (decodeUtf8Lenient errors)))
        [parsed.getD "message", codeText code]) := by
  cases hs : isBlankText (decodeUtf8Lenient errors) with
  | false =>
    have hcause : Cause t (.ended output errors code elapsed) _ := .written hs
    rwa [firstGiven_of_truthy hcause.truthy]
  | true =>
    rw [Text.trim_eq_empty_iff.2 hs, firstGiven_of_not_truthy rfl]
    cases hm : (parsed.getD "message").truthy with
    | true =>
      rw [firstGiven_of_truthy hm]
      exact .printed hs hp hm
    | false =>
      rw [firstGiven_of_not_truthy hm]
      exact .coded hs hp hm

-- ---------------------------------------------------------------------------
-- Failures
-- ---------------------------------------------------------------------------

theorem report_truthy (h : cause.truthy = true) :
    (firstGiven (.str c.errorMsg) [cause]).truthy = true := by
  by_cases he : c.errorMsg = ""
  · rwa [he, firstGiven_of_not_truthy rfl]
  · rw [firstGiven_str he]
    exact truthy_str_iff.2 he

theorem report_text (c : Command) (cause : Value) :
    (firstGiven (.str c.errorMsg) [cause]).text = wording c cause := by
  unfold wording
  split
  · next he => rw [he, firstGiven_of_not_truthy rfl, firstGiven]
  · next he => rw [firstGiven_str he, Value.text]

theorem fail_failed (c : Command) (line : String) (now now' : Moment)
    (hc : cause.truthy = true) (hk : "error_message" ∉ Entries.keys es)
    (hn : (Entries.keys es).Nodup) (he : es.get? "cause" = some cause) :
    Failed c cause ((begun c line now).fail
      (.value (firstGiven (.str c.errorMsg) [cause])) (.dict es) now').outcome := by
  have hmessage := fail_value_message (o := begun c line now) rfl (begun_open c line now)
    (report_truthy (c := c) hc) hk now'
  refine ⟨?_, ?_, hmessage.trans (report_text c cause), ?_⟩
  · rw [fail_of_open (begun_open c line now)]
    rfl
  · rw [fail_of_open (begun_open c line now)]
    exact (Entries.get?_merge hn).trans (by rw [he]; rfl)
  · rw [hmessage]
    exact Value.text_ne_empty (report_truthy hc)

theorem announcement_eq {words : String} (hw : words = "] " ++ o.status.name ++ ": ") :
    "[" ++ o.durationText now ++ words ++
        (if o.status = .success then c.successMsg else o.message) =
      announcement c o now := by
  rw [hw]
  simp only [announcement, String.append_assoc]
  rfl

theorem failureLine_eq (hv : v.truthy = true) (hk : "error_message" ∉ Entries.keys es) :
    failureLine (begun c line now) v now' =
      announcement c ((begun c line now).fail (.value v) (.dict es) now').outcome now' := by
  have hmessage := fail_value_message (o := begun c line now) rfl (begun_open c line now) hv hk now'
  rw [fail_of_open (begun_open c line now)] at hmessage ⊢
  have hduration : (begun c line now).durationText now' =
      (((begun c line now).blame (.value v)).close .failure (.dict es) now').durationText now' := by
    rw [close_durationText (blame_clockStart _), durationText_of_running rfl rfl]
  rw [← announcement_eq rfl, ← hduration, hmessage]
  rfl

-- ---------------------------------------------------------------------------
-- Verdicts on a run
-- ---------------------------------------------------------------------------

theorem fail_verdict (hn : ¬Succeeds ending) (hc : Cause t ending cause)
    (hk : "error_message" ∉ Entries.keys es) (hd : (Entries.keys es).Nodup)
    (he : es.get? "cause" = some cause) :
    Verdict t c ending ((begun c line now).fail
      (.value (firstGiven (.str c.errorMsg) [cause])) (.dict es) now').outcome := by
  have hfailed := fail_failed c line now now' hc.truthy hk hd he
  refine ⟨?_, ?_, ?_, fun _ => ⟨cause, hc, hfailed⟩⟩
  · rw [fail_of_open (begun_open c line now), close_finalized]
  · rw [fail_of_open (begun_open c line now), close_kind, blame_kind]
    rfl
  · rw [hfailed.status]
    exact iff_of_false Status.noConfusion hn

theorem timedOut_verdict (t : Tool) (c : Command) (line : String) (elapsed : Float)
    (now now' : Moment) :
    Verdict t c (.overdue elapsed) (t.timedOut c (begun c line now) now').1 :=
  fail_verdict (fun ⟨_, h⟩ => h) .late (by simp [Entries.keys]) (by simp [Entries.keys])
    (by simp [Entries.get?])

theorem timedOut_announcement (t : Tool) (c : Command) (line : String) (now now' : Moment) :
    (t.timedOut c (begun c line now) now').2.1 =
      announcement c (t.timedOut c (begun c line now) now').1 now' := by
  have hc : Cause t (.overdue 0.0) _ := .late
  exact failureLine_eq (report_truthy hc.truthy) (by simp [Entries.keys])

theorem judged_verdict (t : Tool) (c : Command) (line : String) (errors : List UInt8) (code : Int)
    (elapsed : Float) (now now' : Moment)
    (hp : Command.parseOutput (decodeUtf8Lenient output) = .ok parsed) :
    Verdict t c (.ended output errors code elapsed)
      (judged c (begun c line now) parsed (trim (decodeUtf8Lenient errors)) code now').1 := by
  have hsucceeds := @succeeds_iff parsed output errors code elapsed hp
  unfold judged
  dsimp only
  split
  · next hfail =>
    have hn := mt hsucceeds.1 (not_clean_iff.2 hfail)
    exact fail_verdict hn (judged_cause hp) (by simp [Entries.keys]) (by simp [Entries.keys])
      (by simp [Entries.get?])
  · next hclean =>
    have hs := hsucceeds.2 (not_not.1 (mt not_clean_iff.1 hclean))
    rw [succeed_of_open (begun_open c line now)]
    exact ⟨close_finalized, close_kind.trans rfl, iff_of_true rfl hs, fun hn => absurd hs hn⟩

theorem judged_announcement (t : Tool) (c : Command) (line : String) (errors : List UInt8)
    (code : Int) (now now' : Moment)
    (hp : Command.parseOutput (decodeUtf8Lenient output) = .ok parsed) :
    (judged c (begun c line now) parsed (trim (decodeUtf8Lenient errors)) code now').2.1 =
      announcement c
        (judged c (begun c line now) parsed (trim (decodeUtf8Lenient errors)) code now').1
        now' := by
  have hc : Cause t (.ended output errors code 0.0) _ := judged_cause hp
  unfold judged
  dsimp only
  split
  · exact failureLine_eq (report_truthy hc.truthy) (by simp [Entries.keys])
  · rw [succeed_of_open (begun_open c line now), ← announcement_eq rfl, close_durationText rfl,
      durationText_of_running rfl rfl]
    rfl

-- ---------------------------------------------------------------------------
-- Runs
-- ---------------------------------------------------------------------------

theorem run_of_overflows (t : Tool) (c : Command) (now : Moment) (log : List ShellEvent)
    (h : Overflows (t.ending (c.line t.program))) :
    ∃ f, (t.run c now .never log).result = .error (.fault f) ∧
      (t.run c now .never log).progress = opening c ∧
      (t.run c now .never log).state = log ++ [.launched (c.line t.program) t.directory] := by
  unfold run
  rw [opening_heard]
  dsimp only
  cases hend : t.ending (c.line t.program) with
  | ended output errors code elapsed =>
    rw [hend] at h
    obtain ⟨f, hf⟩ := Command.parseOutput_error_iff.2 h
    dsimp only
    rw [hf]
    exact ⟨f, rfl, rfl, rfl⟩
  | _ =>
    rw [hend] at h
    exact h.elim

theorem run_answered (t : Tool) (c : Command) (now : Moment) (log : List ShellEvent)
    (h : ¬Overflows (t.ending (c.line t.program))) :
    Answered t c log (t.ending (c.line t.program)) (t.run c now .never log) := by
  unfold run
  rw [opening_heard]
  dsimp only
  cases hend : t.ending (c.line t.program) with
  | refused r => exact ⟨.inl ⟨r, rfl, rfl, rfl⟩, rfl⟩
  | overdue elapsed =>
    have hverdict := timedOut_verdict t c (c.line t.program) elapsed now (now.after elapsed)
    have hlast := timedOut_announcement t c (c.line t.program) now (now.after elapsed)
    refine ⟨.inr ⟨_, rfl, hverdict, congrArg (fun last => opening c ++ [last]) hlast⟩, ?_⟩
    exact List.append_assoc ..
  | ended output errors code elapsed =>
    rw [hend] at h
    cases hp : Command.parseOutput (decodeUtf8Lenient output) with
    | error f => exact absurd (Command.parseOutput_error_iff.1 ⟨f, hp⟩) h
    | ok parsed =>
      simp only [hp]
      have hverdict := judged_verdict t c (c.line t.program) errors code elapsed now
        (now.after elapsed) hp
      have hlast := judged_announcement t c (c.line t.program) errors code now
        (now.after elapsed) hp
      generalize judged c (begun c (c.line t.program) now) parsed (trim (decodeUtf8Lenient errors))
        code (now.after elapsed) = report at hverdict hlast ⊢
      exact ⟨.inr ⟨_, rfl, hverdict, congrArg (fun last => opening c ++ [last]) hlast⟩, rfl⟩

/-- A run is answered unless the output is beyond the reader's limits. -/
theorem answered_iff (t : Tool) (c : Command) (now : Moment) (log : List ShellEvent) :
    Answered t c log (t.ending (c.line t.program)) (t.run c now .never log) ↔
      ¬Overflows (t.ending (c.line t.program)) := by
  constructor
  · intro hanswered hover
    obtain ⟨f, hf, -, -⟩ := run_of_overflows t c now log hover
    obtain ⟨r, hr, -, -⟩ | ⟨o, ho, -, -⟩ := hanswered.result
    · rw [hr] at hover
      exact hover
    · cases hf.symm.trans ho
  · exact run_answered t c now log

def printing (text : String) : Tool where
  launch := fun _ => .ended (text.toList.flatMap String.utf8EncodeChar) [] 0 0.0

theorem printed_text {text : String} (h : Text.Ascii text.toList) :
    decodeUtf8Lenient (text.toList.flatMap String.utf8EncodeChar) = text := by
  rw [Text.decodeUtf8Lenient_of_ascii h, String.ofList_toList]

def displayOrg : Command where
  command := "force:org:display"

def ones (digits : Nat) : String := String.ofList (List.replicate digits '1')

theorem overflows_ones {digits : Nat} (h : Text.wholeLimit < digits) (line : String) :
    Overflows ((printing (ones digits)).ending line) := by
  have hascii : Text.Ascii (ones digits).toList := by
    rw [ones, String.toList_ofList]
    exact Text.ascii_replicate digits (by decide)
  have hdecimal : ∀ d ∈ List.replicate digits '1', Json.isDecimal d = true := by
    intro d hd
    obtain rfl := List.eq_of_mem_replicate hd
    rfl
  have hfirst : (List.replicate digits '1').head? ≠ some '0' := by
    simp [List.head?_replicate]
  show Command.Excessive (decodeUtf8Lenient _)
  rw [printed_text hascii]
  exact Command.excessive_digits hdecimal hfirst (by rwa [List.length_replicate])

theorem long_number_unanswered :
    ¬Answered (printing (ones 4301)) displayOrg []
      ((printing (ones 4301)).ending (displayOrg.line Command.defaultProgram))
      ((printing (ones 4301)).run displayOrg .zero .never []) := by
  have hover := overflows_ones (show Text.wholeLimit < 4301 by decide)
    (displayOrg.line Command.defaultProgram)
  obtain ⟨f, hf, -, -⟩ := run_of_overflows (printing (ones 4301)) displayOrg .zero [] hover
  intro hanswered
  obtain ⟨r, hr, -, -⟩ | ⟨o, ho, -, -⟩ := hanswered.result
  · cases hr
  · cases hf.symm.trans ho

end Tool

end Provision
