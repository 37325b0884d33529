import Provision.Outcome.Report
import Provision.Proofs.Runner.Verdict
import Provision.Value.Loose

/-!
# What a run records of itself

An outcome records the line that was run, the code with which its process ended and the
messages of the command. A failure keeps what the process printed under a key of its own, so
nothing of the record is lost. The entries that a successful process printed are merged into
the same detail, though, and they stay out of the record only if they say nothing of its keys
or the same (`undisturbed_iff`).
-/

namespace Provision

open Outcome
open Text (trim decodeUtf8Lenient)

theorem Outcome.report_error_of_silent {o : Outcome} (h : o.message = "") (epoch : Int)
    (now : Moment) : Value.Loose.has (o.report epoch now) "error" = false := by
  cases o with
  | mk name kind policy status detail fault started ended clockStart clockEnd finalized children =>
    unfold report
    dsimp only
    rw [if_pos h]
    cases children <;> cases detail <;> simp [Value.Loose.has, Entries.get?]

namespace Tool

-- ---------------------------------------------------------------------------
-- The record
-- ---------------------------------------------------------------------------

def startRecord (c : Command) (line : String) : Entries := ("cmd_raw", .str line) :: c.messages

def endRecord : Ending → Entries
  | .ended _ _ code _ => [("return_code", .int code)]
  | _ => []

def ownRecord (c : Command) (line : String) (ending : Ending) : Entries :=
  endRecord ending ++ startRecord c line

structure Undisturbed (c : Command) (line : String) (ending : Ending) (o : Outcome) : Prop where
  kept : ∀ key v, (key, v) ∈ ownRecord c line ending → o.detail.get? key = some v
  silent : o.status = .success →
    o.message = "" ∧ ∀ epoch now, Value.Loose.has (o.report epoch now) "error" = false

/-- What a process printed says nothing of the record or the same, and it names no error. -/
structure Discreet (record parsed : Entries) : Prop where
  same : ∀ key v, (key, v) ∈ record → ∀ w, parsed.get? key = some w → w = v
  nameless : (parsed.getD "error_message").truthy = false

variable {t : Tool} {c : Command} {line : String} {now now' : Moment} {log : List ShellEvent}
  {objection : Objection String} {parsed es : Entries} {key : String} {v : Value}
  {output : List UInt8} {ending : Ending} {o : Outcome}

-- ---------------------------------------------------------------------------
-- Details
-- ---------------------------------------------------------------------------

theorem begun_detail (c : Command) (line : String) (now : Moment) :
    (begun c line now).detail = startRecord c line := rfl

theorem keys_startRecord (c : Command) (line : String) :
    Entries.keys (startRecord c line) = ["cmd_raw", "progress_msg", "error_msg", "success_msg"] :=
  rfl

theorem nodup_keys_startRecord (c : Command) (line : String) :
    (Entries.keys (startRecord c line)).Nodup := by
  simp [keys_startRecord]

theorem nodup_keys_ownRecord (c : Command) (line : String) (ending : Ending) :
    (Entries.keys (ownRecord c line ending)).Nodup := by
  cases ending <;> simp [ownRecord, endRecord, startRecord, Command.messages, Entries.keys]

theorem error_message_not_recorded (c : Command) (line : String) (ending : Ending) :
    "error_message" ∉ Entries.keys (ownRecord c line ending) := by
  cases ending <;> simp [ownRecord, endRecord, startRecord, Command.messages, Entries.keys]

theorem fail_detail (hv : v.truthy = true) (hn : (Entries.keys es).Nodup)
    (hk : key ≠ "error_message") :
    ((begun c line now).fail (.value v) (.dict es) now').outcome.detail.get? key =
      (es.get? key).or ((startRecord c line).get? key) := by
  have hblame : ((begun c line now).blame (.value v)).detail.get? key =
      (begun c line now).detail.get? key := by
    rw [blame, if_pos hv]
    exact Entries.get?_put_of_ne hk _ _
  rw [fail_of_open (begun_open c line now), ← begun_detail c line now, ← hblame]
  exact Entries.get?_merge hn

/-- A success adds what is recorded of the end and lets what was printed write over it all. -/
theorem succeed_detail (c : Command) (line : String) (ending : Ending) (now now' : Moment)
    (key : String) (hn : (Entries.keys parsed).Nodup) :
    ((begun c line now).succeed
        (.dict (Entries.merge (endRecord ending) parsed)) now').outcome.detail.get? key =
      (parsed.get? key).or ((ownRecord c line ending).get? key) := by
  have hend : (Entries.keys (endRecord ending)).Nodup := by
    cases ending <;> simp [endRecord, Entries.keys]
  have hmerged : (Entries.keys (Entries.merge (endRecord ending) parsed)).Nodup :=
    Entries.nodup_keys_merge hend
  rw [succeed_of_open (begun_open c line now), ownRecord, Entries.get?_append, ← Option.or_assoc,
    ← Entries.get?_merge hn, ← begun_detail c line now]
  exact Entries.get?_merge hmerged

theorem succeed_message (c : Command) (line : String) (ending : Ending) (now now' : Moment)
    (hn : (Entries.keys parsed).Nodup) :
    ((begun c line now).succeed
        (.dict (Entries.merge (endRecord ending) parsed)) now').outcome.message =
      if (parsed.getD "error_message").truthy then (parsed.getD "error_message").text else "" := by
  have hnone := Entries.get?_eq_none_iff.2 (error_message_not_recorded c line ending)
  have hdetail := succeed_detail c line ending now now' "error_message" hn
  rw [hnone, Option.or_none] at hdetail
  have hown : Entries.getD "error_message" ((begun c line now).succeed
      (.dict (Entries.merge (endRecord ending) parsed)) now').outcome.detail =
      parsed.getD "error_message" := congrArg (Option.getD · Value.null) hdetail
  rw [message_eq, hown, succeed_of_open (begun_open c line now)]
  rfl

-- ---------------------------------------------------------------------------
-- Records that are kept
-- ---------------------------------------------------------------------------

theorem fail_undisturbed (hv : v.truthy = true) (hn : (Entries.keys es).Nodup)
    (hend : ∀ key w, (key, w) ∈ endRecord ending → es.get? key = some w)
    (hstart : ∀ key ∈ Entries.keys (startRecord c line), key ∉ Entries.keys es) :
    Undisturbed c line ending
      ((begun c line now).fail (.value v) (.dict es) now').outcome := by
  constructor
  · intro key w hw
    have hkey : key ∈ Entries.keys (ownRecord c line ending) := List.mem_map.2 ⟨_, hw, rfl⟩
    have hk : key ≠ "error_message" := by
      rintro rfl
      exact error_message_not_recorded c line ending hkey
    rw [fail_detail hv hn hk]
    obtain hw | hw := List.mem_append.1 hw
    · rw [hend key w hw]
      rfl
    · have hnone := Entries.get?_eq_none_iff.2 (hstart key (List.mem_map.2 ⟨_, hw, rfl⟩))
      rw [hnone, Entries.get?_of_mem (nodup_keys_startRecord c line) hw]
      rfl
  · rw [fail_of_open (begun_open c line now)]
    exact nofun

theorem timedOut_undisturbed (t : Tool) (c : Command) (line : String) (elapsed : Float)
    (now now' : Moment) :
    Undisturbed c line (.overdue elapsed) (t.timedOut c (begun c line now) now').1 := by
  have hc : Cause t (.overdue elapsed) _ := .late
  refine fail_undisturbed (report_truthy hc.truthy) (by simp [Entries.keys]) nofun ?_
  rw [keys_startRecord]
  simp [Entries.keys]

theorem succeed_undisturbed_iff (hn : (Entries.keys parsed).Nodup) :
    Undisturbed c line ending ((begun c line now).succeed
        (.dict (Entries.merge (endRecord ending) parsed)) now').outcome ↔
      Discreet (ownRecord c line ending) parsed := by
  have hdetail (key : String) := succeed_detail c line ending now now' key hn
  have hmessage := succeed_message c line ending now now' hn
  constructor
  · intro h
    constructor
    · intro key v hv w hw
      have hkept := h.kept key v hv
      rw [hdetail, hw] at hkept
      exact Option.some.inj hkept
    · cases htruthy : (parsed.getD "error_message").truthy with
      | false => rfl
      | true =>
        rw [htruthy, if_pos rfl, (h.silent rfl).1] at hmessage
        exact absurd hmessage.symm (Value.text_ne_empty htruthy)
  · intro h
    constructor
    · intro key v hv
      rw [hdetail, Entries.get?_of_mem (nodup_keys_ownRecord c line ending) hv]
      cases hw : parsed.get? key with
      | none => rfl
      | some w =>
        rw [h.same key v hv w hw]
        rfl
    · intro _
      rw [h.nameless] at hmessage
      exact ⟨hmessage, report_error_of_silent hmessage⟩

theorem judged_undisturbed_iff (t : Tool) (c : Command) (line : String) (errors : List UInt8)
    (code : Int) (elapsed : Float) (now now' : Moment)
    (hp : Command.parseOutput (decodeUtf8Lenient output) = .ok parsed) :
    Undisturbed c line (.ended output errors code elapsed)
        (judged c (begun c line now) parsed (trim (decodeUtf8Lenient errors)) code now').1 ↔
      (Clean parsed (decodeUtf8Lenient errors) code →
        Discreet (ownRecord c line (.ended output errors code elapsed)) parsed) := by
  unfold judged
  dsimp only
  split
  · next hfail =>
    refine iff_of_true ?_ fun hclean => absurd hclean (not_clean_iff.2 hfail)
    have hc : Cause t (.ended output errors code elapsed) _ := judged_cause hp
    refine fail_undisturbed (report_truthy hc.truthy) (by simp [Entries.keys]) ?_ ?_
    · simp [endRecord, Entries.get?]
    · rw [keys_startRecord]
      simp [Entries.keys]
  · next hsound =>
    have hclean := not_not.1 (mt not_clean_iff.1 hsound)
    have hiff := @succeed_undisturbed_iff c line now now' parsed
      (.ended output errors code elapsed) (Command.nodup_keys_of_parseOutput hp)
    exact hiff.trans (imp_iff_right hclean).symm

-- ---------------------------------------------------------------------------
-- Runs
-- ---------------------------------------------------------------------------

theorem printing_result {text : String} (ha : Text.Ascii text.toList)
    (hp : Command.parseOutput text = .ok parsed) (hs : parsed.get? "status" = none)
    (c : Command) (now : Moment) (log : List ShellEvent) :
    ((printing text).run c now .never log).result =
      .ok ((begun c (c.line Command.defaultProgram) now).succeed
        (.dict (Entries.merge [("return_code", .int 0)] parsed)) (now.after 0.0)).outcome := by
  have hsilent : trim (decodeUtf8Lenient []) = "" := by
    rw [Text.trim_eq_empty_iff, decodeUtf8Lenient, Text.decodeLenientChars]
    rfl
  have hclean : ¬(trim (decodeUtf8Lenient []) ≠ "" ∨ (0 : Int) ≠ 0 ∨
      !statusOk ((parsed.get? "status").getD (.int 0))) := by
    simp [hsilent, hs, statusOk, Value.same]
  have hend : (printing text).ending (c.line (printing text).program) =
      .ended (text.toList.flatMap String.utf8EncodeChar) [] 0 0.0 := rfl
  have hjudged : (judged c (begun c (c.line Command.defaultProgram) now) parsed
      (trim (decodeUtf8Lenient [])) 0 (now.after 0.0)).1 =
      ((begun c (c.line Command.defaultProgram) now).succeed
        (.dict (Entries.merge [("return_code", .int 0)] parsed)) (now.after 0.0)).outcome := by
    unfold judged
    dsimp only
    rw [if_neg hclean]
  unfold run
  rw [opening_heard]
  dsimp only
  rw [hend]
  dsimp only
  rw [printed_text ha, hp]
  exact congrArg Except.ok hjudged

/-- A run keeps its record unless a process that succeeded has printed something else under
one of its keys, or an error. -/
theorem undisturbed_iff (h : (t.run c now objection log).result = .ok o) :
    Undisturbed c (c.line t.program) (t.ending (c.line t.program)) o ↔
      ∀ parsed, SucceedsWith parsed (t.ending (c.line t.program)) →
        Discreet (ownRecord c (c.line t.program) (t.ending (c.line t.program))) parsed := by
  have hreported := reported_of_run h
  generalize t.ending (c.line t.program) = ending at hreported ⊢
  cases hreported with
  | overdue => exact iff_of_true (timedOut_undisturbed ..) nofun
  | @ended output errors code elapsed parsed hp =>
    rw [judged_undisturbed_iff t _ _ _ _ _ _ _ hp]
    constructor
    · rintro hdiscreet parsed' ⟨hp', hclean⟩
      cases hp.symm.trans hp'
      exact hdiscreet hclean
    · exact fun hdiscreet hclean => hdiscreet parsed ⟨hp, hclean⟩

def orgReport : String := "\x7b\"id\":\"00D\"\x7d"

theorem org_report_undisturbed :
    ∃ o, ((printing orgReport).run displayOrg .zero .never []).result = .ok o ∧
      Undisturbed displayOrg (displayOrg.line (printing orgReport).program)
        ((printing orgReport).ending (displayOrg.line (printing orgReport).program)) o := by
  have ha : Text.Ascii orgReport.toList := by decide
  have hp : Command.parseOutput orgReport = .ok [("id", .str "00D")] := rfl
  have hresult := printing_result ha hp rfl displayOrg .zero []
  refine ⟨_, hresult, (undisturbed_iff hresult).2 ?_⟩
  rintro parsed ⟨hparsed, -⟩
  rw [printed_text ha] at hparsed
  cases hp.symm.trans hparsed
  constructor
  · intro key v hv w hw
    have hkey : key = "id" := by simpa [Entries.keys] using Entries.mem_keys_of_get? hw
    subst hkey
    simp [ownRecord, endRecord, startRecord, printing, ending, instant, Command.messages] at hv
  · rfl

def clash : String :=
  "\x7b\"cmd_raw\":\"rm\",\"return_code\":7,\"error_message\":\"boom\"\x7d"

theorem clash_disturbs :
    ∃ o, ((printing clash).run displayOrg .zero .never []).result = .ok o ∧
      o.status = .success ∧ o.detail.get? "cmd_raw" = some (.str "rm") ∧
      o.detail.get? "return_code" = some (.int 7) ∧ o.message = "boom" ∧
      ¬Undisturbed displayOrg (displayOrg.line Command.defaultProgram)
        ((printing clash).ending (displayOrg.line Command.defaultProgram)) o := by
  have ha : Text.Ascii clash.toList := by decide
  have hp : Command.parseOutput clash = .ok [("cmd_raw", .str "rm"), ("return_code", .int 7),
    ("error_message", .str "boom")] := rfl
  have hn := Command.nodup_keys_of_parseOutput hp
  have hresult := printing_result ha hp rfl displayOrg .zero []
  have hmessage := succeed_message displayOrg (displayOrg.line Command.defaultProgram)
    (.ended [] [] 0 0.0) .zero (Moment.zero.after 0.0) hn
  have hdetail (key : String) := succeed_detail displayOrg
    (displayOrg.line Command.defaultProgram) (.ended [] [] 0 0.0) .zero (Moment.zero.after 0.0)
    key hn
  refine ⟨_, hresult, rfl, hdetail "cmd_raw", hdetail "return_code", hmessage, ?_⟩
  intro h
  exact absurd ((h.silent rfl).1.symm.trans hmessage) (by decide)

end Tool

end Provision
