import Provision.Proofs.Outcome.Akin
import Provision.Proofs.Runner.Verdict
import Provision.Rehearsal.Runner

/-!
# Rehearsals that come true

A rehearsal can be set to what a process prints: to the failure that it reports, or to the
object that it has for its output (`Printed`). Then the tool answers as the rehearsal did. The
outcomes are alike, and both hold what was printed, if the reader takes the output
(`Printed.agree`). What it does not take the tool raises as a fault (`Printed.raised`), and the
rehearsal has an outcome all the same.
-/

namespace Provision

open Outcome
open Text (trim isBlankText decodeUtf8Lenient)

namespace Rehearsal

/-- Two runs of a command come to outcomes that are alike, and both hold some entries. -/
def Agree (es : Entries) (result result' : Except Raised Outcome) : Prop :=
  ∃ o o', result = .ok o ∧ result' = .ok o' ∧ Akin o o' ∧
    ∀ key ∈ Entries.keys es, o.detail.get? key = es.get? key ∧ o'.detail.get? key = es.get? key

/-- A process prints what the rehearsal of a command is set to, and leaves nothing else that speaks
of a failure. With it come the numbers of the text that is printed, and the entries that are to be
found in an outcome. -/
inductive Printed (m : Rehearsal) (c : Command) (d k : Nat) : Ending → Entries → Prop
  | failure {cause : String} {name : Value} {output errors : List UInt8} {code : Int}
      {elapsed : Float} {parsed : Entries} (hf : m.faults.lookup c.command = none)
      (hm : m.failures.lookup c.command = some ⟨.str cause, name⟩) (hcause : cause ≠ "")
      (herrors : trim (decodeUtf8Lenient errors) = cause)
      (houtput : Command.Says d k (decodeUtf8Lenient output) parsed)
      (hname : (parsed.get? "name").getD (.str "") = name) :
      Printed m c d k (.ended output errors code elapsed)
        [("cause", .str cause), ("error_name", name), ("stderr", .str cause)]
  | output {es : Entries} {output errors : List UInt8} {elapsed : Float}
      (hf : m.faults.lookup c.command = none) (hm : m.failures.lookup c.command = none)
      (hes : (m.outputs.lookup c.command).getD m.defaultOutput = es)
      (hstatus : ∀ status, es.get? "status" = some status →
        status = .null ∨ status.same (.int 0) = true)
      (herrors : isBlankText (decodeUtf8Lenient errors) = true)
      (houtput : Command.Says d k (decodeUtf8Lenient output) es) :
      Printed m c d k (.ended output errors 0 elapsed) es

variable {m : Rehearsal} {t : Tool} {c : Command} {d k : Nat} {es : Entries} {line : String}
  {now now' : Moment} {calls : List Command} {log : List ShellEvent}

-- ---------------------------------------------------------------------------
-- Both outcomes
-- ---------------------------------------------------------------------------

theorem begun_akin (c : Command) (line : String) (now now' : Moment) :
    Akin (begun c now) (Tool.begun c line now') :=
  ⟨rfl, rfl, rfl, rfl, rfl, fun key hkey => by
    have hmock : "mock" ≠ key := by
      rintro rfl
      exact hkey (by decide)
    have hline : "cmd_raw" ≠ key := by
      rintro rfl
      exact hkey (by decide)
    show Entries.get? key (("mock", .bool true) :: c.messages) =
      Entries.get? key (("cmd_raw", .str line) :: c.messages)
    simp [Entries.get?, hmock, hline], rfl⟩

theorem failed_agree (c : Command) (line : String) (now now' ended ended' : Moment) (report : Value)
    (cause name : Value) (code : Int) (parsed : Entries) :
    Agree [("cause", cause), ("error_name", name), ("stderr", cause)]
      (.ok ((begun c now).fail (.value report)
        (.dict [("cause", cause), ("error_name", name), ("stderr", cause)]) ended).outcome)
      (.ok ((Tool.begun c line now').fail (.value report)
        (.dict [("cause", cause), ("return_code", .int code), ("stderr", cause),
          ("error_name", name), ("cli_output", .dict parsed)]) ended').outcome) := by
  have hn : (Entries.keys [("cause", cause), ("error_name", name), ("stderr", cause)]).Nodup := by
    simp [Entries.keys]
  have hn' : (Entries.keys [("cause", cause), ("return_code", .int code), ("stderr", cause),
      ("error_name", name), ("cli_output", .dict parsed)]).Nodup := by
    simp [Entries.keys]
  refine ⟨_, _, rfl, rfl, ?_, ?_⟩
  · rw [fail_of_open rfl, fail_of_open (Tool.begun_open c line now')]
    refine ((begun_akin c line now now').blame _).close_dict hn hn' ?_ .failure ended ended'
    intro key hkey
    have hcode : "return_code" ≠ key := by
      rintro rfl
      exact hkey (by decide)
    have houtput : "cli_output" ≠ key := by
      rintro rfl
      exact hkey (by decide)
    by_cases hcause : "cause" = key
    · simp [Entries.get?, hcause]
    by_cases herrors : "stderr" = key
    · subst herrors
      simp [Entries.get?]
    simp [Entries.get?, hcode, houtput, hcause, herrors]
  · intro key hkey
    rw [fail_of_open rfl, fail_of_open (Tool.begun_open c line now')]
    refine ⟨close_get?_of_mem hn hkey _ _, ?_⟩
    simp only [Entries.keys, List.map_cons, List.map_nil, List.mem_cons, List.not_mem_nil,
      or_false] at hkey
    rw [close_get? hn']
    rcases hkey with rfl | rfl | rfl <;> rfl

theorem succeeded_agree (c : Command) (line : String) (now now' ended ended' : Moment) (code : Int)
    (hn : (Entries.keys es).Nodup) :
    Agree es (.ok ((begun c now).succeed (.dict es) ended).outcome)
      (.ok ((Tool.begun c line now').succeed
        (.dict (Entries.merge [("return_code", .int code)] es)) ended').outcome) := by
  have hn' : (Entries.keys (Entries.merge [("return_code", .int code)] es)).Nodup :=
    Entries.nodup_keys_merge (by simp [Entries.keys])
  refine ⟨_, _, rfl, rfl, ?_, ?_⟩
  · rw [succeed_of_open rfl, succeed_of_open (Tool.begun_open c line now')]
    refine (begun_akin c line now now').close_dict hn hn' ?_ .success ended ended'
    intro key hkey
    have hcode : "return_code" ≠ key := by
      rintro rfl
      exact hkey (by decide)
    simp [Entries.get?_merge hn, Entries.get?, hcode]
  · intro key hkey
    obtain ⟨⟨_, v⟩, hv, rfl⟩ := List.mem_map.1 hkey
    have hget := Entries.get?_of_mem hn hv
    rw [succeed_of_open rfl, succeed_of_open (Tool.begun_open c line now'), close_get? hn,
      close_get? hn', Entries.get?_merge hn, hget]
    exact ⟨rfl, rfl⟩

-- ---------------------------------------------------------------------------
-- Runs
-- ---------------------------------------------------------------------------

theorem run_result_of_parsed {output errors : List UInt8} {code : Int} {elapsed : Float}
    {parsed : Entries} (hend : t.ending (c.line t.program) = .ended output errors code elapsed)
    (hp : Command.parseOutput (decodeUtf8Lenient output) = .ok parsed) :
    (t.run c now .never log).result =
      .ok (Tool.judged c (Tool.begun c (c.line t.program) now) parsed
        (trim (decodeUtf8Lenient errors)) code (now.after elapsed)).1 := by
  unfold Tool.run
  rw [Tool.opening_heard]
  dsimp only
  rw [hend]
  dsimp only
  rw [hp]
  rfl

/-- A rehearsal and the tool agree on what is printed within the limits of the reader. -/
theorem Printed.agree {ending : Ending} (h : Printed m c d k ending es)
    (hend : t.ending (c.line t.program) = ending) (hw : Json.Within Json.nestingLimit d k)
    (now now' : Moment) (calls : List Command) (log : List ShellEvent) :
    Agree es (m.run c now .never calls).result (t.run c now' .never log).result := by
  have hrun : (m.run c now .never calls).result = m.answer c now := rfl
  rw [hrun]
  cases h with
  | @failure cause name output errors code elapsed parsed hf hm hcause herrors houtput hname =>
    have hreport : (if c.errorMsg = "" then Value.str cause else .str c.errorMsg) =
        Tool.firstGiven (.str c.errorMsg) [.str cause] := by
      split
      · next he => rw [he, Tool.firstGiven_of_not_truthy rfl, Tool.firstGiven]
      · next he => rw [Tool.firstGiven_str he]
    have hgiven (v : Value) : Tool.firstGiven (.str cause) [parsed.getD "message", v] =
        .str cause :=
      Tool.firstGiven_of_truthy (Tool.truthy_str_iff.2 hcause)
    rw [run_result_of_parsed hend (houtput.parseOutput_eq.1 hw), answer, hf, hm, herrors,
      Tool.judged]
    dsimp only
    rw [hreport, if_pos (.inl hcause), hgiven, hname]
    exact failed_agree c _ now now' _ _ _ _ _ _ _
  | @output es output errors elapsed hf hm hes hstatus herrors houtput =>
    have hparsed := houtput.parseOutput_eq.1 hw
    have hclean : Tool.Clean es (decodeUtf8Lenient errors) 0 := ⟨herrors, rfl, hstatus⟩
    rw [run_result_of_parsed hend hparsed, answer, hf, hm, hes, Tool.judged]
    dsimp only
    rw [if_neg (mt Tool.not_clean_iff.2 (not_not.2 hclean))]
    exact succeeded_agree c _ now now' _ _ _ (Command.nodup_keys_of_parseOutput hparsed)

theorem Printed.raised {ending : Ending} (h : Printed m c d k ending es)
    (hend : t.ending (c.line t.program) = ending) (hw : ¬Json.Within Json.nestingLimit d k)
    (now : Moment) (log : List ShellEvent) :
    ∃ f, (t.run c now .never log).result = .error (.fault f) := by
  have hover : Tool.Overflows (t.ending (c.line t.program)) := by
    rw [hend]
    cases h with
    | failure _ _ _ _ houtput => exact houtput.parseOutput_eq.2 hw
    | output _ _ _ _ _ houtput => exact houtput.parseOutput_eq.2 hw
  obtain ⟨f, hf, -, -⟩ := Tool.run_of_overflows t c now log hover
  exact ⟨f, hf⟩

end Rehearsal

end Provision
