import Mathlib.Data.List.Infix
import Provision.Proofs.Action.Contract
import Provision.Proofs.Text.Infix

/-!
# Deleting an org that is not there

What a failed deletion is taken for is read off a text that begins with the report on the
command, and that report names the org. So the phrases of the tool are found in what the tool
has said (`Reports`), over the seams between its parts (`Seamed`), and in the name of the org
as well (`deletion_warns_iff`). An org that goes by such a phrase is never missed
(`misnamed_deletion_warns`).
-/

namespace Provision

open Stage Outcome
open Text (infix_joined_iff infix_joined_iff_of_not_mem infix_append_iff_of_apart occurs_iff)

variable {σ : Type} {r : Runner σ}

namespace Action

-- ---------------------------------------------------------------------------
-- Phrases
-- ---------------------------------------------------------------------------

/-- Whether one of the phrases for an org that is not there stands in a text, in whatever case. -/
def Spells (text : String) : Prop := ∃ p ∈ absencePhrases, folded p <:+: folded text

instance (text : String) : Decidable (Spells text) :=
  inferInstanceAs (Decidable (∃ p ∈ absencePhrases, folded p <:+: folded text))

/-- Whether one of them stands in two texts with a blank between them, and in neither alone. -/
def Spans (a b : String) : Prop :=
  ∃ p ∈ absencePhrases, ∃ x y, folded p = x ++ ' ' :: y ∧ x <:+ folded a ∧ y <+: folded b

theorem folded_append (a b : String) : folded (a ++ b) = folded a ++ folded b := by
  simp [folded]

theorem spells_joined_iff {a b : String} :
    Spells (a ++ " " ++ b) ↔ Spells a ∨ Spells b ∨ Spans a b := by
  have hfolded : folded (a ++ " " ++ b) = folded a ++ ' ' :: folded b := by
    rw [folded_append, folded_append, List.append_assoc]
    rfl
  unfold Spells Spans
  simp only [hfolded, infix_joined_iff, and_or_left, exists_or]

theorem saysAbsent_iff {o : Outcome} : saysAbsent o = true ↔ Spells (evidence o) := by
  simp [saysAbsent, Spells, occurs_iff]

-- ---------------------------------------------------------------------------
-- Reports
-- ---------------------------------------------------------------------------

def said (o : Outcome) (key : String) : String := ((o.detail.get? key).getD (.str "")).text

def Reports (o : Outcome) : Prop :=
  Spells (said o "cause") ∨ Spells (said o "error_name") ∨ Spells (said o "stderr")

/-- Whether one of its reasons and the next make up such a phrase. -/
def Seamed (o : Outcome) : Prop :=
  Spans (said o "error_name") (said o "stderr") ∨
    Spans (said o "cause") (said o "error_name" ++ " " ++ said o "stderr")

theorem spells_evidence_iff {o : Outcome} :
    Spells (evidence o) ↔
      Spells (o.message ++ " " ++
        (said o "cause" ++ " " ++ (said o "error_name" ++ " " ++ said o "stderr"))) := by
  have h : evidence o = o.message ++ " " ++ said o "cause" ++ " " ++ said o "error_name" ++ " " ++
      said o "stderr" := rfl
  rw [h]
  simp only [String.append_assoc]

theorem spells_said_iff {o : Outcome} :
    Spells (said o "cause" ++ " " ++ (said o "error_name" ++ " " ++ said o "stderr")) ↔
      Reports o ∨ Seamed o := by
  rw [spells_joined_iff, spells_joined_iff, Reports, Seamed]
  grind

def deletionReport (org : String) : String :=
  s!"Request to mark scratch org '{org}' for deletion failed"

theorem deletionReport_ne_empty (org : String) : deletionReport org ≠ "" := by
  unfold deletionReport
  simp [ToString.toString]

/-- No phrase has a quote in it, or begins where the report on a deletion ends. So of that report
only the name of the org matters. -/
theorem spells_deletion_iff {org text : String} :
    Spells (deletionReport org ++ " " ++ text) ↔ Spells org ∨ Spells text := by
  have hopen : folded "Request to mark scratch org '" =
      folded "Request to mark scratch org " ++ ['\''] := by
    decide +kernel
  have hclose : folded "' for deletion failed" ++ folded " " =
      '\'' :: folded " for deletion failed " := by
    decide +kernel
  have hfolded : folded (deletionReport org ++ " " ++ text) =
      folded "Request to mark scratch org " ++ '\'' ::
        (folded org ++ '\'' :: (folded " for deletion failed " ++ folded text)) := by
    have htext : deletionReport org =
        "Request to mark scratch org '" ++ org ++ "' for deletion failed" := rfl
    rw [htext]
    simp only [folded_append, hopen, List.append_assoc, List.singleton_append]
    rw [← List.append_assoc (folded "' for deletion failed"), hclose, List.cons_append,
      List.cons_append]
  have hquote : ∀ p ∈ absencePhrases, '\'' ∉ folded p := by decide +kernel
  have hbegin : ∀ p ∈ absencePhrases, ¬folded p <:+: folded "Request to mark scratch org " := by
    decide +kernel
  have hend : ∀ p ∈ absencePhrases, ¬folded p <:+: folded " for deletion failed " := by
    decide +kernel
  have hseam : ∀ p ∈ absencePhrases, ∀ x ∈ (folded p).inits,
      x <:+ folded " for deletion failed " → x = [] := by
    decide +kernel
  unfold Spells
  rw [hfolded, ← exists_or]
  refine exists_congr fun p => ?_
  rw [← and_or_left]
  refine and_congr_right fun hp => ?_
  rw [infix_joined_iff_of_not_mem (hquote p hp), infix_joined_iff_of_not_mem (hquote p hp),
    infix_append_iff_of_apart fun x hx => hseam p hp x ((List.mem_inits _ _).2 hx)]
  simp [hbegin p hp, hend p hp]

-- ---------------------------------------------------------------------------
-- Deletions
-- ---------------------------------------------------------------------------

variable {a : Action} {c : Context} {options : Entries} {org : Value} {o : Outcome}

theorem judged_failure (hw : a.work = .deleteScratchOrg) (options : Entries)
    (hs : o.status = .failure) (now : Moment) :
    ((a.judged options now o).status = .warning ∧ Spells (evidence o)) ∨
      (a.judged options now o).status = .failure ∧ ¬Spells (evidence o) := by
  unfold judged absenceWarning?
  rw [if_pos hw, ← saysAbsent_iff]
  cases h : saysAbsent o with
  | true => exact .inl ⟨by simpa [hs] using downgrade_status hs _ now, rfl⟩
  | false => exact .inr ⟨by simpa using hs, Bool.false_ne_true⟩

theorem deleteScratchOrg_run (h : options.get? "scratchOrgAlias" = some org) (n : Nat) :
    ∃ command, (deleteScratchOrg c options).run.run n = (.ok command, n) ∧
      command.command = "force:org:delete" ∧ command.errorMsg = deletionReport org.text := by
  unfold deleteScratchOrg option
  rw [h]
  exact ⟨_, rfl, rfl, rfl⟩

theorem deletion_calls (hr : r.Candid) (hw : a.work = .deleteScratchOrg)
    (h : options.get? "scratchOrgAlias" = some org) (o : Outcome) (s : Stage σ) :
    Play.Leads (a.perform r c options o) s fun performed t => ∃ command,
      command.command = "force:org:delete" ∧ Calls r s [⟨command, performed.2⟩] t ∧
        ∀ report, performed.2 = .ok report → report.Bad →
          report.message = deletionReport org.text := by
  have hdraft : draft? a.work = some deleteScratchOrg := by
    rw [hw]
    rfl
  obtain ⟨command, hcommand, hname, herror⟩ := deleteScratchOrg_run (c := c) h s.serial
  refine (perform_calls hdraft).imp ?_
  rintro ⟨_, answer⟩ t (⟨f, n, hn, -, -⟩ | ⟨command', n, hn, hcalls⟩)
  · rw [hcommand] at hn
    cases hn
  · obtain rfl : command = command' := by simpa using congrArg Prod.fst (hcommand.symm.trans hn)
    refine ⟨command, hname, hcalls, ?_⟩
    intro report hanswer hbad
    rw [← herror]
    exact hcalls.message hr hanswer hbad (herror ▸ deletionReport_ne_empty _)

/-- A deletion is one call. When that fails it is taken for a warning if the tool has said that
there is no such org, but also if the name of the org says so, or if two of the reasons of the
tool do so together. So it is judged by what the tool has said, and by that alone, exactly when
these two add nothing to it. -/
theorem deletion_warns_iff (hw : a.work = .deleteScratchOrg) (hc : a.checked c options = .ok ()) :
    (∀ m : Rehearsal, m.toRunner.Candid) ∧ (∀ t : Tool, t.toRunner.Candid) ∧
    ∃ org, options.get? "scratchOrgAlias" = some org ∧
      ∀ (r : Runner σ) (s : Stage σ), r.Candid → ∃ o call,
        ((a.run r (some c) options).run s).1 = .ok o ∧
        Calls r s [call] ((a.run r (some c) options).run s).2 ∧
        call.command.command = "force:org:delete" ∧
        ∀ report, call.answer = .ok report → report.status = .failure →
          (o.status = .warning ∨ o.status = .error) ∧
          (o.status = .warning ↔ Spells org.text ∨ Reports report ∨ Seamed report) ∧
          ((o.status = .warning ↔ Reports report) ↔
            (Spells org.text ∨ Seamed report → Reports report)) := by
  refine ⟨Rehearsal.toRunner_candid, Tool.toRunner_candid, ?_⟩
  obtain ⟨org, horg, -⟩ := given_of_checked hc "scratchOrgAlias" (by rw [hw]; decide)
  refine ⟨org, horg, fun r s hr => ?_⟩
  rw [run_of_checked hc]
  obtain ⟨t, ht, hu, ho⟩ := runChecked_leads a r c options s
  obtain ⟨command, hname, hcalls, hreport⟩ :=
    deletion_calls (c := c) hr hw horg (a.begun c options s.now) t
  refine ⟨_, ⟨command, (a.performed r c options s t).1.2⟩, rfl,
    (hcalls.aside_left ht).aside_right hu, hname, ?_⟩
  intro report hanswer hs
  have hbad : report.Bad := by simp [Bad, hs, Status.bad]
  have hspells : Spells (evidence report) ↔ Spells org.text ∨ Reports report ∨ Seamed report := by
    rw [spells_evidence_iff, hreport report hanswer hbad, spells_deletion_iff, spells_said_iff]
  have hpart : a.part options (a.performed r c options s t) =
      a.judged options (a.performed r c options s t).2.now report := by
    replace hanswer : (a.performed r c options s t).1.2 = .ok report := hanswer
    rw [part, hanswer]
    rfl
  have hstatus := ho.status
  rw [hpart] at hstatus
  rw [hstatus, ← hspells]
  obtain ⟨hjudged, hevidence⟩ | ⟨hjudged, hevidence⟩ :=
    judged_failure hw options hs (a.performed r c options s t).2.now
  · rw [hjudged]
    have := hspells.1 hevidence
    simp only [Status.graded, hevidence]
    grind
  · rw [hjudged]
    have := mt hspells.2 hevidence
    simp only [Status.graded, hevidence]
    grind

theorem said_of_failure {m : Rehearsal} {command : Command} {now : Moment}
    (h : m.answer command now = .ok o) (hs : o.status = .failure) :
    ∃ f, m.failures.lookup command.command = some f ∧ said o "cause" = f.error.text ∧
      said o "error_name" = f.errorName.text ∧ said o "stderr" = f.error.text := by
  unfold Rehearsal.answer at h
  split at h
  · cases h
  · dsimp only at h
    split at h
    · next f hf =>
      cases h
      refine ⟨f, hf, ?_⟩
      rw [fail_of_open rfl]
      simp [said, close, withDetail, Entries.merge, Entries.get?_put]
    · cases h
      cases hs

def refusing : Rehearsal where
  failures := [("force:org:delete", ⟨.str "Dev hub is not authorized", .str "AuthError"⟩)]

def office : Context := ⟨default, default, .null, default, default⟩

def deletion (org : String) : Except Fault Outcome × Stage (List Command) :=
  ((Action.ofName .deleteScratchOrg).run refusing.toRunner (some office)
    [("scratchOrgAlias", .str org)]).run (.opened [] .zero)

theorem misnamed_deletion_warns_iff :
    ∃ o call, (deletion "NoOrgFound").1 = .ok o ∧
      Calls refusing.toRunner (.opened [] .zero) [call] (deletion "NoOrgFound").2 ∧
      ∀ report, call.answer = .ok report → report.status = .failure →
        (o.status = .warning ↔ Spells "NoOrgFound" ∨ Reports report ∨ Seamed report) := by
  have hchecked : (Action.ofName .deleteScratchOrg).checked office
      [("scratchOrgAlias", .str "NoOrgFound")] = .ok () := rfl
  obtain ⟨hrehearsals, -, org, horg, h⟩ := deletion_warns_iff rfl hchecked
  cases horg
  obtain ⟨o, call, ho, hcalls, -, hjudged⟩ :=
    h refusing.toRunner (.opened [] .zero) (hrehearsals refusing)
  exact ⟨o, call, ho, hcalls, fun report hanswer hs => (hjudged report hanswer hs).2.1⟩

theorem refusing_reports {command : Command} {now : Moment} {o : Outcome}
    (h : refusing.answer command now = .ok o) (hs : o.status = .failure) : ¬Reports o := by
  obtain ⟨f, hf, hcause, hname, herrors⟩ := said_of_failure h hs
  have hmem : (command.command, f) ∈ refusing.failures := by
    obtain ⟨before, after, hl, -⟩ := List.lookup_eq_some_iff.1 hf
    simp [hl]
  obtain ⟨-, rfl⟩ : command.command = "force:org:delete" ∧
      f = ⟨.str "Dev hub is not authorized", .str "AuthError"⟩ := by
    simpa [refusing] using hmem
  have hsilent : ¬Spells "Dev hub is not authorized" ∧ ¬Spells "AuthError" := by decide +kernel
  unfold Reports
  rw [hcause, hname, herrors]
  rintro (h | h | h)
  · exact hsilent.1 h
  · exact hsilent.2 h
  · exact hsilent.1 h

/-- Whatever the hub says, the deletion of an org is a warning if its alias is a phrase. -/
theorem misnamed_deletion_warns :
    (deletion "NoOrgFound").1.toOption.map (·.status) = some .warning ∧
      (deletion "demo1").1.toOption.map (·.status) = some .error ∧
      ∀ command now o, refusing.answer command now = .ok o → o.status = .failure → ¬Reports o :=
  ⟨by decide +kernel, by decide +kernel, fun _ _ _ => refusing_reports⟩

end Action

end Provision
