import Provision.Proofs.Action.Honest
import Provision.Proofs.Outcome.MessageLaws
import Provision.Proofs.Runner.ToolLaws

/-!
# What a failed step says

A candid runner reports a failed command in the command's own words, and every command
that is drafted for an action has some. So an action that failed has the message of the
one part it took in (`runChecked_speaks`), which is the report of its command unless
drafting or running that raised something.
-/

namespace Provision

open Outcome
open Play (Gives gives_pure gives_after)

variable {σ α β : Type} {r : Runner σ}

-- ---------------------------------------------------------------------------
-- Runners
-- ---------------------------------------------------------------------------

/-- A runner that reports a failed command in the command's own words, if it has any. -/
def Runner.Candid (r : Runner σ) : Prop :=
  ∀ command now objection state o, (r.run command now objection state).result = .ok o → o.Bad →
    command.errorMsg ≠ "" → o.message = command.errorMsg

theorem Outcome.fail_value_message {o : Outcome} {v : Value} {es : Entries} (hf : o.fault = none)
    (ho : o.finalized = false) (hv : v.truthy = true) (hk : "error_message" ∉ Entries.keys es)
    (now : Moment) : (o.fail (.value v) (.dict es) now).outcome.message = v.text := by
  rw [fail_of_open ho, close_message, withDetail_message hk, blame_value_message hf hv]

theorem Outcome.fail_message {o : Outcome} {text : String} {es : Entries} (hf : o.fault = none)
    (ho : o.finalized = false) (ht : text ≠ "") (hk : "error_message" ∉ Entries.keys es)
    (now : Moment) : (o.fail (.value (.str text)) (.dict es) now).outcome.message = text :=
  fail_value_message hf ho (by simpa [Value.truthy] using ht) hk now

theorem Outcome.succeed_not_bad {o : Outcome} (ho : o.finalized = false) (v : Value)
    (now : Moment) : ¬(o.succeed v now).outcome.Bad := by
  rw [succeed_of_open ho]
  exact Bool.false_ne_true

theorem Rehearsal.toRunner_candid (r : Rehearsal) : r.toRunner.Candid := by
  intro command now objection calls o ho hbad ht
  replace ho : (r.run command now objection calls).result = .ok o := ho
  unfold Rehearsal.run at ho
  split at ho
  · cases ho
  · replace ho : r.answer command now = .ok o := ho
    unfold Rehearsal.answer at ho
    split at ho
    · cases ho
    · dsimp only at ho
      split at ho
      · cases ho
        rw [if_neg ht]
        exact fail_message rfl rfl ht (by simp [Entries.keys]) now
      · cases ho
        exact absurd hbad (succeed_not_bad rfl _ now)

namespace Tool

theorem timedOut_message (t : Tool) {c : Command} (ht : c.errorMsg ≠ "") (line : String)
    (now now' : Moment) : (t.timedOut c (begun c line now) now').1.message = c.errorMsg := by
  unfold timedOut
  dsimp only
  rw [firstGiven_str ht]
  exact fail_message rfl rfl ht (by simp [Entries.keys]) now'

theorem judged_message {c : Command} (ht : c.errorMsg ≠ "") (line : String) (now : Moment)
    (parsed : Entries) (errors : String) (code : Int) (now' : Moment) :
    (judged c (begun c line now) parsed errors code now').1.Bad →
      (judged c (begun c line now) parsed errors code now').1.message = c.errorMsg := by
  unfold judged
  dsimp only
  split
  · intro _
    rw [firstGiven_str ht]
    exact fail_message rfl rfl ht (by simp [Entries.keys]) now'
  · intro hbad
    exact absurd hbad (succeed_not_bad rfl _ now')

theorem toRunner_candid (t : Tool) : t.toRunner.Candid := by
  intro command now objection log o ho hbad ht
  have hreported : Reported t command now _ o := reported_of_run ho
  generalize t.ending (command.line t.program) = ending at hreported
  cases hreported with
  | overdue => exact timedOut_message t ht ..
  | ended hp => exact judged_message ht _ _ _ _ _ _ hbad

end Tool

namespace Action

-- ---------------------------------------------------------------------------
-- Drafts
-- ---------------------------------------------------------------------------

def Draft.Gives (d : Draft α) (Q : α → Prop) : Prop := ∀ n a n', d.run.run n = (.ok a, n') → Q a

theorem Draft.gives_pure {Q : α → Prop} {a : α} (h : Q a) : Draft.Gives (pure a) Q := by
  rintro n _ _ ⟨⟩
  exact h

theorem Draft.gives_after {Q : α → Prop} {x : Draft β} {f : β → Draft α}
    (hf : ∀ b, Draft.Gives (f b) Q) : Draft.Gives (x >>= f) Q := by
  intro n a n' h
  rw [run_bind] at h
  split at h
  · next b n'' _ => exact hf b n'' a n' h
  · cases h

theorem draft?_gives {work : ActionName} {draft : Context → Entries → Draft Command}
    (h : draft? work = some draft) (c : Context) (options : Entries) :
    Draft.Gives (draft c options) (·.errorMsg ≠ "") := by
  cases work with
  | configureAdminUser => cases h
  | _ =>
    cases h
    -- Whatever it reads before, a draft ends in a command with a report that begins with a word.
    repeat refine Draft.gives_after fun _ => ?_
    refine Draft.gives_pure ?_
    simp [ToString.toString]

theorem Draft.play_run (d : Draft α) (s : Stage σ) :
    d.play.run s = ((d.run.run s.serial).1, { s with serial := (d.run.run s.serial).2 }) := rfl

-- ---------------------------------------------------------------------------
-- Commands
-- ---------------------------------------------------------------------------

/-- What comes of drafting a command and handing it over. -/
inductive Handed (r : Runner σ) (d : Draft Command) : Except Raised Outcome → Prop
  | undrafted {f : Fault} {n n' : Nat} (h : d.run.run n = (.error f, n')) :
      Handed r d (.error (.fault f))
  | drafted {command : Command} {n n' : Nat} (h : d.run.run n = (.ok command, n')) (s : Stage σ) :
      Handed r d ((Stage.hand r command).run s).1

/-- Where the part of an action that is one command comes from, if it failed. -/
inductive Commanded (r : Runner σ) (a : Action) (d : Draft Command) (part : Outcome) : Prop
  | raised {e : Raised} {now : Moment} (h : Handed r d (.error e))
      (hp : part = .ofRaised e a.work.executor .executor now)
  | reported {command : Command} {n n' : Nat} (h : d.run.run n = (.ok command, n')) (s : Stage σ)
      (hp : ((Stage.hand r command).run s).1 = .ok part) (hm : part.message = command.errorMsg)

variable {a : Action} {o part : Outcome} {c : Context} {options : Entries}

theorem perform_handed (a : Action) (o : Outcome) (c : Context) (options : Entries) :
    Gives (a.perform r c options o) fun performed =>
      (∃ es, performed.1 = o.withDetail (.dict es) ∧ "error_message" ∉ Entries.keys es) ∧
        ∀ draft, draft? a.work = some draft → Handed r (draft c options) performed.2 := by
  have hsame : ∃ es, o = o.withDetail (.dict es) ∧ "error_message" ∉ Entries.keys es :=
    ⟨[], by cases o; rfl, List.not_mem_nil⟩
  unfold perform
  split
  · next draft hdraft =>
    have hhanded : ∀ result, Handed r (draft c options) result → ∀ draft',
        draft? a.work = some draft' → Handed r (draft' c options) result := by
      intro result h draft' hdraft'
      cases hdraft.symm.trans hdraft'
      exact h
    intro s
    rw [Play.run_bind, Draft.play_run]
    cases hd : (draft c options).run.run s.serial with
    | mk result n =>
      cases result with
      | error f => exact ⟨hsame, hhanded _ (.undrafted hd)⟩
      | ok command =>
        exact ⟨⟨_, rfl, by simp [Entries.keys]⟩, hhanded _ (.drafted hd ..)⟩
  · next hnone =>
    have hnone' : ∀ (result : Except Raised Outcome) draft, draft? a.work = some draft →
        Handed r (draft c options) result := by
      intro _ _ h
      cases hnone.symm.trans h
    refine gives_after fun result => ?_
    cases result with
    | error f => exact gives_pure ⟨hsame, hnone' _⟩
    | ok prepared =>
      exact gives_after fun result => gives_pure ⟨⟨_, rfl, by simp [Entries.keys]⟩, hnone' _⟩

theorem received_eq (a : Action) (result : Except Raised Outcome) :
    Gives (a.received result : Play σ Outcome) fun part =>
      result = .ok part ∨
        ∃ e now, result = .error e ∧ part = .ofRaised e a.work.executor .executor now := by
  cases result with
  | ok part => exact gives_pure (.inl rfl)
  | error e =>
    refine gives_after fun _ => gives_after fun now => ?_
    exact gives_pure (.inr ⟨e, now, rfl, rfl⟩)

theorem classify_eq (a : Action) (options : Entries) (part : Outcome) :
    Gives (a.classify options part : Play σ Outcome) fun part' => part'.Bad → part' = part := by
  unfold classify
  split
  · refine gives_after fun now => ?_
    split
    · next warning hwarn =>
      refine gives_after fun _ => gives_pure fun hbad => ?_
      unfold absenceWarning? at hwarn
      split at hwarn
      · next hs =>
        cases hwarn
        rw [Bad, downgrade_status hs.1] at hbad
        cases hbad
      · cases hwarn
    · exact gives_pure fun _ => rfl
  · exact gives_pure fun _ => rfl

theorem Handed.commanded (hr : r.Candid) {work : ActionName}
    {draft : Context → Entries → Draft Command} (hdraft : draft? work = some draft)
    {result : Except Raised Outcome} (h : Handed r (draft c options) result) (hbad : part.Bad)
    (hpart : result = .ok part ∨
      ∃ e now, result = .error e ∧ part = .ofRaised e a.work.executor .executor now) :
    Commanded r a (draft c options) part := by
  obtain rfl | ⟨e, now, rfl, rfl⟩ := hpart
  · generalize hresult : Except.ok part = result at h
    cases h with
    | undrafted => cases hresult
    | drafted h s =>
      have hne := draft?_gives hdraft c options _ _ _ h
      exact .reported h s hresult.symm (hr _ s.now _ s.state part hresult.symm hbad hne)
  · exact .raised h rfl

-- ---------------------------------------------------------------------------
-- Actions
-- ---------------------------------------------------------------------------

/-- An action that failed has the message of the one part it has taken in. -/
theorem runChecked_speaks (hr : r.Candid) (a : Action) (c : Context) (options : Entries) :
    Gives (a.runChecked r c options) fun o => o.status.ok = false →
      ∃ part, o.children = [part] ∧ part.Bad ∧ o.message = part.message ∧
        ∀ draft, draft? a.work = some draft → Commanded r a (draft c options) part := by
  refine gives_after fun now => gives_after fun _ => ?_
  refine .bind (perform_handed a _ c options) fun performed h => ?_
  obtain ⟨o, result⟩ := performed
  obtain ⟨⟨es, rfl, hes⟩, hhanded⟩ := h
  refine .bind (received_eq a result) fun part hpart => ?_
  refine .bind (classify_eq a options part) fun part' hsame => ?_
  have ho := (begun_gathered c options now (a := a)).withDetail (.dict es)
  have hchildren : ((a.begun c options now).withDetail (.dict es)).children = [] := by
    simp [begun, begin, blank]
  have hpending := ho.success_iff.2 (hchildren ▸ List.forall_mem_nil _)
  intro s
  obtain ⟨reply, hfilled, heq⟩ := conclude_filled (a := a) ho.opened part' s
  rw [heq]
  intro hfail
  have hbad : part'.Bad := by
    obtain ⟨c, hc, hbad⟩ := hfilled.exists_bad hpending ho.strict hfail
    exact List.mem_singleton.1 hc ▸ hbad
  have hlast : Last Outcome.Bad [part'] part' := .here hbad (by simp)
  refine ⟨part', ?_, hbad, ?_, ?_⟩
  · rw [hfilled.children, hchildren, List.nil_append]
  · refine hfilled.message ?_ hlast
    exact (Unblamed.begin.withDetail (by simp [Entries.keys])).withDetail hes
  · obtain rfl := hsame hbad
    intro draft hdraft
    exact (hhanded draft hdraft).commanded hr hdraft hbad hpart

end Action

end Provision
