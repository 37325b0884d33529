import Mathlib.Data.Option.Basic
import Provision.Proofs.Outcome.MessageLaws

/-!
# Outcomes that are alike

Two outcomes of the same command may come from different runners. They have other names and
times then, and each has entries in its detail that say which runner it was. Who asks for
nothing of that finds the two alike (`Akin`): they have the same message, and what is done to
both alike leaves them alike. A part that is exchanged for one like it leaves its container as
it would have been (`Akin.attach`).
-/

namespace Provision.Outcome

-- ---------------------------------------------------------------------------
-- The last message of a row
-- ---------------------------------------------------------------------------

variable {o o' c c' : Outcome}

theorem lastMessage?_append (cs : List Outcome) (c : Outcome) :
    lastMessage? (cs ++ [c]) = if c.status.bad then some c.message else lastMessage? cs := by
  induction cs with
  | nil => simp [lastMessage?]
  | cons d cs ih =>
    rw [List.cons_append, lastMessage?, ih, lastMessage?]
    cases c.status.bad <;> rfl

theorem close_get? {es : Entries} {key : String} (hn : (Entries.keys es).Nodup) (status : Status)
    (now : Moment) :
    (o.close status (.dict es) now).detail.get? key = (es.get? key).or (o.detail.get? key) :=
  Entries.get?_merge hn

theorem close_get?_of_mem {es : Entries} {key : String} (hn : (Entries.keys es).Nodup)
    (hkey : key ∈ Entries.keys es) (status : Status) (now : Moment) :
    (o.close status (.dict es) now).detail.get? key = es.get? key := by
  obtain ⟨⟨_, v⟩, hv, rfl⟩ := List.mem_map.1 hkey
  rw [close_get? hn, Entries.get?_of_mem hn hv]
  rfl

-- ---------------------------------------------------------------------------
-- Likeness
-- ---------------------------------------------------------------------------

/-- Keys that one runner has entries under and another has not. -/
def runnerKeys : List String := ["mock", "cmd_raw", "return_code", "cli_output"]

/-- Alike but for their names, their times and what says which runner they come from. -/
structure Akin (o o' : Outcome) : Prop where
  kind : o.kind = o'.kind
  policy : o.policy = o'.policy
  status : o.status = o'.status
  finalized : o.finalized = o'.finalized
  fault : o.fault = o'.fault
  detail : ∀ key ∉ runnerKeys, o.detail.get? key = o'.detail.get? key
  parts : lastMessage? o.children = lastMessage? o'.children

namespace Akin

variable {v : Value} {now now' : Moment}

theorem begin (name name' : String) (kind : OutcomeKind) (policy : Policy) (now now' : Moment) :
    Akin (Outcome.begin name kind policy now) (Outcome.begin name' kind policy now') :=
  ⟨rfl, rfl, rfl, rfl, rfl, fun _ _ => rfl, rfl⟩

theorem message (h : Akin o o') : o.message = o'.message := by
  have hown : o.detail.getD "error_message" = o'.detail.getD "error_message" :=
    congrArg (Option.getD · Value.null) (h.detail "error_message" (by decide))
  rw [message_eq, message_eq, h.fault, hown, h.parts]

theorem asBlame (h : Akin o o') : o.asBlame = o'.asBlame := by
  rw [Outcome.asBlame, Outcome.asBlame, h.fault, h.message]

theorem settled (h : Akin o o') : o.settled = o'.settled := by
  rw [Outcome.settled, Outcome.settled, h.status]

-- ---------------------------------------------------------------------------
-- Changes
-- ---------------------------------------------------------------------------

theorem put (h : Akin o o') (key : String) (v : Value) :
    Akin { o with detail := o.detail.put key v } { o' with detail := o'.detail.put key v } :=
  { h with
    detail := by
      intro key' hkey
      simp only [Entries.get?_put, h.detail key' hkey] }

theorem withDetail (h : Akin o o') (v : Value) : Akin (o.withDetail v) (o'.withDetail v) := by
  cases v with
  | null => exact h
  | dict es =>
    exact { h with detail := fun key hkey => Entries.get?_merge_congr (h.detail key hkey) es }
  | _ => exact h.put "raw_result" _

theorem blame (h : Akin o o') (b : Blame) : Akin (o.blame b) (o'.blame b) := by
  cases b with
  | nothing => exact h
  | fault f => exact { h with fault := rfl }
  | value v =>
    unfold Outcome.blame
    dsimp only
    split
    · exact h.put "error_message" _
    · exact h

theorem close (h : Akin o o') (status : Status) (v : Value) (now now' : Moment) :
    Akin (o.close status v now) (o'.close status v now') :=
  { h.withDetail v with status := rfl, finalized := rfl }

/-- What is recorded at the end may differ, too, in what says which runner it was. -/
theorem close_dict {es es' : Entries} (h : Akin o o') (hn : (Entries.keys es).Nodup)
    (hn' : (Entries.keys es').Nodup) (hes : ∀ key ∉ runnerKeys, es.get? key = es'.get? key)
    (status : Status) (now now' : Moment) :
    Akin (o.close status (.dict es) now) (o'.close status (.dict es') now') :=
  { h.close status .null now now' with
    detail := by
      intro key hkey
      rw [close_get? hn, close_get? hn', hes key hkey, h.detail key hkey]
    parts := h.parts }

theorem error (h : Akin o o') (ho : o.finalized = false) (b : Blame) (v : Value)
    (now now' : Moment) : Akin (o.error b v now).outcome (o'.error b v now').outcome := by
  rw [error_of_open ho, error_of_open (h.finalized.symm.trans ho)]
  exact (h.blame b).close .error v now now'

theorem finish (h : Akin o o') (ho : o.finalized = false) (v : Value) (now now' : Moment) :
    Akin (o.finish v now).outcome (o'.finish v now').outcome := by
  rw [finish_of_open ho, finish_of_open (h.finalized.symm.trans ho), h.settled]
  exact h.close _ v now now'

theorem ofRaised_fault (f : Fault) (name : String) (kind : OutcomeKind) (now now' : Moment) :
    Akin (ofRaised (.fault f) name kind now) (ofRaised (.fault f) name kind now') :=
  (begin name name kind {} now now').error rfl _ _ now now'

-- ---------------------------------------------------------------------------
-- Parts
-- ---------------------------------------------------------------------------

theorem holding (h : Akin o o') (hc : Akin c c') : Akin (o.holding [c]) (o'.holding [c']) :=
  { h with
    parts := by
      simp only [Outcome.holding, lastMessage?_append, hc.status, hc.message, h.parts] }

theorem taking (h : Akin o o') (hc : Akin c c') : Akin (o.taking [c]) (o'.taking [c']) :=
  { h.holding hc with
    status := by
      show o.status.worse (o.policy.leaves c.status) = o'.status.worse (o'.policy.leaves c'.status)
      rw [h.status, h.policy, hc.status] }

theorem broken (h : Akin o o') (hc : Akin c c') (now now' : Moment) :
    Akin (o.broken c now) (o'.broken c' now') := by
  rw [Outcome.broken, Outcome.broken, hc.asBlame]
  exact ((h.holding hc).blame _).close .error .null now now'

end Akin

/-- What comes of a part in two containers that are alike: either both go on or both bubble. -/
inductive Reply.Akin : Reply → Reply → Prop
  | quiet {o o' : Outcome} (h : Outcome.Akin o o') (ho : o.finalized = false) :
      Reply.Akin ⟨o, none⟩ ⟨o', none⟩
  | bubbled {o o' : Outcome} (h : Outcome.Akin o o') :
      Reply.Akin ⟨o, some (.bubbled o)⟩ ⟨o', some (.bubbled o')⟩

namespace Akin

theorem attach (h : Akin o o') (ho : o.finalized = false) (hc : Akin c c') (now now' : Moment) :
    Reply.Akin (o.attach c now) (o'.attach c' now') := by
  have ho' : o'.finalized = false := h.finalized.symm.trans ho
  have hends : o'.policy.ends c'.status = o.policy.ends c.status := by rw [h.policy, hc.status]
  cases hend : o.policy.ends c.status with
  | true =>
    rw [attach_of_ends ho hend, attach_of_ends ho' (hends.trans hend)]
    exact .bubbled (h.broken hc now now')
  | false =>
    rw [attach_of_not_ends ho hend, attach_of_not_ends ho' (hends.trans hend)]
    exact .quiet (h.taking hc) ho

theorem downgrade (h : Akin c c') (reason : String) (now now' : Moment) :
    Akin (c.downgrade reason now) (c'.downgrade reason now') := by
  have hends (c : Outcome) (now : Moment) :
      (Outcome.begin s!"{c.name}:downgraded" c.kind
        { bubbleError := false, bubbleFailure := false } now).attach c now =
      ⟨(Outcome.begin s!"{c.name}:downgraded" c.kind
        { bubbleError := false, bubbleFailure := false } now).taking [c], none⟩ :=
    attach_of_not_ends rfl rfl
  rw [Outcome.downgrade, Outcome.downgrade, hends, hends, h.kind]
  exact ((begin _ _ _ _ now now').taking h).finish rfl _ now now'

end Akin

end Provision.Outcome
