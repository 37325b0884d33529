import Provision.Proofs.Action.Calls
import Provision.Proofs.Plan.Calls

/-!
# What a call of an action comes to

A call is refused for its context, or else for the first required option that is not given,
and then nothing has happened (`Refused`). In all other cases the action ends, and has one
part: what came of its commands, looked at again (`Action.judged`). It is in error if the part
failed, it has a warning if the part has one, and else it is a success (`Concluded`).
-/

namespace Provision

open Stage Outcome
open Play (Leads leads_pure leads_clock leads_note)

variable {σ : Type} {r : Runner σ}

namespace Action

variable {a : Action} {c : Option Context} {options : Entries} {f : Fault}

-- ---------------------------------------------------------------------------
-- Refusing
-- ---------------------------------------------------------------------------

def Given (options : Entries) (key : String) : Prop :=
  ∃ v, options.get? key = some v ∧ v ≠ .null

def Hubless (c : Context) : Prop := c.target.isScratchOrg = true ∧ c.devHub.truthy = false

/-- What a call is refused for: that it has no context, or one without the hub that it needs, or
that a required option is not given. -/
inductive Refused (a : Action) : Option Context → Entries → Fault → Prop
  | contextless {options : Entries} : Refused a none options
      (.of .invalidActionContext s!"Missing action context for '{a.name}'")
  | hubless {c : Context} {options : Entries} (h : Hubless c) : Refused a (some c) options
      (.of .invalidActionContext <|
        s!"Target org '{c.target.aliasName}' is a scratch org, but no DevHub alias was provided")
  | missing {c : Context} {options : Entries} {before after : List String} {key : String}
      (hc : ¬Hubless c) (hr : a.work.required = before ++ key :: after)
      (hb : ∀ k ∈ before, Given options k) (hk : ¬Given options key) :
      Refused a (some c) options (.missingOption key)

theorem checkContext_cases (c : Context) :
    Hubless c ∧ checkContext c = .error (.of .invalidActionContext <|
        s!"Target org '{c.target.aliasName}' is a scratch org, but no DevHub alias was provided") ∨
      ¬Hubless c ∧ checkContext c = .ok () := by
  unfold checkContext Hubless
  split
  · next h => exact .inl ⟨by simpa using h, rfl⟩
  · next h => exact .inr ⟨by simpa using h, rfl⟩

theorem missing?_finds (work : ActionName) (options : Entries) :
    ∃ lacks, missing? work options = work.required.find? lacks ∧
      ∀ key, lacks key = true ↔ ¬Given options key := by
  refine ⟨_, rfl, fun key => ?_⟩
  unfold Given
  cases options.get? key with
  | none => simp
  | some v => cases v <;> simp

theorem missing?_eq_some_iff {work : ActionName} {key : String} :
    missing? work options = some key ↔
      ∃ before after, work.required = before ++ key :: after ∧
        (∀ k ∈ before, Given options k) ∧ ¬Given options key := by
  obtain ⟨lacks, hfind, hlacks⟩ := missing?_finds work options
  rw [hfind, List.find?_eq_some_iff_append]
  simp only [Bool.not_eq_true', ← Bool.not_eq_true, hlacks, Classical.not_not]
  constructor
  · rintro ⟨hk, before, after, hr, hb⟩
    exact ⟨before, after, hr, hb, hk⟩
  · rintro ⟨before, after, hr, hb, hk⟩
    exact ⟨hk, before, after, hr, hb⟩

theorem missing?_eq_none_iff {work : ActionName} :
    missing? work options = none ↔ ∀ key ∈ work.required, Given options key := by
  obtain ⟨lacks, hfind, hlacks⟩ := missing?_finds work options
  rw [hfind, List.find?_eq_none]
  simp only [hlacks, Classical.not_not]

theorem checkOptions_eq_error_iff :
    a.checkOptions options = .error f ↔
      ∃ key, missing? a.work options = some key ∧ f = .missingOption key := by
  unfold checkOptions
  cases missing? a.work options with
  | none => simp
  | some key => simp [eq_comm]

theorem check_eq_error_iff : a.check c options = .error f ↔ a.Refused c options f := by
  cases c with
  | none =>
    constructor
    · rintro ⟨⟩
      exact .contextless
    · rintro ⟨⟩
      rfl
  | some c =>
    rw [check_eq]
    unfold checked
    obtain ⟨hc, h⟩ | ⟨hc, h⟩ := checkContext_cases c
    · rw [h]
      constructor
      · rintro ⟨⟩
        exact .hubless hc
      · rintro (_ | _ | ⟨hn, _, _, _⟩)
        · rfl
        · exact absurd hc hn
    · rw [h]
      have hmap : (Except.map (fun _ => c) (a.checkOptions options) = .error f) ↔
          a.checkOptions options = .error f := by
        cases a.checkOptions options <;> simp [Except.map]
      refine hmap.trans (checkOptions_eq_error_iff.trans ?_)
      simp only [missing?_eq_some_iff]
      constructor
      · rintro ⟨key, ⟨before, after, hr, hb, hk⟩, rfl⟩
        exact .missing hc hr hb hk
      · rintro (_ | hh | ⟨-, hr, hb, hk⟩)
        · exact absurd hh hc
        · exact ⟨_, ⟨_, _, hr, hb, hk⟩, rfl⟩

theorem check_eq_ok {c' : Context} (h : a.check c options = .ok c') : c = some c' := by
  cases c with
  | none => cases h
  | some c =>
    rw [check_eq] at h
    cases hc : a.checked c options with
    | error f => rw [hc] at h; cases h
    | ok _ => rw [hc] at h; cases h; rfl

theorem run_of_checked {c : Context} (h : a.checked c options = .ok ()) (s : Stage σ) :
    (a.run r (some c) options).run s =
      (.ok ((a.runChecked r c options).run s).1, ((a.runChecked r c options).run s).2) := by
  unfold run
  rw [check_eq, h]
  rfl

theorem given_of_checked {c : Context} (h : a.checked c options = .ok ()) :
    ∀ key ∈ a.work.required, Given options key := by
  refine missing?_eq_none_iff.1 ?_
  unfold checked at h
  obtain ⟨-, hc⟩ | ⟨-, hc⟩ := checkContext_cases c
  · rw [hc] at h
    cases h
  · rw [hc] at h
    replace h : a.checkOptions options = .ok () := h
    unfold checkOptions at h
    split at h
    · cases h
    · next hnone => exact hnone

-- ---------------------------------------------------------------------------
-- What is made of the outcome of the commands
-- ---------------------------------------------------------------------------

def taken (a : Action) (now : Moment) : Except Raised Outcome → Outcome
  | .ok o => o
  | .error e => .ofRaised e a.work.executor .executor now

def judged (a : Action) (options : Entries) (now : Moment) (o : Outcome) : Outcome :=
  if a.work = .deleteScratchOrg then
    (absenceWarning? (options.getD "scratchOrgAlias").text o now).getD o
  else o

variable {s : Stage σ} {o part : Outcome}

theorem taken_bad_iff {answer : Except Raised Outcome} (h : ∀ p, answer ≠ .error (.bubbled p))
    (now : Moment) : (a.taken now answer).Bad ↔ ∀ o, answer = .ok o → o.Bad := by
  cases answer with
  | ok o => simp [taken]
  | error e =>
    cases e with
    | fault f => simp [taken, Bad, ofRaised_fault_status, Status.bad]
    | bubbled p => exact absurd rfl (h p)

theorem judged_of_ne (h : a.work ≠ .deleteScratchOrg) (now : Moment) (o : Outcome) :
    a.judged options now o = o := if_neg h

theorem received_leads (a : Action) (answer : Except Raised Outcome) (s : Stage σ) :
    Leads (a.received answer) s fun o t => o = a.taken s.now answer ∧ Aside s t := by
  cases answer with
  | ok o => exact leads_pure ⟨rfl, .refl s⟩
  | error e =>
    refine (leads_note _ s).bind fun _ t ht => leads_clock (leads_pure ⟨?_, ht⟩)
    rw [ht.now]
    rfl

theorem classify_leads (a : Action) (options : Entries) (o : Outcome) (s : Stage σ) :
    Leads (a.classify options o) s fun o' t => o' = a.judged options s.now o ∧ Aside s t := by
  unfold classify judged
  split
  · refine leads_clock ?_
    split
    · next h =>
      refine (leads_note _ s).bind fun _ t ht => leads_pure ⟨?_, ht⟩
      rw [h, Option.getD_some]
    · next h => exact leads_pure ⟨by rw [h, Option.getD_none], .refl s⟩
  · exact leads_pure ⟨rfl, .refl s⟩

end Action

-- ---------------------------------------------------------------------------
-- Conclusions
-- ---------------------------------------------------------------------------

def Status.graded : Status → Status
  | .error => .error
  | .failure => .error
  | .warning => .warning
  | _ => .success

theorem Status.graded_eq_error_iff {s : Status} : s.graded = .error ↔ s.bad = true := by
  cases s <;> simp [graded, bad]

structure Concluded (part o : Outcome) : Prop where
  finalized : o.finalized = true
  kind : o.kind = .action
  children : o.children = [part]
  status : o.status = part.status.graded
  message : o.status = .error → o.message = part.message

theorem Outcome.Filled.graded {o part : Outcome} {reply : Reply} (h : o.Filled [part] reply)
    (hp : o.policy = { failureIsError := true }) (hs : o.status = .waiting) :
    reply.outcome.status = part.status.graded := by
  have hends : ∀ s, o.policy.ends s = s.bad := by
    intro s
    rw [hp]
    cases s <;> rfl
  generalize hparts : [part] = parts at h
  cases h with
  | finished h now =>
    subst hparts
    have hok := h part (List.mem_singleton_self _)
    have htaking : (o.taking [part]).status = o.status.worse (o.policy.leaves part.status) := rfl
    rw [hends] at hok
    rw [close_status, settled, htaking, hs]
    revert hok
    cases part.status <;>
      simp [Status.bad, Policy.leaves, Status.worse, Status.severity, Status.pending,
        Status.graded]
  | @broken before last _ hend now =>
    obtain ⟨rfl, rfl⟩ : before = [] ∧ last = part := by
      cases before with
      | nil => simpa using hparts.symm
      | cons b before => simp at hparts
    rw [hends] at hend
    exact (Status.graded_eq_error_iff.2 hend).symm

namespace Action

variable {a : Action} {options : Entries} {s t : Stage σ} {o : Outcome}

/-- The work of an action that has been begun, on a stage that nothing has happened on since. -/
def performed (a : Action) (r : Runner σ) (c : Context) (options : Entries) (s t : Stage σ) :
    (Outcome × Except Raised Outcome) × Stage σ :=
  (a.perform r c options (a.begun c options s.now)).run t

def part (a : Action) (options : Entries)
    (performed : (Outcome × Except Raised Outcome) × Stage σ) : Outcome :=
  a.judged options performed.2.now (a.taken performed.2.now performed.1.2)

/-- An action does its work, and concludes with what has come of that. -/
theorem runChecked_leads (a : Action) (r : Runner σ) (c : Context) (options : Entries)
    (s : Stage σ) :
    Leads (a.runChecked r c options) s fun o u => ∃ t, Aside s t ∧
      Aside (a.performed r c options s t).2 u ∧
      Concluded (a.part options (a.performed r c options s t)) o := by
  refine leads_clock ((leads_note _ s).bind fun _ t ht => ?_)
  show Leads ((a.perform r c options (a.begun c options s.now)) >>= _) t _
  have hwork : Leads (a.perform r c options (a.begun c options s.now)) t fun performed u =>
      (performed, u) = a.performed r c options s t := rfl
  obtain ⟨⟨es, hes, hkeys⟩, -⟩ := perform_handed a (a.begun c options s.now) c options (r := r) t
  refine hwork.bind fun performed u hu => ?_
  obtain ⟨o, answer⟩ := performed
  have ho : o = (a.begun c options s.now).withDetail (.dict es) := by
    rw [← hes]
    exact congrArg (·.1.1) hu
  have hbegun := begun_gathered (a := a) c options s.now
  have hopen : o.finalized = false := by
    rw [ho]
    exact (hbegun.withDetail _).opened
  refine (received_leads a answer u).bind ?_
  rintro _ v ⟨rfl, hv⟩
  refine (classify_leads a options _ v).bind ?_
  rintro _ w ⟨rfl, hw⟩
  refine (conclude_leads hopen _ w).imp ?_
  rintro _ x ⟨⟨reply, hfilled, rfl⟩, hx⟩
  refine ⟨t, ht, ?_, ?_⟩
  · rw [← hu]
    exact hv.trans (hw.trans hx)
  · have hpart : a.part options (a.performed r c options s t) =
        a.judged options v.now (a.taken u.now answer) := by
      rw [← hu, part, hv.now]
    rw [hpart]
    have hpolicy : o.policy = { failureIsError := true } := by
      rw [ho, withDetail_policy, begun, withDetail_policy]
      rfl
    have hstatus : o.status = .waiting := by
      rw [ho, withDetail_status, begun, withDetail_status]
      rfl
    refine ⟨hfilled.finalized, ?_, ?_, hfilled.graded hpolicy hstatus, ?_⟩
    · rw [hfilled.kind, ho, withDetail_kind, begun, withDetail_kind]
      rfl
    · rw [hfilled.children, ho, withDetail_children, begun, withDetail_children]
      rfl
    · intro herror
      rw [hfilled.graded hpolicy hstatus, Status.graded_eq_error_iff] at herror
      refine hfilled.message ?_ (.here herror (by simp))
      rw [ho]
      exact (Unblamed.begin.withDetail (by simp [Entries.keys])).withDetail hkeys

/-- A call of an action is refused exactly for its context or the first option that it lacks, and
then nothing has happened. Else the action ends, whatever comes of its work, and what has come
of it is its one part. -/
theorem run_contract (a : Action) (r : Runner σ) (c : Option Context) (options : Entries)
    (s : Stage σ) :
    (∀ f, ((a.run r c options).run s).1 = .error f ↔ a.Refused c options f) ∧
    (∀ f, a.Refused c options f → ((a.run r c options).run s).2 = s) ∧
    ((∀ f, ¬a.Refused c options f) → ∃ c' o t, c = some c' ∧ Aside s t ∧
      ((a.run r c options).run s).1 = .ok o ∧
      Aside (a.performed r c' options s t).2 ((a.run r c options).run s).2 ∧
      Concluded (a.part options (a.performed r c' options s t)) o) := by
  simp only [← check_eq_error_iff]
  unfold run
  cases h : a.check c options with
  | error f =>
    refine ⟨fun f' => ⟨fun hf => ?_, fun hf => ?_⟩, fun _ _ => rfl, fun hn => absurd rfl (hn f)⟩
    · cases hf
      rfl
    · cases hf
      rfl
  | ok c' =>
    obtain ⟨t, ht, hu, ho⟩ := runChecked_leads a r c' options s
    refine ⟨fun f' => ⟨fun hf => ?_, fun hf => ?_⟩, fun f' hf => ?_, fun _ => ?_⟩
    · cases hf
    · cases hf
    · cases hf
    · exact ⟨c', _, t, check_eq_ok h, ht, rfl, hu, ho⟩

end Action

end Provision
