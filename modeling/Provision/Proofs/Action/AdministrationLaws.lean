import Provision.Proofs.Action.Chains
import Provision.Proofs.Action.Contract
import Provision.Proofs.User.DefinitionLaws

/-!
# Configuring the admin user

Nothing is called unless there is a definition that can be used (`Usable`). Then the admin user
is looked up, and if the look-up names one then the commands of the definition are gone through
as far as the first that fails (`Administered`).
-/

namespace Provision

open Stage Outcome
open Play (Leads leads_pure leads_clock)
open Plan (Reach)
open Action.Chain (Fills)

variable {σ : Type} {r : Runner σ}

namespace Action

variable {a : Action} {c : Context} {options definition : Entries} {permsets : List String}
  {found : Outcome} {u : Value}

-- ---------------------------------------------------------------------------
-- Preparing
-- ---------------------------------------------------------------------------

/-- A definition that can be read, and the permission sets that it lists. If it has nothing to say
of them then there are none. -/
def Usable (c : Context) (options definition : Entries) (permsets : List String) : Prop :=
  ∃ name, options.get? "definitionFile" = some (.str name) ∧
    User.readDefinition c.files (c.project.configPath.append name) = .ok definition ∧
    ((definition.getD "permsets").truthy = false ∧ permsets = [] ∨
      definition.getD "permsets" = .ofStrings permsets)

section
variable {α β : Type} {n n' : Nat}

theorem Draft.bind_ok_iff {x : Draft α} {f : α → Draft β} {b : β} :
    (x >>= f).run.run n = (.ok b, n') ↔
      ∃ a m, x.run.run n = (.ok a, m) ∧ (f a).run.run m = (.ok b, n') := by
  rw [run_bind]
  cases x.run.run n with
  | mk result m =>
    cases result with
    | error e =>
      refine ⟨nofun, ?_⟩
      rintro ⟨_, _, ⟨⟩, _⟩
    | ok a =>
      refine ⟨fun h => ⟨a, m, rfl, h⟩, ?_⟩
      rintro ⟨_, _, ⟨⟩, h⟩
      exact h

theorem Draft.ofExcept_ok_iff {e : Except Fault α} {b : α} :
    (Draft.ofExcept e).run.run n = (.ok b, n') ↔ e = .ok b ∧ n = n' := by
  cases e with
  | error f => exact ⟨nofun, nofun⟩
  | ok b' =>
    show (Except.ok b', n) = (Except.ok b, n') ↔ _
    simp

theorem option_ok_iff {key : String} {v : Value} :
    (option options key).run.run n = (.ok v, n') ↔ options.get? key = some v ∧ n = n' := by
  unfold option
  cases options.get? key with
  | none => exact ⟨nofun, nofun⟩
  | some v' =>
    show (Except.ok v', n) = (Except.ok v, n') ↔ _
    simp

theorem within_ok_iff {directory file : Files.Path} {v : Value} :
    (within directory v).run.run n = (.ok file, n') ↔
      ∃ name, v = .str name ∧ directory.append name = file ∧ n = n' := by
  cases v with
  | str name =>
    show (Except.ok (directory.append name), n) = (Except.ok file, n') ↔ _
    simp
  | _ => exact ⟨nofun, nofun⟩

theorem prepare_ok_iff :
    (perform.prepare c options).run.run n = (.ok (definition, permsets), n') ↔
      Usable c options definition permsets ∧ n = n' := by
  unfold perform.prepare Usable
  constructor
  · intro h
    obtain ⟨v, _, h₁, h⟩ := Draft.bind_ok_iff.1 h
    obtain ⟨file, _, h₂, h⟩ := Draft.bind_ok_iff.1 h
    obtain ⟨definition', _, h₃, h⟩ := Draft.bind_ok_iff.1 h
    obtain ⟨permsets', _, h₄, h⟩ := Draft.bind_ok_iff.1 h
    obtain ⟨hv, rfl⟩ := option_ok_iff.1 h₁
    obtain ⟨name, rfl, rfl, rfl⟩ := within_ok_iff.1 h₂
    obtain ⟨hread, rfl⟩ := Draft.ofExcept_ok_iff.1 h₃
    obtain ⟨hpermsets, rfl⟩ := Draft.ofExcept_ok_iff.1 h₄
    cases h
    exact ⟨⟨name, hv, hread, User.permissionSets_eq_ok_iff.1 hpermsets⟩, rfl⟩
  · rintro ⟨⟨name, hv, hread, hpermsets⟩, rfl⟩
    refine Draft.bind_ok_iff.2 ⟨_, _, option_ok_iff.2 ⟨hv, rfl⟩, ?_⟩
    refine Draft.bind_ok_iff.2 ⟨_, _, within_ok_iff.2 ⟨name, rfl, rfl, rfl⟩, ?_⟩
    refine Draft.bind_ok_iff.2 ⟨_, _, Draft.ofExcept_ok_iff.2 ⟨hread, rfl⟩, ?_⟩
    have hpermsets' := User.permissionSets_eq_ok_iff.2 hpermsets
    exact Draft.bind_ok_iff.2 ⟨_, _, Draft.ofExcept_ok_iff.2 ⟨hpermsets', rfl⟩, rfl⟩

theorem Usable.prepared (h : Usable c options definition permsets) (n : Nat) :
    (perform.prepare c options).run.run n = (.ok (definition, permsets), n) :=
  prepare_ok_iff.2 ⟨h, rfl⟩

theorem Usable.unique {definition' : Entries} {permsets' : List String}
    (h : Usable c options definition permsets) (h' : Usable c options definition' permsets') :
    definition = definition' ∧ permsets = permsets' := by
  cases (h.prepared 0).symm.trans (h'.prepared 0)
  exact ⟨rfl, rfl⟩

end

-- ---------------------------------------------------------------------------
-- Looking up
-- ---------------------------------------------------------------------------

def Names (found : Outcome) (username : Value) : Prop :=
  ∃ es, found.detail.get? "result" = some (.dict es) ∧ Entries.get? "username" es = some username ∧
    username.truthy = true

def Misread (found : Outcome) : Prop :=
  ∃ v, found.detail.get? "result" = some v ∧ v.truthy = true ∧ ∀ es, v ≠ .dict es

theorem Misread.not_names (h : Misread found) (u : Value) : ¬Names found u := by
  rintro ⟨es, hes, -, -⟩
  obtain ⟨v, hv, -, hn⟩ := h
  exact hn es (Option.some.inj (hv.symm.trans hes))

theorem truthy_of_get? {key : String} {v : Value} {es : Entries}
    (h : Entries.get? key es = some v) : (Value.dict es).truthy = true := by
  cases es with
  | nil => cases h
  | cons e es => rfl

/-- The name that a look-up reports is looked for in an object. What else counts as given is a
fault. -/
theorem adminUsername_cases (found : Outcome) :
    (Misread found ∧ ∃ f, adminUsername found = .error f) ∨
      ¬Misread found ∧ ∃ u, adminUsername found = .ok u ∧
        ∀ u', Names found u' ↔ u' = u ∧ u.truthy = true := by
  unfold adminUsername Misread Names Entries.getD
  dsimp only
  cases hresult : Entries.get? "result" found.detail with
  | none =>
    refine .inr ⟨by simp, .null, by simp [Value.truthy], ?_⟩
    simp [Value.truthy]
  | some v =>
    rw [Option.getD_some]
    cases ht : v.truthy with
    | false =>
      refine .inr ⟨?_, .null, rfl, fun u' => iff_of_false ?_ (by simp [Value.truthy])⟩
      · rintro ⟨_, ⟨⟩, ht', -⟩
        rw [ht] at ht'
        cases ht'
      · rintro ⟨es, ⟨⟩, hu, -⟩
        rw [truthy_of_get? hu] at ht
        cases ht
    | true =>
      cases v with
      | dict es =>
        refine .inr ⟨?_, _, rfl, fun u' => ?_⟩
        · rintro ⟨_, ⟨⟩, -, hn⟩
          exact hn es rfl
        · cases hu : Entries.get? "username" es with
          | none => simp [hu, Value.truthy]
          | some u => simp [hu]; grind
      | _ => exact .inl ⟨⟨_, rfl, ht, by simp⟩, _, rfl⟩

-- ---------------------------------------------------------------------------
-- Configuring
-- ---------------------------------------------------------------------------

def administration (now : Moment) : Outcome :=
  Outcome.begin ActionName.configureAdminUser.executor .executor { failureIsError := true } now

theorem administration_exacting (begun : Moment) : Exacting (administration begun) := .begin _ _ _

theorem named_exacting (begun : Moment) (hok : found.status.bad = false) (u : Value) :
    Exacting (((administration begun).taking [found]).withDetail
      (.dict [("admin_username", u)])) :=
  ((administration_exacting begun).take hok).withDetail _

/-- What the calls that configure the admin user come to: that of the look-up, and the others. -/
inductive Administered (c : Context) (definition : Entries) (permsets : List String) :
    Call → List Call → Except Raised Outcome → Prop
  | unfound {answer : Except Raised Outcome} {chain : Chain} {begun : Moment}
      (h : Fills (administration begun) [⟨displayCommand c, answer⟩] chain)
      (hn : ∀ o, chain ≠ .going o) (now : Moment) :
      Administered c definition permsets ⟨displayCommand c, answer⟩ [] (chain.result now)
  | misread {found : Outcome} {f : Fault} (hok : found.status.bad = false) (h : Misread found) :
      Administered c definition permsets ⟨displayCommand c, .ok found⟩ [] (.error (.fault f))
  | nameless {found : Outcome} {b : Blame} {begun now : Moment} (hok : found.status.bad = false)
      (h : ¬Misread found) (hu : ∀ u, ¬Names found u) :
      Administered c definition permsets ⟨displayCommand c, .ok found⟩ []
        (.ok (((administration begun).taking [found]).error b .null now).outcome)
  | named {found : Outcome} {u : Value} {calls : List Call} {chain : Chain} {begun : Moment}
      (hok : found.status.bad = false) (h : ¬Misread found)
      (hu : ∀ u', Names found u' ↔ u' = u)
      (hreach : Reach Call.command Call.failed (configureCommands c definition permsets u) calls)
      (hfills : Fills (((administration begun).taking [found]).withDetail
        (.dict [("admin_username", u)])) calls chain) (now : Moment) :
      Administered c definition permsets ⟨displayCommand c, .ok found⟩ calls (chain.result now)

theorem configureAdmin_leads (c : Context) (definition : Entries) (permsets : List String)
    (s : Stage σ) :
    Leads (configureAdmin r c definition permsets) s fun result t => ∃ first rest,
      Calls r s (first :: rest) t ∧ Administered c definition permsets first rest result := by
  refine leads_clock ?_
  refine (chainCommand_leads (administration_exacting s.now) (displayCommand c) s).bind ?_
  rintro ⟨chain, found?⟩ t ⟨answer, hfirst, hfills, hgoing⟩
  cases chain with
  | ended o => exact leads_pure ⟨_, _, hfirst, .unfound hfills nofun t.now⟩
  | broken f => exact leads_pure ⟨_, _, hfirst, .unfound hfills nofun t.now⟩
  | going o =>
    obtain ⟨found, rfl, hok, rfl, rfl⟩ := hgoing o rfl
    dsimp only
    obtain ⟨hmis, f, hf⟩ | ⟨hmis, u, hu, hnames⟩ := adminUsername_cases found
    · rw [hf]
      exact leads_pure ⟨_, _, hfirst, .misread hok hmis⟩
    · rw [hu]
      refine leads_clock ?_
      cases ht : u.truthy with
      | false =>
        refine leads_pure ⟨_, _, hfirst, .nameless hok hmis fun u' hu' => ?_⟩
        have := (hnames u').1 hu'
        simp [ht] at this
      | true =>
        refine (chainCommands_leads (named_exacting s.now hok u) _ t).bind ?_
        rintro chain v ⟨calls, hcalls, hreach, hfills'⟩
        have hall := hfirst.append hcalls
        have hnames' : ∀ u', Names found u' ↔ u' = u := by simpa [ht] using hnames
        cases chain with
        | going o => exact ⟨_, _, hall, .named hok hmis hnames' hreach hfills' v.now⟩
        | ended o => exact ⟨_, _, hall, .named hok hmis hnames' hreach hfills' v.now⟩
        | broken f => exact ⟨_, _, hall, .named hok hmis hnames' hreach hfills' v.now⟩

-- ---------------------------------------------------------------------------
-- What comes of the calls
-- ---------------------------------------------------------------------------

def Finished (o : Outcome) : Prop := o.finalized = true ∧ o.status.decided = true

def Named (look : Call) (username : Value) : Prop :=
  ∃ found, look.answer = .ok found ∧ found.status.ok = true ∧ Names found username

/-- Whether all that has been returned was let go of: a later call has raised a fault, or the
look-up reports something that is no object. -/
def Abandoned (calls : List Call) : Prop :=
  (returned calls ≠ [] ∧ ∃ call ∈ calls, ∃ f, call.answer = .error (.fault f)) ∨
    ∃ look found, calls.head? = some look ∧ look.answer = .ok found ∧ found.status.bad = false ∧
      Misread found

theorem abandoned_cons_iff {look : Call} {calls : List Call} :
    Abandoned (look :: calls) ↔
      (returned (look :: calls) ≠ [] ∧
        ∃ call ∈ look :: calls, ∃ f, call.answer = .error (.fault f)) ∨
      ∃ found, look.answer = .ok found ∧ found.status.bad = false ∧ Misread found := by
  simp [Abandoned]

theorem Abandoned.returned_ne_nil {calls : List Call} (h : Abandoned calls) :
    returned calls ≠ [] := by
  obtain ⟨hsome, -⟩ | ⟨look, found, hlook, ha, -⟩ := h
  · exact hsome
  · obtain ⟨rest, rfl⟩ := List.head?_eq_some_iff.1 hlook
    rw [returned_cons ha]
    exact List.cons_ne_nil _ _

theorem taken_fault_children (a : Action) (f : Fault) (now : Moment) :
    (a.taken now (.error (.fault f))).children = [] := by
  rw [taken, ofRaised, error_of_open rfl]
  rfl

theorem taken_fault_labelled (hw : a.work = .configureAdminUser) (f : Fault) (now : Moment) :
    (a.taken now (.error (.fault f))).name = "sfdx:configureUser" ∧
      (a.taken now (.error (.fault f))).kind = .executor := by
  rw [taken, ofRaised, error_of_open rfl, hw]
  exact ⟨rfl, rfl⟩

section
variable {o : Outcome} {calls : List Call} {chain : Chain}

theorem chain_labelled (hw : a.work = .configureAdminUser) (h : Fills o calls chain)
    (ho : o.finalized = false) (hname : o.name = "sfdx:configureUser") (hkind : o.kind = .executor)
    (now now' : Moment) :
    (a.taken now (chain.result now')).name = "sfdx:configureUser" ∧
      (a.taken now (chain.result now')).kind = .executor := by
  cases hresult : chain.result now' with
  | ok o' =>
    obtain ⟨hname', hkind'⟩ := h.labelled ho hresult
    exact ⟨hname'.trans hname, hkind'.trans hkind⟩
  | error e =>
    cases e with
    | fault f => exact taken_fault_labelled hw f now
    | bubbled p => exact absurd hresult (Chain.result_ne_bubbled chain now' p)

theorem chain_drops (a : Action) (h : Fills o calls chain)
    (hfault : ∃ call ∈ calls, ∃ f, call.answer = .error (.fault f)) (now now' : Moment) :
    (a.taken now (chain.result now')).children = [] := by
  obtain ⟨f, rfl⟩ := h.broken_iff.2 hfault
  exact taken_fault_children a f now

/-- What a chain has taken in is there, unless a fault was raised and there is something to lose. -/
theorem chain_keeps (a : Action) (h : Fills o calls chain) (ho : o.finalized = false)
    (hkept : ¬(o.children ++ returned calls ≠ [] ∧
      ∃ call ∈ calls, ∃ f, call.answer = .error (.fault f))) (now now' : Moment) :
    (a.taken now (chain.result now')).children = o.children ++ returned calls := by
  cases chain with
  | broken f =>
    have hfault := h.broken_iff.1 ⟨f, rfl⟩
    have hnone : o.children ++ returned calls = [] :=
      Classical.not_not.1 fun hsome => hkept ⟨hsome, hfault⟩
    rw [hnone]
    exact chain_drops a h hfault now now'
  | going o' => exact h.children ho rfl
  | ended o' =>
    have hended : (Chain.ended o').result now' = .ok o' := rfl
    exact h.children ho hended

end

namespace Administered

variable {first : Call} {rest : List Call} {result : Except Raised Outcome}

theorem not_bubbled (h : Administered c definition permsets first rest result) (p : Outcome) :
    result ≠ .error (.bubbled p) := by
  cases h with
  | unfound => exact Chain.result_ne_bubbled _ _ p
  | misread => nofun
  | nameless => nofun
  | named => exact Chain.result_ne_bubbled _ _ p

theorem bad_iff (h : Administered c definition permsets first rest result)
    (hf : ∀ call ∈ first :: rest, Yields Finished call.answer) :
    (∀ o, result = .ok o → o.Bad) ↔
      (∀ u, ¬Named first u) ∨ (first :: rest).any Call.failed = true := by
  have hb : ∀ call ∈ first :: rest, ∀ p, call.answer ≠ .error (.bubbled p) := by
    intro call hcall p ha
    have hcall := hf call hcall
    rw [ha] at hcall
    exact hcall
  cases h with
  | unfound h hn _ =>
    have hfailed := h.stopped hn
    exact iff_of_true ((h.bad_iff (administration_exacting _) hb).2 hfailed) (.inr hfailed)
  | misread hok h =>
    refine iff_of_true nofun (.inl ?_)
    rintro u ⟨_, ⟨⟩, -, hu⟩
    exact h.not_names u hu
  | nameless hok h hu =>
    refine iff_of_true ?_ (.inl ?_)
    · rintro _ ⟨⟩
      rw [error_of_open rfl]
      rfl
    · rintro u ⟨_, ⟨⟩, -, hu'⟩
      exact hu u hu'
  | @named found u rest chain begun hok h hu hreach hfills now =>
    have hdecided : found.status.decided = true := (hf _ List.mem_cons_self).2
    have hnamed : Named ⟨displayCommand c, .ok found⟩ u :=
      ⟨found, rfl, (Status.not_bad_iff hdecided).1 (by simp [hok]), (hu u).2 rfl⟩
    have hb' : ∀ call ∈ rest, ∀ p, call.answer ≠ .error (.bubbled p) :=
      fun call hcall => hb call (List.mem_cons_of_mem _ hcall)
    rw [hfills.bad_iff (named_exacting begun hok u) hb', List.any_cons, Call.failed_of_ok rfl, hok,
      Bool.false_or]
    exact (or_iff_right fun hn => hn u hnamed).symm

theorem labelled (hw : a.work = .configureAdminUser)
    (h : Administered c definition permsets first rest result) (now : Moment) :
    (a.taken now result).name = "sfdx:configureUser" ∧ (a.taken now result).kind = .executor := by
  cases h with
  | unfound h hn now' => exact chain_labelled hw h rfl rfl rfl now now'
  | misread hok h => exact taken_fault_labelled hw _ now
  | nameless hok h hu =>
    rw [taken, error_of_open rfl]
    simp only [close_name, blame_name, taking_name, close_kind, blame_kind, taking_kind]
    exact ⟨rfl, rfl⟩
  | named hok h hu hreach hfills now' =>
    exact chain_labelled hw hfills ((withDetail_finalized _).trans rfl)
      ((withDetail_name _).trans rfl) ((withDetail_kind _).trans rfl) now now'

theorem drops (a : Action) (h : Administered c definition permsets first rest result)
    (hlost : Abandoned (first :: rest)) (now : Moment) : (a.taken now result).children = [] := by
  obtain ⟨hsome, hfault⟩ | ⟨found', ha, hok', hmis⟩ := abandoned_cons_iff.1 hlost
  · cases h with
    | unfound h hn now' => exact chain_drops a h hfault now now'
    | misread hok h => exact taken_fault_children a _ now
    | nameless hok h hu =>
      obtain ⟨call, hcall, f, hf⟩ := hfault
      cases List.mem_singleton.1 hcall
      cases hf
    | named hok h hu hreach hfills now' =>
      obtain ⟨call, hcall, f, hf⟩ := hfault
      obtain rfl | hcall := List.mem_cons.1 hcall
      · cases hf
      · exact chain_drops a hfills ⟨call, hcall, f, hf⟩ now now'
  · cases h with
    | @unfound answer chain begun h hn now' =>
      -- A look-up that stops the chain has failed, so it reports nothing that is read.
      have hfailed : Call.failed ⟨displayCommand c, answer⟩ = true := by simpa using h.stopped hn
      rw [Call.failed_of_ok ha, hok'] at hfailed
      cases hfailed
    | misread hok h => exact taken_fault_children a _ now
    | nameless hok h hu =>
      cases ha
      exact absurd hmis h
    | named hok h hu hreach hfills now' =>
      cases ha
      exact absurd hmis h

theorem keeps (a : Action) (h : Administered c definition permsets first rest result)
    (hkept : ¬Abandoned (first :: rest)) (now : Moment) :
    (a.taken now result).children = returned (first :: rest) := by
  rw [abandoned_cons_iff, not_or] at hkept
  obtain ⟨hfault, hread⟩ := hkept
  cases h with
  | unfound h hn now' => exact chain_keeps a h rfl hfault now now'
  | misread hok h => exact absurd ⟨_, rfl, hok, h⟩ hread
  | nameless hok h hu =>
    rw [taken, error_of_open rfl, close_children, blame_children]
    rfl
  | @named found u rest chain begun hok h hu hreach hfills now' =>
    have hchildren : (((administration begun).taking [found]).withDetail
        (.dict [("admin_username", u)])).children = [found] := withDetail_children _
    have hrest : ¬∃ call ∈ rest, ∃ f, call.answer = .error (.fault f) := by
      rintro ⟨call, hcall, hf⟩
      refine hfault ⟨?_, call, List.mem_cons_of_mem _ hcall, hf⟩
      rw [returned_cons rfl]
      exact List.cons_ne_nil _ _
    rw [chain_keeps a hfills ((withDetail_finalized _).trans rfl) (mt And.right hrest) now now',
      hchildren, returned_cons rfl]
    rfl

end Administered

-- ---------------------------------------------------------------------------
-- The action
-- ---------------------------------------------------------------------------

theorem perform_administers (hw : a.work = .configureAdminUser) (r : Runner σ) (c : Context)
    (options : Entries) (o : Outcome) (s : Stage σ) :
    Leads (a.perform r c options o) s fun performed t =>
      ((∀ definition permsets, ¬Usable c options definition permsets) ∧
        (∃ f, performed.2 = .error (.fault f)) ∧ Calls r s [] t) ∨
      ∃ definition permsets first rest, Usable c options definition permsets ∧
        Calls r s (first :: rest) t ∧
        Administered c definition permsets first rest performed.2 := by
  unfold perform
  rw [hw]
  refine ((perform.prepare c options).leads_play s).bind ?_
  rintro result t ⟨⟨n, hn⟩, ht⟩
  cases result with
  | error f =>
    refine leads_pure (.inl ⟨fun definition permsets husable => ?_, ⟨f, rfl⟩, .none ht⟩)
    cases hn.symm.trans (husable.prepared s.serial)
  | ok prepared =>
    obtain ⟨definition, permsets⟩ := prepared
    refine (configureAdmin_leads c definition permsets t).bind ?_
    rintro result u ⟨first, rest, hcalls, h⟩
    exact leads_pure (.inr ⟨definition, permsets, first, rest, (prepare_ok_iff.1 hn).1,
      hcalls.aside_left ht, h⟩)

/-- What there is after the admin user was to be configured: the calls, and an outcome with one
part that says what they came to. -/
theorem run_administers (hw : a.work = .configureAdminUser) (hc : a.checked c options = .ok ())
    (r : Runner σ) (s : Stage σ) :
    ∃ o result now calls, ((a.run r (some c) options).run s).1 = .ok o ∧
      Calls r s calls ((a.run r (some c) options).run s).2 ∧
      Concluded (a.taken now result) o ∧
      ((calls = [] ∧ (∀ definition permsets, ¬Usable c options definition permsets) ∧
          ∃ f, result = .error (.fault f)) ∨
        ∃ definition permsets first rest, calls = first :: rest ∧
          Usable c options definition permsets ∧
          Administered c definition permsets first rest result) := by
  rw [run_of_checked hc]
  obtain ⟨t, ht, hu, ho⟩ := runChecked_leads a r c options s
  have hne : a.work ≠ .deleteScratchOrg := by
    rw [hw]
    decide
  rw [part, judged_of_ne hne] at ho
  obtain ⟨hno, hf, hcalls⟩ | ⟨definition, permsets, first, rest, husable, hcalls, h⟩ :=
    perform_administers hw r c options (a.begun c options s.now) t
  · exact ⟨_, _, _, [], rfl, (hcalls.aside_left ht).aside_right hu, ho, .inl ⟨rfl, hno, hf⟩⟩
  · exact ⟨_, _, _, first :: rest, rfl, (hcalls.aside_left ht).aside_right hu, ho,
      .inr ⟨definition, permsets, first, rest, rfl, husable, h⟩⟩

end Action

end Provision
