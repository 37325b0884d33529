import Mathlib.Data.Option.Basic
import Provision.Proofs.Action.MessageLaws
import Provision.Proofs.Outcome.Akin
import Provision.Proofs.RunLaws

/-!
# Actions with two runners

An action may be run by one runner or by another. As long as both answer each command alike, it
gives them the same commands, and what it comes to is alike (`Action.run_mirrors`). Only the
commands that the first runner is given need be answered alike, and not those that are never
reached.

Two runs are followed side by side from stages that are twins (`Twin`). A step of one is mirrored
by a step of the other (`Play.Mirrors`), and so is what is built from such steps.
-/

namespace Provision

open Outcome Stage

variable {σ τ α α' β β' : Type}

-- ---------------------------------------------------------------------------
-- Stages
-- ---------------------------------------------------------------------------

namespace Stage

def Grown (s s' : Stage σ) : Prop := s.calls <+: s'.calls

theorem steady_grown : Steady (Grown (σ := σ)) where
  records _ _ := List.prefix_rfl
  trans h h' := List.IsPrefix.trans h h'

def since (s s' : Stage σ) : List Command := s'.calls.drop s.calls.length

variable {s t u : Stage σ} {c : Command}

theorem since_opened (state : σ) (now : Moment) (s : Stage σ) :
    since (.opened state now) s = s.calls := rfl

theorem mem_since_left (h : Grown t u) (hc : c ∈ since s t) : c ∈ since s u := by
  obtain ⟨cs, hcs⟩ := h
  rw [since, ← hcs, List.drop_append]
  exact List.mem_append_left _ hc

theorem mem_since_right (h : Grown s t) (hc : c ∈ since t u) : c ∈ since s u := by
  obtain ⟨cs, hcs⟩ := h
  rw [since, ← hcs, List.length_append, ← List.drop_drop] at hc
  exact List.mem_of_mem_drop hc

/-- Stages of two runners that have been given the same commands and have listeners that hear
everything out. -/
structure Twin (s : Stage σ) (t : Stage τ) : Prop where
  serial : s.serial = t.serial
  calls : s.calls = t.calls
  heard : ∀ text, s.objection (.progress text) = none
  heard' : ∀ text, t.objection (.progress text) = none

end Stage

theorem Runner.keeps_grown (r : Runner σ) : r.Keeps Grown where
  toSteady := steady_grown
  hand c s := List.prefix_append s.calls [c]
  serial _ _ := List.prefix_rfl

-- ---------------------------------------------------------------------------
-- Work that is mirrored
-- ---------------------------------------------------------------------------

/-- From twins, work of one runner and of another leaves twins and comes to what is alike, if each
command that the first one is given is as said. -/
def Play.Mirrors (T : Command → Prop) (x : Play σ α) (y : Play τ β) (Q : α → β → Prop) : Prop :=
  ∀ s t, Twin s t → (∀ c ∈ since s (x.run s).2, T c) →
    Twin (x.run s).2 (y.run t).2 ∧ Q (x.run s).1 (y.run t).1

namespace Play

variable {T : Command → Prop} {Q : β → β' → Prop}

theorem mirrors_pure {b : β} {b' : β'} (h : Q b b') :
    Mirrors T (pure b : Play σ β) (pure b' : Play τ β') Q :=
  fun _ _ ht _ => ⟨ht, h⟩

theorem mirrors_clock {f : Moment → Play σ β} {g : Moment → Play τ β'}
    (h : ∀ now now', Mirrors T (f now) (g now') Q) :
    Mirrors T (Stage.clock >>= f) (Stage.clock >>= g) Q :=
  fun s t => h s.now t.now s t

theorem mirrors_note {f : Unit → Play σ β} {g : Unit → Play τ β'} (e e' : Record)
    (h : Mirrors T (f ()) (g ()) Q) :
    Mirrors T (Stage.note e >>= f) (Stage.note e' >>= g) Q :=
  fun s t ht => h { s with records := s.records ++ [e] } { t with records := t.records ++ [e'] }
    ⟨ht.serial, ht.calls, ht.heard, ht.heard'⟩

theorem mirrors_draft (d : Action.Draft α) {f : Except Fault α → Play σ β}
    {g : Except Fault α → Play τ β'} (h : ∀ result, Mirrors T (f result) (g result) Q) :
    Mirrors T (d.play >>= f) (d.play >>= g) Q := by
  intro s t ht hT
  rw [run_bind, Action.Draft.play_run] at hT
  rw [run_bind, run_bind, Action.Draft.play_run, Action.Draft.play_run, ← ht.serial]
  exact h _ _ _ ⟨rfl, ht.calls, ht.heard, ht.heard'⟩ hT

theorem Mirrors.bind {x : Play σ α} {y : Play τ α'} {f : α → Play σ β} {g : α' → Play τ β'}
    {P : α → α' → Prop} (hx : Mirrors T x y P) (hg : Keeps Grown x) (hk : ∀ a, Keeps Grown (f a))
    (hf : ∀ a a', P a a' → Mirrors T (f a) (g a') Q) : Mirrors T (x >>= f) (y >>= g) Q := by
  intro s t ht hT
  obtain ⟨ht', hp⟩ := hx s t ht fun c hc => hT c (mem_since_left (hk _ _) hc)
  exact hf _ _ hp _ _ ht' fun c hc => hT c (mem_since_right (hg s) hc)

end Play

open Play

-- ---------------------------------------------------------------------------
-- Commands
-- ---------------------------------------------------------------------------

def Matched (result result' : Except Raised Outcome) : Prop :=
  ∃ o o', result = .ok o ∧ result' = .ok o' ∧ Akin o o'

def Runner.Answers (r : Runner σ) (r' : Runner τ) (c : Command) : Prop :=
  ∀ now now' state state',
    Matched (r.run c now .never state).result (r'.run c now' .never state').result

variable {r : Runner σ} {r' : Runner τ}

theorem hand_mirrors (c : Command) :
    Mirrors (r.Answers r') (Stage.hand r c) (Stage.hand r' c) Matched := by
  intro s t ht hT
  have hs : (fun text => s.objection (.progress text)) = Objection.never := funext ht.heard
  have ht' : (fun text => t.objection (.progress text)) = Objection.never := funext ht.heard'
  have hcalls : ((Stage.hand r c).run s).2.calls = s.calls ++ [c] := rfl
  have hcalls' : ((Stage.hand r' c).run t).2.calls = t.calls ++ [c] := rfl
  have hresult : ((Stage.hand r c).run s).1 =
      (r.run c s.now (fun text => s.objection (.progress text)) s.state).result := rfl
  have hresult' : ((Stage.hand r' c).run t).1 =
      (r'.run c t.now (fun text => t.objection (.progress text)) t.state).result := rfl
  have hc : r.Answers r' c := hT c (by simp [since, hcalls])
  rw [hresult, hresult', hs, ht']
  refine ⟨⟨ht.serial, ?_, ht.heard, ht.heard'⟩, hc _ _ _ _⟩
  rw [hcalls, hcalls', ht.calls]

-- ---------------------------------------------------------------------------
-- Chains
-- ---------------------------------------------------------------------------

namespace Action

inductive Chain.Akin : Chain → Chain → Prop
  | going {o o' : Outcome} (h : Outcome.Akin o o') (ho : o.finalized = false) :
      Chain.Akin (.going o) (.going o')
  | ended {o o' : Outcome} (h : Outcome.Akin o o') : Chain.Akin (.ended o) (.ended o')

/-- Parts of chains that have come equally far. One that goes on has returned an outcome. -/
inductive Chain.Step : Chain × Option Outcome → Chain × Option Outcome → Prop
  | going {o o' c c' : Outcome} (h : Outcome.Akin o o') (ho : o.finalized = false)
      (hc : Outcome.Akin c c') : Chain.Step (.going o, some c) (.going o', some c')
  | ended {o o' : Outcome} (h : Outcome.Akin o o') : Chain.Step (.ended o, none) (.ended o', none)

variable {o o' : Outcome}

theorem chainCommand_mirrors (h : Akin o o') (ho : o.finalized = false) (command : Command) :
    Mirrors (r.Answers r') (chainCommand r o command) (chainCommand r' o' command) Chain.Step := by
  refine (hand_mirrors command).bind (r.keeps_grown.hand command) (fun result => ?_) ?_
  · cases result with
    | error e => cases e <;> exact keeps_pure steady_grown _
    | ok child =>
      refine keeps_bind steady_grown (keeps_clock steady_grown) fun now => ?_
      dsimp only
      split <;> exact keeps_pure steady_grown _
  · rintro _ _ ⟨child, child', rfl, rfl, hchild⟩
    refine mirrors_clock fun now now' => ?_
    have hattach := h.attach ho hchild now now'
    dsimp only
    generalize o.attach child now = reply at hattach ⊢
    generalize o'.attach child' now' = reply' at hattach ⊢
    cases hattach with
    | quiet h ho => exact mirrors_pure (.going h ho hchild)
    | bubbled h => exact mirrors_pure (.ended h)

theorem chainCommands_mirrors (h : Akin o o') (ho : o.finalized = false)
    (commands : List Command) :
    Mirrors (r.Answers r') (chainCommands r o commands) (chainCommands r' o' commands)
      Chain.Akin := by
  induction commands generalizing o o' with
  | nil => exact mirrors_pure (.going h ho)
  | cons command commands ih =>
    refine (chainCommand_mirrors h ho command).bind
      (chainCommand_keeps r.keeps_grown o command) ?_ ?_
    · rintro ⟨chain, _⟩
      cases chain with
      | going o => exact chainCommands_keeps r.keeps_grown o commands
      | _ => exact keeps_pure steady_grown _
    · rintro _ _ (⟨h, ho, -⟩ | h)
      · exact ih h ho
      · exact mirrors_pure (.ended h)

theorem adminUsername_akin (h : Akin o o') : adminUsername o = adminUsername o' := by
  have hresult : o.detail.getD "result" = o'.detail.getD "result" :=
    congrArg (Option.getD · Value.null) (h.detail "result" (by decide))
  unfold adminUsername
  rw [hresult]

inductive Yielded : Except Raised Outcome → Except Raised Outcome → Prop
  | ok {o o' : Outcome} (h : Akin o o') : Yielded (.ok o) (.ok o')
  | fault (f : Fault) : Yielded (.error (.fault f)) (.error (.fault f))

theorem Yielded.of_matched {result result' : Except Raised Outcome}
    (h : Matched result result') : Yielded result result' := by
  obtain ⟨o, o', rfl, rfl, h⟩ := h
  exact .ok h

theorem configureAdmin_mirrors (c : Context) (definition : Entries) (permsets : List String) :
    Mirrors (r.Answers r') (configureAdmin r c definition permsets)
      (configureAdmin r' c definition permsets) Yielded := by
  have hstep := r.keeps_grown
  refine mirrors_clock fun now now' => ?_
  refine (chainCommand_mirrors (.begin _ _ _ _ now now') rfl (displayCommand c)).bind
    (chainCommand_keeps hstep _ _) ?_ ?_
  · rintro ⟨chain, found⟩
    cases chain with
    | going o =>
      cases found with
      | none => exact keeps_pure steady_grown _
      | some found =>
        cases hname : adminUsername found with
        | error f => simpa only [hname] using keeps_pure steady_grown _
        | ok username =>
          simp only [hname]
          refine keeps_bind steady_grown (keeps_clock steady_grown) fun now => ?_
          split
          · exact keeps_pure steady_grown _
          · refine keeps_bind steady_grown (chainCommands_keeps hstep _ _) fun chain => ?_
            cases chain with
            | going o =>
              exact keeps_bind steady_grown (keeps_clock steady_grown) fun _ =>
                keeps_pure steady_grown _
            | _ => exact keeps_pure steady_grown _
    | _ => exact keeps_pure steady_grown _
  · rintro _ _ (⟨h, ho, hfound⟩ | h)
    · have hsame := adminUsername_akin hfound
      dsimp only
      rw [← hsame]
      split
      · exact mirrors_pure (.fault _)
      · next username _ =>
        refine mirrors_clock fun now now' => ?_
        split
        · exact mirrors_pure (.ok (h.error ho _ _ now now'))
        · have hnamed := h.withDetail (.dict [("admin_username", username)])
          refine (chainCommands_mirrors hnamed (by simpa using ho) _).bind
            (chainCommands_keeps hstep _ _) ?_ ?_
          · intro chain
            cases chain with
            | going o =>
              exact keeps_bind steady_grown (keeps_clock steady_grown) fun _ =>
                keeps_pure steady_grown _
            | _ => exact keeps_pure steady_grown _
          · rintro _ _ (⟨h, ho⟩ | h)
            · refine mirrors_clock fun now now' => ?_
              exact mirrors_pure (.ok (h.finish ho .null now now'))
            · exact mirrors_pure (.ok h)
    · exact mirrors_pure (.ok h)

-- ---------------------------------------------------------------------------
-- Actions
-- ---------------------------------------------------------------------------

variable {T : Command → Prop}

inductive Performed : Outcome × Except Raised Outcome → Outcome × Except Raised Outcome → Prop
  | mk {o o' : Outcome} {result result' : Except Raised Outcome} (h : Akin o o')
      (ho : o.finalized = false) (hr : Yielded result result') :
      Performed (o, result) (o', result')

theorem perform_mirrors (a : Action) (c : Context) (options : Entries) (h : Akin o o')
    (ho : o.finalized = false) :
    Mirrors (r.Answers r') (a.perform r c options o) (a.perform r' c options o') Performed := by
  have hopened (v : Value) : (o.withDetail v).finalized = false := by simpa using ho
  unfold perform
  split
  · refine mirrors_draft _ fun result => ?_
    cases result with
    | error f => exact mirrors_pure ⟨h, ho, .fault f⟩
    | ok command =>
      refine (hand_mirrors command).bind (r.keeps_grown.hand command)
        (fun _ => keeps_pure steady_grown _) fun _ _ hmatched => ?_
      exact mirrors_pure ⟨h.withDetail _, hopened _, Yielded.of_matched hmatched⟩
  · refine mirrors_draft _ fun result => ?_
    cases result with
    | error f => exact mirrors_pure ⟨h, ho, .fault f⟩
    | ok prepared =>
      refine (configureAdmin_mirrors c prepared.1 prepared.2).bind
        (configureAdmin_keeps r.keeps_grown c _ _) (fun _ => keeps_pure steady_grown _)
        fun _ _ hyielded => ?_
      exact mirrors_pure ⟨h.withDetail _, hopened _, hyielded⟩

theorem received_mirrors (a : Action) {result result' : Except Raised Outcome}
    (h : Yielded result result') :
    Mirrors T (a.received result : Play σ Outcome) (a.received result' : Play τ Outcome) Akin := by
  cases h with
  | ok h => exact mirrors_pure h
  | fault f =>
    refine mirrors_note _ _ (mirrors_clock fun now now' => ?_)
    exact mirrors_pure (Akin.ofRaised_fault f _ _ now now')

theorem absenceWarning?_akin (h : Akin o o') (org : String) (now now' : Moment) :
    Option.Rel Akin (absenceWarning? org o now) (absenceWarning? org o' now') := by
  have hsays : saysAbsent o' = saysAbsent o := by
    simp only [saysAbsent, evidence, h.message, h.detail "cause" (by decide),
      h.detail "error_name" (by decide), h.detail "stderr" (by decide)]
  unfold absenceWarning?
  rw [← h.status, hsays]
  split
  · exact .some (h.downgrade _ now now')
  · exact .none

theorem classify_mirrors (a : Action) (options : Entries) (h : Akin o o') :
    Mirrors T (a.classify options o : Play σ Outcome) (a.classify options o' : Play τ Outcome)
      Akin := by
  unfold classify
  split
  · refine mirrors_clock fun now now' => ?_
    have hwarning := absenceWarning?_akin h (options.getD "scratchOrgAlias").text now now'
    generalize absenceWarning? _ o now = warning at hwarning ⊢
    generalize absenceWarning? _ o' now' = warning' at hwarning ⊢
    cases hwarning with
    | none => exact mirrors_pure h
    | some h => exact mirrors_note _ _ (mirrors_pure h)
  · exact mirrors_pure h

theorem conclude_mirrors (a : Action) {c c' : Outcome} (h : Akin o o') (ho : o.finalized = false)
    (hc : Akin c c') :
    Mirrors T (a.conclude o c : Play σ Outcome) (a.conclude o' c' : Play τ Outcome) Akin := by
  refine mirrors_clock fun now now' => ?_
  have hattach := h.attach ho hc now now'
  dsimp only
  generalize o.attach c now = reply at hattach ⊢
  generalize o'.attach c' now' = reply' at hattach ⊢
  cases hattach with
  | quiet h ho => exact mirrors_pure (h.finish ho .null now now')
  | bubbled h => exact mirrors_note _ _ (mirrors_pure h)

theorem runChecked_mirrors (a : Action) (c : Context) (options : Entries) :
    Mirrors (r.Answers r') (a.runChecked r c options) (a.runChecked r' c options) Akin := by
  refine mirrors_clock fun now now' => mirrors_note _ _ ?_
  have hbegun : Akin (a.begun c options now) (a.begun c options now') :=
    (Akin.begin _ _ _ _ now now').withDetail _
  have hlast (o child : Outcome) : Keeps Grown (a.conclude o child : Play σ Outcome) :=
    conclude_keeps steady_grown a o child
  have hclassify (o child : Outcome) :
      Keeps Grown (a.classify options child >>= a.conclude o : Play σ Outcome) :=
    keeps_bind steady_grown (classify_keeps steady_grown a options child) (hlast o)
  refine (perform_mirrors a c options hbegun rfl).bind (perform_keeps r.keeps_grown a c options _)
    (fun p => keeps_bind steady_grown (received_keeps steady_grown a p.2) (hclassify p.1)) ?_
  rintro _ _ ⟨h, ho, hr⟩
  refine (received_mirrors a hr).bind (received_keeps steady_grown a _) (hclassify _) ?_
  intro child child' hchild
  refine (classify_mirrors a options hchild).bind (classify_keeps steady_grown a options child)
    (hlast _) ?_
  intro child child' hchild
  exact conclude_mirrors a h ho hchild

inductive Ran : Except Fault Outcome → Except Fault Outcome → Prop
  | ok {o o' : Outcome} (h : Akin o o') : Ran (.ok o) (.ok o')
  | refused (f : Fault) : Ran (.error f) (.error f)

theorem run_mirrors (a : Action) (c : Option Context) (options : Entries) :
    Mirrors (r.Answers r') (a.run r c options) (a.run r' c options) Ran := by
  unfold run
  split
  · exact mirrors_pure (.refused _)
  · next c _ =>
    refine (runChecked_mirrors a c options).bind (runChecked_keeps r.keeps_grown a c options)
      (fun _ => keeps_pure steady_grown _) fun _ _ h => ?_
    exact mirrors_pure (.ok h)

end Action

end Provision
