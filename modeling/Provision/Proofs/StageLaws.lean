import Provision.Runner

/-!
# Work on a stage

Laws of the work that is done on a stage. `Triple` states what watched work
leads to from one stage: a result, or the fault of a listener that refused an
event. `Leads` does so for work that nobody can refuse. `Keeps` states what every piece
of work does to the stage, whatever comes of it, and `Gives` what comes of it, whatever
the stage. What is kept is any relation that may be followed through and that records
cannot break (`Steady`), or announcements either (`Lasting`).
-/

namespace Provision

variable {σ α β : Type}

-- ---------------------------------------------------------------------------
-- Runs
-- ---------------------------------------------------------------------------

theorem Play.run_bind (x : Play σ α) (f : α → Play σ β) (s : Stage σ) :
    (x >>= f).run s = (f (x.run s).1).run (x.run s).2 := rfl

theorem run_bind {ρ ε : Type} (x : ExceptT ε (StateM ρ) α) (f : α → ExceptT ε (StateM ρ) β)
    (s : ρ) :
    (x >>= f).run.run s = match x.run.run s with
      | (.ok a, s') => (f a).run.run s'
      | (.error e, s') => (.error e, s') := by
  rw [ExceptT.run_bind, StateT.run_bind]
  cases x.run.run s with
  | mk result s' => cases result <;> rfl

namespace Stage

variable {s s' t : Stage σ} {R : Stage σ → Stage σ → Prop}

/-- Events and records have been added, and nothing else has happened. -/
def Quiet (s s' : Stage σ) : Prop :=
  ∃ events records,
    s' = { s with events := s.events ++ events, records := s.records ++ records }

theorem Quiet.refl (s : Stage σ) : Quiet s s := ⟨[], [], by simp⟩

theorem Quiet.trans (h : Quiet s t) (h' : Quiet t s') : Quiet s s' := by
  obtain ⟨es, rs, rfl⟩ := h
  obtain ⟨es', rs', rfl⟩ := h'
  exact ⟨es ++ es', rs ++ rs', by simp⟩

theorem Quiet.objection (h : Quiet s s') : s'.objection = s.objection := by
  obtain ⟨_, _, rfl⟩ := h
  rfl

theorem quiet_event (s : Stage σ) (e : Event) : Quiet s { s with events := s.events ++ [e] } :=
  ⟨[e], [], by simp⟩

theorem quiet_records (s : Stage σ) (rs : List Record) :
    Quiet s { s with records := s.records ++ rs } :=
  ⟨[], rs, by simp⟩

/-- A relation between what was and what is, that holds as long as nothing but records is added,
and that may be followed from stage to stage. -/
structure Steady (R : Stage σ → Stage σ → Prop) : Prop where
  records : ∀ s rs, R s { s with records := s.records ++ rs }
  trans : ∀ {s t s'}, R s t → R t s' → R s s'

theorem Steady.refl (hR : Steady R) (s : Stage σ) : R s s := by
  simpa using hR.records s []

/-- One that holds as well when events are added. -/
structure Lasting (R : Stage σ → Stage σ → Prop) : Prop where
  quiet : ∀ {s s'}, Quiet s s' → R s s'
  trans : ∀ {s t s'}, R s t → R t s' → R s s'

theorem Lasting.steady (hR : Lasting R) : Steady R :=
  ⟨fun s rs => hR.quiet (quiet_records s rs), hR.trans⟩

theorem Lasting.refl (hR : Lasting R) (s : Stage σ) : R s s := hR.quiet (.refl s)

theorem lasting_quiet : Lasting (Quiet (σ := σ)) := ⟨id, .trans⟩

def Progressed (s s' : Stage σ) : Prop :=
  ∃ texts : List String, s'.events = s.events ++ texts.map Event.progress

theorem steady_progressed : Steady (Progressed (σ := σ)) where
  records _ _ := ⟨[], by simp⟩
  trans h h' := by
    obtain ⟨texts, hs⟩ := h
    obtain ⟨more, hs'⟩ := h'
    exact ⟨texts ++ more, by simp [hs, hs']⟩

/-- Nothing has been handed to a runner meanwhile. Records may have been added, and serial numbers
given out. -/
def Aside (s t : Stage σ) : Prop :=
  ∃ records serial, t = { s with records := s.records ++ records, serial }

namespace Aside

theorem refl (s : Stage σ) : Aside s s := ⟨[], s.serial, by simp⟩

theorem trans (h : Aside s t) (h' : Aside t s') : Aside s s' := by
  obtain ⟨rs, n, rfl⟩ := h
  obtain ⟨rs', n', rfl⟩ := h'
  exact ⟨rs ++ rs', n', by simp⟩

theorem now (h : Aside s t) : t.now = s.now := by
  obtain ⟨_, _, rfl⟩ := h
  rfl

theorem calls (h : Aside s t) : t.calls = s.calls := by
  obtain ⟨_, _, rfl⟩ := h
  rfl

end Aside

theorem lasting_objection : Lasting fun s s' : Stage σ => s'.objection = s.objection :=
  ⟨Quiet.objection, fun h h' => h'.trans h⟩

end Stage

open Stage

variable {R : Stage σ → Stage σ → Prop}

-- ---------------------------------------------------------------------------
-- What work keeps
-- ---------------------------------------------------------------------------

namespace Play

def Keeps (R : Stage σ → Stage σ → Prop) (x : Play σ α) : Prop := ∀ s, R s (x.run s).2

theorem keeps_bind (hR : Steady R) {x : Play σ α} {f : α → Play σ β} (hx : Keeps R x)
    (hf : ∀ a, Keeps R (f a)) : Keeps R (x >>= f) :=
  fun s => hR.trans (hx s) (hf _ _)

theorem keeps_pure (hR : Steady R) (a : α) : Keeps R (pure a : Play σ α) := hR.refl

theorem keeps_clock (hR : Steady R) : Keeps R (Stage.clock : Play σ Moment) := hR.refl

theorem keeps_noteAll (hR : Steady R) (rs : List Record) :
    Keeps R (Stage.noteAll rs : Play σ Unit) :=
  fun s => hR.records s rs

theorem keeps_note (hR : Steady R) (r : Record) : Keeps R (Stage.note r : Play σ Unit) :=
  keeps_noteAll hR [r]

end Play

-- ---------------------------------------------------------------------------
-- What work gives
-- ---------------------------------------------------------------------------

def Play.Gives (x : Play σ α) (Q : α → Prop) : Prop := ∀ s, Q (x.run s).1

namespace Play

variable {Q : β → Prop}

theorem gives_pure {b : β} (h : Q b) : Gives (pure b : Play σ β) Q := fun _ => h

theorem Gives.bind {x : Play σ α} {f : α → Play σ β} {P : α → Prop} (hx : Gives x P)
    (hf : ∀ a, P a → Gives (f a) Q) : Gives (x >>= f) Q :=
  fun s => hf _ (hx s) _

theorem gives_after {x : Play σ α} {f : α → Play σ β} (hf : ∀ a, Gives (f a) Q) :
    Gives (x >>= f) Q :=
  fun _ => hf _ _

end Play

/-- From this stage, work comes to something and leaves a stage as said. -/
def Play.Leads (x : Play σ α) (s : Stage σ) (Q : α → Stage σ → Prop) : Prop :=
  Q (x.run s).1 (x.run s).2

namespace Play

variable {s : Stage σ} {Q : β → Stage σ → Prop}

theorem leads_pure {b : β} (h : Q b s) : Leads (pure b) s Q := h

theorem Leads.bind {x : Play σ α} {f : α → Play σ β} {P : α → Stage σ → Prop} (hx : Leads x s P)
    (hf : ∀ a t, P a t → Leads (f a) t Q) : Leads (x >>= f) s Q :=
  hf _ _ hx

theorem Leads.imp {x : Play σ β} {P : β → Stage σ → Prop} (hx : Leads x s P)
    (h : ∀ b t, P b t → Q b t) : Leads x s Q :=
  h _ _ hx

theorem leads_clock {f : Moment → Play σ β} (h : Leads (f s.now) s Q) :
    Leads (Stage.clock >>= f) s Q := h

theorem leads_note (e : Record) (s : Stage σ) :
    Leads (Stage.note e) s fun _ t => Aside s t := ⟨[e], s.serial, rfl⟩

end Play

namespace Watched

def Keeps (R : Stage σ → Stage σ → Prop) (x : Watched σ α) : Prop := ∀ s, R s (x.run.run s).2

theorem keeps_bind (hR : Lasting R) {x : Watched σ α} {f : α → Watched σ β} (hx : Keeps R x)
    (hf : ∀ a, Keeps R (f a)) : Keeps R (x >>= f) := by
  intro s
  have h := hx s
  rw [run_bind]
  cases hr : x.run.run s with
  | mk result s' =>
    rw [hr] at h
    cases result with
    | error e => exact h
    | ok a => exact hR.trans h (hf a s')

theorem keeps_pure (hR : Lasting R) (a : α) : Keeps R (pure a : Watched σ α) := hR.refl

theorem keeps_clock (hR : Lasting R) : Keeps R (Watched.clock : Watched σ Moment) := hR.refl

theorem keeps_note (hR : Lasting R) (r : Record) : Keeps R (Watched.note r : Watched σ Unit) :=
  fun s => hR.quiet (quiet_records s [r])

theorem keeps_lift {x : Play σ α} (hx : Play.Keeps R x) : Keeps R (ExceptT.lift x) := hx

theorem tell_run (e : Event) (s : Stage σ) :
    (tell e : Watched σ Unit).run.run s = match s.objection e with
      | some f => (.error f, s)
      | none => (.ok (), { s with events := s.events ++ [e] }) := by
  have hg : (get : Watched σ (Stage σ)).run.run s = (.ok s, s) := rfl
  simp only [tell, run_bind, hg]
  cases s.objection e <;> rfl

theorem keeps_tell (hR : Lasting R) (e : Event) : Keeps R (tell e : Watched σ Unit) := by
  intro s
  rw [tell_run]
  cases s.objection e with
  | some f => exact hR.refl s
  | none => exact hR.quiet (quiet_event s e)

-- ---------------------------------------------------------------------------
-- What watched work leads to
-- ---------------------------------------------------------------------------

/-- From this stage, work ends with a result and a stage as said by `Q`, at which the same listener
listens, or with a fault and a stage as said by `E`. -/
def Triple (x : Watched σ α) (s : Stage σ) (Q : α → Stage σ → Prop) (E : Fault → Stage σ → Prop) :
    Prop :=
  match x.run.run s with
  | (.ok a, s') => s'.objection = s.objection ∧ Q a s'
  | (.error f, s') => E f s'

variable {s : Stage σ} {Q : α → Stage σ → Prop} {E : Fault → Stage σ → Prop}

theorem Triple.pure {a : α} (h : Q a s) : Triple (pure a) s Q E := ⟨rfl, h⟩

theorem Triple.imp {x : Watched σ α} {P : α → Stage σ → Prop} {D : Fault → Stage σ → Prop}
    (hx : Triple x s P D) (hQ : ∀ a s', P a s' → Q a s') (hE : ∀ f s', D f s' → E f s') :
    Triple x s Q E := by
  unfold Triple at hx ⊢
  cases hr : x.run.run s with
  | mk result s' =>
    rw [hr] at hx
    cases result with
    | error f => exact hE f s' hx
    | ok a => exact ⟨hx.1, hQ a s' hx.2⟩

theorem Triple.bind {x : Watched σ α} {f : α → Watched σ β} {P : α → Stage σ → Prop}
    {Q : β → Stage σ → Prop} (hx : Triple x s P E)
    (hf : ∀ a s', s'.objection = s.objection → P a s' → Triple (f a) s' Q E) :
    Triple (x >>= f) s Q E := by
  unfold Triple at hx ⊢
  rw [run_bind]
  cases hr : x.run.run s with
  | mk result t =>
    rw [hr] at hx
    cases result with
    | error e => exact hx
    | ok a =>
      obtain ⟨ho, hp⟩ := hx
      have h := hf a t ho hp
      unfold Triple at h
      rwa [ho] at h

theorem Triple.lift {x : Play σ α} (ho : (x.run s).2.objection = s.objection)
    (h : Q (x.run s).1 (x.run s).2) : Triple (ExceptT.lift x) s Q E := ⟨ho, h⟩

theorem triple_clock (s : Stage σ) : Triple Watched.clock s (fun m s' => m = s.now ∧ s' = s) E :=
  ⟨rfl, rfl, rfl⟩

theorem triple_note (r : Record) (s : Stage σ) :
    Triple (Watched.note r) s (fun _ s' => Quiet s s' ∧ s'.events = s.events) E :=
  ⟨rfl, quiet_records s [r], rfl⟩

theorem triple_tell {e : Event} (hE : ∀ f, s.objection e = some f → E f s) :
    Triple (tell e) s (fun _ s' => Quiet s s' ∧ s'.events = s.events ++ [e]) E := by
  unfold Triple
  rw [tell_run]
  cases h : s.objection e with
  | some f => exact hE f h
  | none => exact ⟨rfl, quiet_event s e, rfl⟩

end Watched

end Provision
