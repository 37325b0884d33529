import Provision.Installation
import Provision.Proofs.RunLaws

/-!
# What becomes of an installation

A recipe that cannot be loaded or compiled is the end of an installation. Otherwise the
recipe is executed. There is one equation for each of these. What a runner is not given
the chance to change, an installation keeps.
-/

namespace Provision

open Stage Interview

variable {σ π : Type} {R : Stage σ → Stage σ → Prop} {runner : Runner σ}

-- ---------------------------------------------------------------------------
-- What installations keep
-- ---------------------------------------------------------------------------

/-- The runner has been given nothing, and is as it was. -/
def Stage.Untouched (s s' : Stage σ) : Prop := s'.calls = s.calls ∧ s'.state = s.state

theorem Stage.lasting_untouched : Lasting (Untouched (σ := σ)) where
  quiet h := by
    obtain ⟨_, _, rfl⟩ := h
    exact ⟨rfl, rfl⟩
  trans h h' := ⟨h'.1.trans h.1, h'.2.trans h.2⟩

theorem Plan.Engine.execute_keeps (hR : Lasting R) {files : Files} {choices : RunChoices}
    (hc : ∀ (terms : Terms) a t, terms.dryRun = choices.dryRun →
      Play.Keeps R (call runner terms a t))
    (e : Engine) : Play.Keeps R (e.execute runner files choices) := by
  unfold execute
  split
  · refine Play.keeps_bind hR.steady (Play.keeps_clock hR.steady) fun now => ?_
    refine Play.keeps_bind hR.steady (runGroups_keeps hR (fun a t => hc _ a t rfl) _ _) ?_
    intro ended
    cases ended with
    | error f => exact Play.keeps_pure hR.steady _
    | ok reply =>
      dsimp only
      split
      · exact Play.keeps_bind hR.steady (Play.keeps_note hR.steady _) fun _ =>
          Play.keeps_pure hR.steady _
      · exact Play.keeps_pure hR.steady _
  · exact Play.keeps_pure hR.steady _

theorem Recipe.execute_keeps (hR : Lasting R) {files : Files} {choices : RunChoices}
    (hc : ∀ (terms : Plan.Terms) a t, terms.dryRun = choices.dryRun →
      Play.Keeps R (Plan.call runner terms a t))
    (r : Recipe) : Play.Keeps R (r.execute runner files choices) := by
  unfold execute
  split
  · next e _ _ =>
    refine Play.keeps_bind hR.steady (Play.keeps_clock hR.steady) fun now => ?_
    refine Play.keeps_bind hR.steady ?_ fun result => ?_
    · exact Play.keeps_bind hR.steady (Plan.Engine.execute_keeps hR hc e) fun _ =>
        Play.keeps_pure hR.steady _
    · split
      · exact Play.keeps_bind hR.steady (Play.keeps_clock hR.steady) fun _ =>
          Play.keeps_pure hR.steady _
      · exact Play.keeps_bind hR.steady (Play.keeps_clock hR.steady) fun _ =>
          Play.keeps_pure hR.steady _
      · exact Play.keeps_pure hR.steady _
  · exact Play.keeps_pure hR.steady _

namespace Installation

open Interview (Prompter)

theorem ofFault_keeps (hR : Lasting R) (r : Recipe) (f : Fault) :
    Play.Keeps R (ofFault r f : Play σ _) := by
  unfold ofFault
  split
  · exact Play.keeps_bind hR.steady (Play.keeps_note hR.steady _) fun _ =>
      Play.keeps_pure hR.steady _
  · exact Play.keeps_bind hR.steady (Play.keeps_note hR.steady _) fun _ =>
      Play.keeps_pure hR.steady _
  · exact Play.keeps_pure hR.steady _

theorem execute_keeps (hR : Lasting R) {files : Files} {choices : RunChoices}
    (hc : ∀ (terms : Plan.Terms) a t, terms.dryRun = choices.dryRun →
      Play.Keeps R (Plan.call runner terms a t))
    (r : Recipe) : Play.Keeps R (execute r runner files choices) := by
  refine Play.keeps_bind hR.steady (Recipe.execute_keeps hR hc r) fun result => ?_
  cases result with
  | ok o => exact Play.keeps_pure hR.steady _
  | error raised =>
    cases raised with
    | bubbled o => exact Play.keeps_pure hR.steady _
    | fault f => exact ofFault_keeps hR r f

/-- An installation whose recipe cannot be compiled, or whose runner is not available, keeps
what announcements and records keep. -/
theorem install_keeps (hR : Lasting R) (r : Recipe) (files : Files) (choices : Choices)
    (run : RunChoices) (p : Option (Prompter π)) (asked : π)
    (h : (∃ f, (r.compile p choices asked).result = .error f) ∨ runner.available = false) :
    Play.Keeps R (install r runner files choices run p asked) := by
  unfold install
  split
  · exact Play.keeps_bind hR.steady (ofFault_keeps hR r _) fun _ => Play.keeps_pure hR.steady _
  · next hgo =>
    refine Play.keeps_bind hR.steady (Play.keeps_noteAll hR.steady _) fun _ => ?_
    dsimp only
    split
    · exact Play.keeps_bind hR.steady (ofFault_keeps hR _ _) fun _ => Play.keeps_pure hR.steady _
    · next hr =>
      have hn : runner.available = false := h.resolve_left (by simp [hr])
      have hd : run.dryRun = true := by simpa [hn] using hgo
      refine Play.keeps_bind hR.steady (execute_keeps hR (fun terms a t ht => ?_) _) fun _ =>
        Play.keeps_pure hR.steady _
      exact Plan.call_keeps_of_dryRun hR (ht.trans hd) a t

theorem run_keeps (hR : Lasting R) (files : Files) (w : Recipe.Reference)
    (runner : Project → Runner σ) (choices : Choices) (run : RunChoices) (p : Option (Prompter π))
    (asked : π)
    (h : ∀ project r, (Recipe.load files w).outcome.1 = .ok (project, r) →
      (∃ f, (r.compile p choices asked).result = .error f) ∨ (runner project).available = false) :
    Play.Keeps R (Installation.run files w runner choices run p asked) := by
  refine Play.keeps_bind hR.steady (Play.keeps_noteAll hR.steady _) fun _ => ?_
  split
  · exact Play.keeps_pure hR.steady _
  · next project r hr => exact install_keeps hR r files choices run p asked (h project r hr)

end Installation

-- ---------------------------------------------------------------------------
-- What installations come to
-- ---------------------------------------------------------------------------

namespace Installation

variable {r : Recipe} {e : Plan.Engine} {f : Fault}

def noted (s : Stage σ) (records : List Record) : Stage σ :=
  { s with records := s.records ++ records }

theorem quiet_noted (s : Stage σ) (records : List Record) : Quiet s (noted s records) :=
  quiet_records s records

section
variable {files : Files} {w : Recipe.Reference} {runner : Project → Runner σ} {choices : Choices}
  {run : RunChoices} {p : Option (Prompter π)} {asked : π} {project : Project}
  {records : List Record}

theorem run_unloaded (hl : (Recipe.load files w).outcome = (.error f, records)) (s : Stage σ) :
    (Installation.run files w runner choices run p asked).run s =
      ((ofLoading f, asked), noted s records) := by
  unfold Installation.run
  rw [hl]
  rfl

variable (hl : (Recipe.load files w).outcome = (.ok (project, r), records))
include hl

theorem run_unavailable (hd : run.dryRun = false) (hn : (runner project).available = false)
    (s : Stage σ) :
    (Installation.run files w runner choices run p asked).run s =
      ((((ofFault r (unavailable (runner project).name) : Play σ _).run (noted s records)).1,
        asked),
        ((ofFault r (unavailable (runner project).name) : Play σ _).run (noted s records)).2) := by
  unfold Installation.run install noted
  rw [hl]
  simp only [hd, hn]
  rfl

variable (ha : run.dryRun = true ∨ (runner project).available = true)
include ha

theorem run_uncompiled (hc : (r.compile p choices asked).result = .error f) (s : Stage σ) :
    (Installation.run files w runner choices run p asked).run s =
      ((((ofFault (r.compile p choices asked).recipe f : Play σ _).run
          (noted s (records ++ (r.compile p choices asked).records))).1,
        (r.compile p choices asked).asked),
        ((ofFault (r.compile p choices asked).recipe f : Play σ _).run
          (noted s (records ++ (r.compile p choices asked).records))).2) := by
  have hgo : (!run.dryRun && !(runner project).available) = false := by
    obtain h | h := ha <;> simp [h]
  unfold Installation.run install noted
  rw [hl, ← List.append_assoc]
  simp only [hgo, hc]
  rfl

theorem run_started (hc : (r.compile p choices asked).result = .ok e) (s : Stage σ) :
    (Installation.run files w runner choices run p asked).run s =
      ((((execute (r.compile p choices asked).recipe (runner project) files run).run
          (noted s (records ++ (r.compile p choices asked).records))).1,
        (r.compile p choices asked).asked),
        ((execute (r.compile p choices asked).recipe (runner project) files run).run
          (noted s (records ++ (r.compile p choices asked).records))).2) := by
  have hgo : (!run.dryRun && !(runner project).available) = false := by
    obtain h | h := ha <;> simp [h]
  unfold Installation.run install noted
  rw [hl, ← List.append_assoc]
  simp only [hgo, hc]
  rfl

end

theorem ofFault_answer (r : Recipe) (f : Fault) (s : Stage σ) {i : Installation}
    (h : ((ofFault r f).run s).1 = .ok i) : i.recipe? = some r ∧ i.outcome? = none := by
  cases f with
  | condition c detail problems => cases c <;> cases h <;> exact ⟨rfl, rfl⟩
  | _ => cases h

/-- What a recipe has been executed for is all that an installation of it does, but for records.
A run that was broken off leaves it without an outcome. -/
theorem execute_after (r : Recipe) (runner : Runner σ) (files : Files) (run : RunChoices)
    (s : Stage σ) :
    Quiet ((r.execute runner files run).run s).2 ((execute r runner files run).run s).2 ∧
      ∀ i, ((execute r runner files run).run s).1 = .ok i → i.recipe? = some r ∧
        ∀ f, ((r.execute runner files run).run s).1 = .error (.fault f) → i.outcome? = none := by
  unfold execute
  rw [Play.run_bind]
  obtain ⟨result, s'⟩ := (r.execute runner files run).run s
  cases result with
  | ok o =>
    refine ⟨.refl s', ?_⟩
    rintro _ ⟨⟩
    exact ⟨rfl, nofun⟩
  | error raised =>
    cases raised with
    | bubbled o =>
      refine ⟨.refl s', ?_⟩
      rintro _ ⟨⟩
      exact ⟨rfl, nofun⟩
    | fault f =>
      refine ⟨ofFault_keeps lasting_quiet r f s', fun i hi => ?_⟩
      obtain ⟨hr, ho⟩ := ofFault_answer r f s' hi
      exact ⟨hr, fun _ _ => ho⟩

end Installation

end Provision
