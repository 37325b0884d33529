import Mathlib.Algebra.Ring.Nat
import Provision.Proofs.Plan.Execution

/-!
# Well bracketed announcements

What starts is to end as well: each group, and in it each task that is attempted, is to
be announced by its start and by one event that tells how it ended (`Bracketed`). A run
keeps to that exactly when all actions it calls for are registered
(`execute_bracketed_iff`). A task whose action is not registered never starts, and its
group is never said to have ended.
-/

namespace Provision.Plan

open Stage Outcome

-- ---------------------------------------------------------------------------
-- Brackets
-- ---------------------------------------------------------------------------

def Closes (name : String) (e : Event) : Prop :=
  (e.kind = .complete ∨ e.kind = .error) ∧ name.toList <+: e.text.toList

def Block (name : String) (inside : List Event → Prop) (es : List Event) : Prop :=
  ∃ mid last, inside mid ∧ Closes name last ∧ es = .start name :: mid ++ [last]

def Attempt.Bracketed (a : Attempt) : List Event → Prop :=
  Block a.task.name fun es => ∀ e ∈ es, e.kind = .progress

def Row.Bracketed (row : Row) : List Event → Prop :=
  Block row.group.name (Pieces Attempt.Bracketed row.attempts)

/-- Each group is announced by a block, with a block inside for each task that was attempted. -/
def Bracketed (rows : List Row) : List Event → Prop := Pieces Row.Bracketed rows

theorem closes_closing (o : Outcome) (name text : String) :
    Closes name (closing o name (name ++ text)) := by
  unfold closing
  split
  · exact ⟨.inl rfl, List.prefix_refl _⟩
  · refine ⟨.inl rfl, ?_⟩
    show name.toList <+: (name ++ " (warning)").toList
    rw [String.toList_append]
    exact List.prefix_append ..
  · refine ⟨.inr rfl, ?_⟩
    show name.toList <+: (name ++ text).toList
    rw [String.toList_append]
    exact List.prefix_append ..

theorem Attempt.Told.bracketed {a : Attempt} {es : List Event} (h : a.Told es) :
    a.Bracketed es := by
  obtain ⟨o, texts, -, rfl⟩ := h
  refine ⟨texts.map Event.progress, _, ?_, ?_, rfl⟩
  · intro e he
    obtain ⟨text, -, rfl⟩ := List.mem_map.1 he
    rfl
  · have h := closes_closing o a.task.name s!": {o.message}"
    rwa [← String.append_assoc] at h

section
variable {α : Type} {P Q : α → List Event → Prop} {as : List α} {es : List Event}

theorem Pieces.imp (h : Pieces P as es) (hPQ : ∀ a ∈ as, ∀ es, P a es → Q a es) :
    Pieces Q as es := by
  induction h with
  | nil => exact .nil
  | cons h _ ih =>
    obtain ⟨ha, has⟩ := List.forall_mem_cons.1 hPQ
    exact .cons (ha _ h) (ih has)

end

variable {terms : Terms} {row : Row} {rows : List Row} {es : List Event}

theorem Row.Told.bracketed (h : row.Told terms es)
    (hk : ∀ a ∈ row.attempts, a.outcome.isSome = true) : row.Bracketed es := by
  obtain ⟨more, rfl, h⟩ := h
  obtain ⟨g, as, o⟩ := row
  cases h with
  | closed h text =>
    exact ⟨_, _, h.imp fun _ _ _ => Attempt.Told.bracketed, closes_closing o g.name text, rfl⟩
  | @unknown as es t f _ _ =>
    have hnone := hk ⟨t, none⟩ (by simp)
    cases hnone

-- ---------------------------------------------------------------------------
-- Starts
-- ---------------------------------------------------------------------------

def starts (es : List Event) : Nat := es.countP (·.kind = .start)

theorem starts_append (es more : List Event) : starts (es ++ more) = starts es + starts more :=
  List.countP_append

theorem Closes.starts_eq {name : String} {e : Event} (h : Closes name e) : starts [e] = 0 := by
  obtain ⟨hkind | hkind, -⟩ := h
  · simp [starts, hkind]
  · simp [starts, hkind]

theorem starts_cons_start (name : String) (es : List Event) :
    starts (.start name :: es) = starts es + 1 := by
  simp [starts, Event.start]

theorem Block.starts_eq {name : String} {inside : List Event → Prop} {n : Nat}
    (h : Block name inside es) (hn : ∀ mid, inside mid → starts mid = n) :
    starts es = n + 1 := by
  obtain ⟨mid, last, hmid, hlast, rfl⟩ := h
  rw [starts_append, starts_cons_start, hn mid hmid, hlast.starts_eq, Nat.add_zero]

theorem Pieces.starts_eq {α : Type} {P : α → List Event → Prop} {as : List α} {n : α → Nat}
    (h : Pieces P as es) (hn : ∀ a es, P a es → starts es = n a) :
    starts es = (as.map n).sum := by
  induction h with
  | nil => rfl
  | cons h _ ih => rw [starts_append, hn _ _ h, ih, List.map_cons, List.sum_cons]

theorem Attempt.Bracketed.starts_eq {a : Attempt} (h : a.Bracketed es) : starts es = 1 := by
  refine Block.starts_eq h fun mid hmid => ?_
  rw [starts, List.countP_eq_zero]
  intro e he
  simp [hmid e he]

theorem Row.Bracketed.starts_eq (h : row.Bracketed es) :
    starts es = row.attempts.length + 1 := by
  refine Block.starts_eq h fun mid hmid => ?_
  rw [Pieces.starts_eq (n := fun _ => 1) hmid fun _ _ => Attempt.Bracketed.starts_eq]
  simp [List.map_const']

theorem Row.Told.starts_eq (h : row.Told terms es) :
    starts es = (Attempt.outcomes row.attempts).length + 1 := by
  have hpieces {as : List Attempt} {es : List Event} (h : Pieces Attempt.Told as es) :
      starts es = (Attempt.outcomes as).length := by
    induction h with
    | nil => rfl
    | @cons a as es more ha _ ih =>
      obtain ⟨o, -, ho, -⟩ := id ha
      have hcons : Attempt.outcomes (a :: as) = o :: Attempt.outcomes as :=
        List.filterMap_cons_some ho
      rw [starts_append, ha.bracketed.starts_eq, ih, hcons, List.length_cons, Nat.add_comm]
  obtain ⟨more, rfl, h⟩ := h
  obtain ⟨g, as, o⟩ := row
  rw [starts_cons_start]
  cases h with
  | closed h text => rw [starts_append, hpieces h, (closes_closing o g.name text).starts_eq]
  | unknown h _ =>
    rw [starts_append, hpieces h]
    simp [Attempt.outcomes, starts, Event.error]

theorem sum_rows (n : List Attempt → Nat) (h₀ : n [] = 0)
    (h : ∀ as bs, n (as ++ bs) = n as + n bs) (rows : List Row) :
    (rows.map fun row => n row.attempts + 1).sum = n (attempted rows) + rows.length := by
  induction rows with
  | nil => simp [attempted, h₀]
  | cons row rows ih =>
    rw [List.map_cons, List.sum_cons, ih]
    simp only [attempted, List.flatMap_cons, h, List.length_cons]
    omega

/-- What is told of a run is well bracketed exactly when every task that was attempted came to
an outcome. A task without one starts no block. -/
theorem told_bracketed_iff (h : Pieces (Row.Told terms) rows es) :
    Bracketed rows es ↔ ∀ a ∈ attempted rows, a.outcome.isSome = true := by
  constructor
  · intro hb
    have htold := h.starts_eq fun _ _ => Row.Told.starts_eq
    have hblocks := Pieces.starts_eq hb fun _ _ => Row.Bracketed.starts_eq
    rw [sum_rows (fun as => (Attempt.outcomes as).length) rfl (by simp [Attempt.outcomes])]
      at htold
    rw [sum_rows List.length rfl (by simp)] at hblocks
    have hlength : (Attempt.outcomes (attempted rows)).length = (attempted rows).length := by
      omega
    exact List.filterMap_length_eq_length.1 hlength
  · intro hk
    refine h.imp fun row hrow es htold => htold.bracketed fun a ha => ?_
    exact hk a (List.mem_flatMap.2 ⟨row, hrow, ha⟩)

-- ---------------------------------------------------------------------------
-- Runs
-- ---------------------------------------------------------------------------

variable {σ : Type} {r : Runner σ}

theorem Attempts.isSome_iff {s u : Stage σ} {as : List Attempt} (h : Attempts r terms s as u) :
    ∀ a ∈ as, a.outcome.isSome = true ↔
      ∃ action, terms.registry.resolve a.task.action = .ok action := by
  induction h with
  | none _ => simp
  | unknown _ hf _ ih =>
    rintro a (_ | ⟨_, hm⟩)
    · simp [hf]
    · exact ih a hm
  | known _ ha _ _ ih =>
    rintro a (_ | ⟨_, hm⟩)
    · simp [ha]
    · exact ih a hm

namespace Engine

variable {e : Engine} {groups : Tree} {st : Setting} {t : Recipe.Target} {d : Recipe.Document}

/-- Unless its listener breaks it off, a run tells of every group it enters and every task it
attempts. The announcements are well bracketed exactly when all actions called for are
registered. -/
theorem execute_bracketed_iff (h : e.Ready groups st t d) (r : Runner σ) (files : Files)
    (choices : RunChoices) (s : Stage σ) :
    (∃ f, CutOff r (e.terms st t files choices) (Tree.names groups) groups.tasks s f
          ((e.execute r files choices).run s).2 ∧
        ((e.execute r files choices).run s).1.1 = .error (.fault f)) ∨
      ∃ rows o es, Account r (e.terms st t files choices) groups s
          ((e.execute r files choices).run s).2 ((e.execute r files choices).run s).1.1 rows o ∧
        ((e.execute r files choices).run s).2.events = s.events ++ es ∧
        Pieces (Row.Told (e.terms st t files choices)) rows es ∧
        (Bracketed rows es ↔
          ∀ a ∈ attempted rows, ∃ action, e.registry.resolve a.task.action = .ok action) := by
  obtain ⟨f, s', hf, hrun⟩ | ⟨rows, reply, s', hcourse, hfilled, hrun⟩ :=
    execute_course h r files choices s
  · rw [hrun]
    exact .inl ⟨f, hf, rfl⟩
  · rw [hrun]
    have haccount := Account.of_course hcourse hfilled (begun_policy ..) (by simp [begun_status])
      (begun_kind ..) (begun_children ..)
    obtain ⟨es, hes, htold⟩ := hcourse.told
    refine .inr ⟨rows, reply.outcome, es, haccount, hes, htold, ?_⟩
    rw [told_bracketed_iff htold]
    exact forall₂_congr hcourse.attempts.isSome_iff

theorem stray_bracketed_iff :
    stray.Ready strayTasks straySetting default default ∧
    ∃ rows o, StrayAccount rows o ∧
      Pieces (Row.Told (stray.terms straySetting default default {})) rows strayed.2.events ∧
      ¬Bracketed rows strayed.2.events ∧
      ∃ a ∈ attempted rows, ¬∃ action, stray.registry.resolve a.task.action = .ok action := by
  have hready : stray.Ready strayTasks straySetting default default := ⟨rfl, rfl, rfl, rfl⟩
  obtain ⟨f, -, hf⟩ | ⟨rows, o, es, haccount, hes, htold, hiff⟩ :=
    execute_bracketed_iff hready ({} : Rehearsal).toRunner default {} (.opened [] .zero)
  · obtain ⟨o, ho, -⟩ := strayed_result
    cases ho.symm.trans hf
  · obtain ⟨-, a, ha, hnot⟩ := StrayAccount.unresolved haccount
    have hes : strayed.2.events = es := hes
    rw [hes]
    exact ⟨hready, rows, o, haccount, htold, fun hb => hnot (hiff.1 hb a ha), a, ha, hnot⟩

def orphan : Engine :=
  { stray with tree := some [⟨"Set up", "set-up", "", [⟨"Rest", "", "rest", []⟩]⟩] }

def orphaned : Stage (List Command) :=
  ((orphan.execute ({} : Rehearsal).toRunner default {}).run (.opened [] .zero)).2

theorem orphaned_events :
    ∃ text, orphaned.events = [.start "Set up", .error text] ∧
      ¬"Set up".toList <+: text.toList := by
  refine ⟨_, rfl, ?_⟩
  decide +kernel

/-- The group of the task that could not be run is said to start, but not to end. -/
theorem orphaned_not_bracketed : ¬∃ rows, Bracketed rows orphaned.events := by
  obtain ⟨text, hevents, htext⟩ := orphaned_events
  rintro ⟨rows, h⟩
  rw [hevents] at h
  generalize hes : [Event.start "Set up", .error text] = es at h
  cases h with
  | nil => cases hes
  | cons hrow _ =>
    obtain ⟨mid, last, -, ⟨-, hname⟩, rfl⟩ := hrow
    injection hes with hstart hrest
    -- The end of the group could only be the failure of the task, which does not name it.
    cases mid with
    | nil =>
      injection hrest with hlast _
      have hgroup : "Set up" = _ := congrArg Event.text hstart
      rw [← hlast] at hname
      exact htext (hgroup ▸ hname)
    | cons e mid =>
      injection hrest with _ hnil
      simp at hnil

end Engine

end Provision.Plan
