import Provision.Proofs.Outcome.MessageLaws

/-!
# The status that parts add up to

A part contributes a status to what it is attached to, or nothing, and what is then finished
has the worst of the contributions (`Policy.Aggregates`). Only which parts there are matters,
and not their order. The first part that is fatal to a container that bubbles errors ends it,
and the container speaks for that part (`aggregation`).
-/

namespace Provision

-- ---------------------------------------------------------------------------
-- Severity
-- ---------------------------------------------------------------------------

namespace Status

theorem severity_worse (a b : Status) : (a.worse b).severity = max a.severity b.severity := by
  cases a <;> cases b <;> rfl

theorem severity_le_error (s : Status) : s.severity ≤ error.severity := by
  cases s <;> decide

theorem worse_eq_or (a b : Status) : a.worse b = a ∨ a.worse b = b := by
  unfold worse
  split
  · exact .inr rfl
  · exact .inl rfl

variable {s t : Status} {ss : List Status}

theorem severity_le_foldl (s : Status) (ss : List Status) :
    s.severity ≤ (ss.foldl worse s).severity := by
  induction ss generalizing s with
  | nil => exact Nat.le_refl _
  | cons t ss ih =>
    have hstep : s.severity ≤ (s.worse t).severity := by
      rw [severity_worse]
      exact Nat.le_max_left ..
    exact Nat.le_trans hstep (ih _)

theorem severity_le_foldl_of_mem (h : t ∈ ss) (s : Status) :
    t.severity ≤ (ss.foldl worse s).severity := by
  induction ss generalizing s with
  | nil => simp at h
  | cons u ss ih =>
    rcases List.mem_cons.1 h with rfl | h
    · have hstep : t.severity ≤ (s.worse t).severity := by
        rw [severity_worse]
        exact Nat.le_max_right ..
      exact Nat.le_trans hstep (severity_le_foldl _ ss)
    · exact ih h _

theorem foldl_worse_mem (s : Status) (ss : List Status) :
    ss.foldl worse s = s ∨ ss.foldl worse s ∈ ss := by
  induction ss generalizing s with
  | nil => exact .inl rfl
  | cons t ss ih =>
    rcases ih (s.worse t) with h | h
    · rw [List.foldl_cons, h]
      rcases worse_eq_or s t with h | h
      · exact .inl h
      · exact .inr (List.mem_cons.2 (.inl h))
    · exact .inr (List.mem_cons_of_mem _ h)

theorem pending_iff : s.pending = true ↔ s.severity = 0 := by
  cases s <;> simp [pending, severity]

end Status

-- ---------------------------------------------------------------------------
-- Contributions
-- ---------------------------------------------------------------------------

namespace Policy

variable {p : Policy} {cs ds : List Outcome} {s t : Status}

def fatal (p : Policy) (s : Status) : Bool := s = .error || s = .failure && p.failureIsError

/-- What a part that ends nothing makes of the status of its container, if anything. -/
def contribution? (p : Policy) (s : Status) : Option Status :=
  if p.fatal s then some .failure
  else match s with
  | .failure => some (if p.bubbleFailure then .failure else .warning)
  | .warning => some .warning
  | _ => none

def contributions (p : Policy) (cs : List Outcome) : List Status :=
  cs.filterMap (p.contribution? ·.status)

def Breaks (p : Policy) (cs : List Outcome) : Prop :=
  p.bubbleError = true ∧ ∃ c ∈ cs, p.fatal c.status = true

/-- The worst of what parts contribute, and a success when they contribute nothing. -/
inductive Aggregates (p : Policy) (cs : List Outcome) : Status → Prop
  | clean (h : p.contributions cs = []) : Aggregates p cs .success
  | worst {s : Status} (hs : s ∈ p.contributions cs)
      (h : ∀ t ∈ p.contributions cs, t.severity ≤ s.severity) : Aggregates p cs s

theorem ends_eq (p : Policy) (s : Status) : p.ends s = (p.bubbleError && p.fatal s) := rfl

theorem leaves_eq (p : Policy) (s : Status) : p.leaves s = (p.contribution? s).getD .initialized := by
  unfold leaves contribution? fatal
  cases s <;> cases p.bubbleFailure <;> cases p.failureIsError <;> rfl

theorem contribution?_mem (h : p.contribution? s = some t) : t = .warning ∨ t = .failure := by
  unfold contribution? at h
  split at h
  · exact .inr (Option.some.inj h).symm
  · cases s <;> cases hb : p.bubbleFailure <;> simp_all

theorem mem_contributions (h : s ∈ p.contributions cs) : s = .warning ∨ s = .failure := by
  obtain ⟨c, -, hc⟩ := List.mem_filterMap.1 h
  exact contribution?_mem hc

theorem contributions_append :
    p.contributions (cs ++ ds) = p.contributions cs ++ p.contributions ds := List.filterMap_append

theorem eq_of_severity (hs : s ∈ p.contributions cs) (ht : t ∈ p.contributions ds)
    (h : s.severity = t.severity) : s = t := by
  rcases mem_contributions hs with rfl | rfl <;> rcases mem_contributions ht with rfl | rfl <;>
    first | rfl | cases h

theorem Aggregates.congr (hs : p.Aggregates cs s) (h : p.contributions cs = p.contributions ds) :
    p.Aggregates ds s := by
  cases hs with
  | clean hc => exact .clean (h ▸ hc)
  | worst hs hc => exact .worst (h ▸ hs) (h ▸ hc)

theorem Aggregates.of_perm (hs : p.Aggregates cs s) (h : ds.Perm cs) : p.Aggregates ds s := by
  have hperm : (p.contributions ds).Perm (p.contributions cs) := h.filterMap _
  cases hs with
  | clean hc => exact .clean (hperm.trans (.of_eq hc)).eq_nil
  | worst hs hc => exact .worst (hperm.mem_iff.2 hs) fun t ht => hc t (hperm.mem_iff.1 ht)

theorem Aggregates.unique (hs : p.Aggregates cs s) (ht : p.Aggregates cs t) : s = t := by
  cases hs with
  | clean hc =>
    cases ht with
    | clean => rfl
    | worst ht => simp [hc] at ht
  | worst hs hc =>
    cases ht with
    | clean hc' => simp [hc'] at hs
    | worst ht hc' =>
      exact eq_of_severity hs ht (Nat.le_antisymm (hc' s hs) (hc t ht))

theorem aggregates_foldl (hs : s.pending = true) :
    p.Aggregates cs (if ((p.contributions cs).foldl Status.worse s).pending then .success
      else (p.contributions cs).foldl Status.worse s) := by
  cases hc : p.contributions cs with
  | nil =>
    rw [List.foldl_nil, if_pos hs]
    exact .clean hc
  | cons t ts =>
    rw [← hc]
    have ht : t ∈ p.contributions cs := by simp [hc]
    have hpos : 0 < t.severity := by
      rcases mem_contributions ht with rfl | rfl <;> decide
    have hle := Status.severity_le_foldl_of_mem ht s
    have hmarked : ¬((p.contributions cs).foldl Status.worse s).pending = true := by
      rw [Status.pending_iff]
      omega
    rw [if_neg hmarked]
    refine .worst ?_ fun u hu => Status.severity_le_foldl_of_mem hu s
    refine (Status.foldl_worse_mem s _).resolve_left fun h => hmarked ?_
    rw [h]
    exact hs

end Policy

namespace Outcome

variable {o c : Outcome} {cs : List Outcome} {now : Moment}

theorem taking_status (o : Outcome) (cs : List Outcome) :
    (o.taking cs).status = (o.policy.contributions cs).foldl Status.worse o.status := by
  show cs.foldl (fun s c => s.worse (o.policy.leaves c.status)) o.status = _
  generalize o.status = s
  induction cs generalizing s with
  | nil => rfl
  | cons c cs ih =>
    rw [List.foldl_cons, ih, Policy.leaves_eq, Policy.contributions, Policy.contributions,
      List.filterMap_cons]
    cases o.policy.contribution? c.status with
    | none => rw [Option.getD_none, Status.worse_initialized]
    | some t => rfl

theorem settled_aggregates (ho : o.status.pending = true) (cs : List Outcome) :
    o.policy.Aggregates cs (o.taking cs).settled := by
  rw [settled, taking_status]
  exact Policy.aggregates_foldl ho

-- ---------------------------------------------------------------------------
-- Parts in turn
-- ---------------------------------------------------------------------------

/-- Attaches parts in turn, each at its moment, until one of them is refused or ends the
container. -/
def attachAll (o : Outcome) : List (Outcome × Moment) → Reply
  | [] => ⟨o, none⟩
  | (c, now) :: parts =>
    match o.attach c now with
    | ⟨o, none⟩ => o.attachAll parts
    | reply => reply

variable {parts : List (Outcome × Moment)}

theorem attachAll_append (ho : o.finalized = false)
    (h : ∀ c ∈ parts, o.policy.ends c.1.status = false) (more : List (Outcome × Moment)) :
    o.attachAll (parts ++ more) = (o.taking (parts.map Prod.fst)).attachAll more := by
  induction parts generalizing o with
  | nil => simp
  | cons c parts ih =>
    obtain ⟨hc, hparts⟩ := List.forall_mem_cons.1 h
    rw [List.cons_append, attachAll, attach_of_not_ends ho hc]
    have hrest := @ih (o.taking [c.1]) ho hparts
    rwa [taking_taking] at hrest

theorem attachAll_of_not_ends (ho : o.finalized = false)
    (h : ∀ c ∈ parts, o.policy.ends c.1.status = false) :
    o.attachAll parts = ⟨o.taking (parts.map Prod.fst), none⟩ := by
  have hall := attachAll_append ho h []
  rwa [List.append_nil] at hall

/-- What follows the part that ends the container is not attached any more. -/
theorem attachAll_of_ends (ho : o.finalized = false)
    (h : ∀ b ∈ parts, o.policy.ends b.1.status = false) (hc : o.policy.ends c.status = true)
    (after : List (Outcome × Moment)) :
    o.attachAll (parts ++ (c, now) :: after) =
      ⟨(o.taking (parts.map Prod.fst)).broken c now,
        some (.bubbled ((o.taking (parts.map Prod.fst)).broken c now))⟩ := by
  have hbreaks : (o.taking (parts.map Prod.fst)).attach c now = _ := attach_of_ends ho hc
  rw [attachAll_append ho h, attachAll, hbreaks]

theorem not_ends_of_not_breaks {p : Policy} (h : ¬p.Breaks cs) (hc : c ∈ cs) :
    p.ends c.status = false := by
  rw [Policy.ends_eq]
  cases hb : p.bubbleError with
  | false => rfl
  | true => exact Bool.eq_false_iff.2 fun hf => h ⟨hb, c, hc, hf⟩

/-- Parts that a container holds out add up to the worst of their contributions, in whatever
order they come. Of others the first fatal one ends it in error, and it speaks for that part. -/
theorem aggregation (name : String) (kind : OutcomeKind) (p : Policy) (began : Moment)
    (parts : List (Outcome × Moment)) :
    (¬p.Breaks (parts.map Prod.fst) →
      ∃ s, p.Aggregates (parts.map Prod.fst) s ∧
        ∀ row : List (Outcome × Moment), (row.map Prod.fst).Perm (parts.map Prod.fst) →
          ∃ o, (begin name kind p began).attachAll row = ⟨o, none⟩ ∧
            o.children = row.map Prod.fst ∧
            ∀ detail now, ∃ o', o.finish detail now = ⟨o', none⟩ ∧ o'.status = s) ∧
    (p.Breaks (parts.map Prod.fst) →
      ∃ before c now after, parts = before ++ (c, now) :: after ∧
        (∀ b ∈ before, p.fatal b.1.status = false) ∧ p.fatal c.status = true ∧
        ∃ o, (begin name kind p began).attachAll parts = ⟨o, some (.bubbled o)⟩ ∧
          o.finalized = true ∧ o.status = .error ∧ o.children = before.map Prod.fst ++ [c] ∧
          o.message = c.message) := by
  have ho : (begin name kind p began).finalized = false := rfl
  constructor
  · intro h
    refine ⟨_, settled_aggregates (o := begin name kind p began) rfl _, fun row hrow => ?_⟩
    have hends : ∀ c ∈ row, p.ends c.1.status = false := fun c hc =>
      not_ends_of_not_breaks h (hrow.mem_iff.1 (List.mem_map_of_mem hc))
    refine ⟨_, attachAll_of_not_ends ho hends, rfl, fun detail now => ?_⟩
    refine ⟨_, finish_of_open rfl, ?_⟩
    have hsame := (settled_aggregates (o := begin name kind p began) rfl _).of_perm hrow
    exact (settled_aggregates (o := begin name kind p began) rfl _).unique hsame
  · rintro ⟨hb, c, hc, hf⟩
    obtain ⟨part, hpart, rfl⟩ := List.mem_map.1 hc
    cases hfirst : parts.find? (fun c => p.fatal c.1.status) with
    | none => exact absurd hf (List.find?_eq_none.1 hfirst part hpart)
    | some first =>
      obtain ⟨hfatal, before, after, rfl, hbefore⟩ := List.find?_eq_some_iff_append.1 hfirst
      have hbefore : ∀ b ∈ before, p.fatal b.1.status = false := by simpa using hbefore
      have hends : p.ends first.1.status = true := by simp [Policy.ends_eq, hb, hfatal]
      have hheld : ∀ b ∈ before, p.ends b.1.status = false := fun b hb => by
        simp [Policy.ends_eq, hbefore b hb]
      refine ⟨before, first.1, first.2, after, rfl, hbefore, hfatal, _,
        attachAll_of_ends ho hheld hends after, rfl, rfl, ?_, ?_⟩
      · exact broken_children
      · exact broken_message (Unblamed.begin.taking _)
          (bad_of_ends (o := begin name kind p began) hends)

def warned : Outcome := ((begin "warned" .function {} .zero).warn .null .zero).outcome

def failed : Outcome :=
  ((begin "failed" .function {} .zero).fail (.value (.str "no")) .null .zero).outcome

def errored : Outcome :=
  ((begin "errored" .function {} .zero).error (.value (.str "never")) .null .zero).outcome

def mixedParts : List (Outcome × Moment) := [(warned, .zero), (errored, .zero), (failed, .zero)]

def lenient : Policy := { bubbleError := false, bubbleFailure := false }

theorem mixed_aggregation :
    (¬lenient.Breaks (mixedParts.map Prod.fst) ∧
      ∃ s, lenient.Aggregates (mixedParts.map Prod.fst) s ∧
        ∀ row : List (Outcome × Moment), (row.map Prod.fst).Perm (mixedParts.map Prod.fst) →
          ∃ o, (begin "whole" .engine lenient .zero).attachAll row = ⟨o, none⟩ ∧
            o.children = row.map Prod.fst ∧
            ∀ detail now, ∃ o', o.finish detail now = ⟨o', none⟩ ∧ o'.status = s) ∧
    Policy.Breaks {} (mixedParts.map Prod.fst) ∧
      ∃ before c now after, mixedParts = before ++ (c, now) :: after ∧
        (∀ b ∈ before, Policy.fatal {} b.1.status = false) ∧ Policy.fatal {} c.status = true ∧
        ∃ o, (begin "whole" .engine {} .zero).attachAll mixedParts = ⟨o, some (.bubbled o)⟩ ∧
          o.finalized = true ∧ o.status = .error ∧ o.children = before.map Prod.fst ++ [c] ∧
          o.message = c.message := by
  have hheld : ¬lenient.Breaks (mixedParts.map Prod.fst) := by
    rintro ⟨⟨⟩, -⟩
  have hbroken : Policy.Breaks {} (mixedParts.map Prod.fst) :=
    ⟨rfl, errored, by simp [mixedParts], rfl⟩
  exact ⟨⟨hheld, (aggregation "whole" .engine lenient .zero mixedParts).1 hheld⟩, hbroken,
    (aggregation "whole" .engine {} .zero mixedParts).2 hbroken⟩

end Outcome

end Provision
