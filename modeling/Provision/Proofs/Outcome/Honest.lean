import Provision.Action.Name
import Provision.Proofs.OutcomeLaws

/-!
# Outcomes that hide no failure

In an honest tree every node has ended, a success has only successes below it, and
what failed below a warning was taken as one when a scratch org was to be deleted
(`Honest.truthful`). A container stays on the way to an honest outcome with every
honest part that it takes in (`Gathered`).
-/

namespace Provision.Outcome

variable {o c m n p root : Outcome} {cs : List Outcome} {d : Bool} {now : Moment}

-- ---------------------------------------------------------------------------
-- Trees
-- ---------------------------------------------------------------------------

inductive Below (m : Outcome) : Outcome → Prop
  | part {n : Outcome} (h : m ∈ n.children) : Below m n
  | deeper {c n : Outcome} (h : c ∈ n.children) (hm : Below m c) : Below m n

def Within (m n : Outcome) : Prop := m = n ∨ Below m n

theorem Within.refl (n : Outcome) : Within n n := .inl rfl

theorem Within.of_part (hc : c ∈ n.children) (h : Within m c) : Within m n := by
  obtain rfl | h := h
  · exact .inr (.part hc)
  · exact .inr (.deeper hc h)

def isDeletion (o : Outcome) : Bool :=
  o.kind = .action && o.name = s!"{ActionName.deleteScratchOrg.text}:execute"

/-- A failed part that was taken in as a warning. -/
def Downgraded (w : Outcome) : Prop :=
  w.status = .warning ∧ ∃ c, w.children = [c] ∧ w.name = s!"{c.name}:downgraded"

structure Truthful (root : Outcome) : Prop where
  finalized : ∀ n, Within n root → n.finalized = true
  success : ∀ n m, Within n root → n.status = .success → Below m n → m.status = .success
  warning : ∀ n m, Within n root → n.status = .warning → Below m n → m.status.bad = true →
    ∃ p w, Within p root ∧ p.isDeletion = true ∧ w ∈ p.children ∧ w.Downgraded ∧ Within w n ∧
      Below m w

/-- An outcome that hides no failure. `d` says whether it is a part of a deletion, since there
alone a failure may have been downgraded. -/
inductive Honest : Bool → Outcome → Prop
  | node {d : Bool} {o : Outcome} (he : o.finalized = true)
      (hs : o.status.ok = true ∨ o.status.bad = true)
      (success : o.status = .success → ∀ c ∈ o.children, c.status = .success)
      (warning : o.status = .warning → ∀ c ∈ o.children, c.status.ok = true)
      (hc : ∀ c ∈ o.children, Honest o.isDeletion c) : Honest d o
  | downgraded {o c : Outcome} (he : o.finalized = true) (hs : o.status = .warning)
      (hn : o.name = s!"{c.name}:downgraded") (hk : o.children = [c]) (hc : Honest false c) :
      Honest true o

namespace Honest

theorem of_false (h : Honest false o) : Honest d o := by
  cases h with
  | node he hs success warning hc => exact .node he hs success warning hc

theorem finalized (h : Honest d o) : o.finalized = true := by
  cases h with
  | node he => exact he
  | downgraded he => exact he

theorem decided (h : Honest d o) : o.status.decided = true := by
  cases h with
  | node _ hs => exact Status.decided_iff.2 hs
  | downgraded _ hs => simp [hs, Status.decided, Status.ok]

theorem part (h : Honest d o) (hc : c ∈ o.children) : Honest o.isDeletion c := by
  cases h with
  | node _ _ _ _ hall => exact hall c hc
  | downgraded _ _ _ hk hall =>
    rw [hk, List.mem_singleton] at hc
    exact hc ▸ hall.of_false

theorem leaf (he : o.finalized = true) (hs : o.status.ok = true ∨ o.status.bad = true)
    (hc : o.children = []) : Honest d o :=
  .node he hs (by simp [hc]) (by simp [hc]) (by simp [hc])

theorem within (h : Honest d root) (hn : Within n root) :
    n = root ∨ ∃ p, Within p root ∧ n ∈ p.children ∧ Honest p.isDeletion n := by
  obtain rfl | hn := hn
  · exact .inl rfl
  · right
    induction hn generalizing d with
    | part hc => exact ⟨_, .refl _, hc, h.part hc⟩
    | deeper hc _ ih =>
      obtain ⟨p, hp, hn, hh⟩ := ih (h.part hc)
      exact ⟨p, hp.of_part hc, hn, hh⟩

theorem status_below (h : Honest d n) (hs : n.status = .success) (hm : Below m n) :
    m.status = .success := by
  induction hm generalizing d with
  | part hc =>
    cases h with
    | node _ _ success => exact success hs _ hc
    | downgraded _ hw => simp [hs] at hw
  | deeper hc _ ih =>
    cases h with
    | node _ _ success _ hall => exact ih (hall _ hc) (success hs _ hc)
    | downgraded _ hw => simp [hs] at hw

/-- What failed below a warning was downgraded: the warning itself was, or it was done below it,
by a deletion. -/
theorem failure_below (h : Honest d n) (hs : n.status = .warning) (hm : Below m n)
    (hbad : m.status.bad = true) :
    ∃ w, w.Downgraded ∧ Within w n ∧ Below m w ∧
      (w = n ∧ d = true ∨ ∃ p, Within p n ∧ p.isDeletion = true ∧ w ∈ p.children) := by
  induction hm generalizing d with
  | @part n hc =>
    cases h with
    | node _ _ _ warning =>
      have hok := warning hs m hc
      revert hok hbad
      cases m.status <;> simp [Status.ok, Status.bad]
    | @downgraded _ c he _ hn hk hall =>
      exact ⟨n, ⟨hs, c, hk, hn⟩, .refl n, .part hc, .inl ⟨rfl, rfl⟩⟩
  | @deeper c n hc hm ih =>
    cases h with
    | node _ _ _ warning hall =>
      have hok := warning hs c hc
      have hcs : c.status = .warning := by
        refine Decidable.byContradiction fun hne => ?_
        have hsuccess : c.status = .success := by simpa [Status.ok, hne] using hok
        have hms := (hall c hc).status_below hsuccess hm
        simp [hms, Status.bad] at hbad
      obtain ⟨w, hw, hwc, hmw, hwhere⟩ := ih (hall c hc) hcs
      refine ⟨w, hw, hwc.of_part hc, hmw, .inr ?_⟩
      obtain ⟨rfl, hd⟩ | ⟨p, hp, hd, hwp⟩ := hwhere
      · exact ⟨n, .refl n, hd, hc⟩
      · exact ⟨p, hp.of_part hc, hd, hwp⟩
    | @downgraded _ c' he _ hn hk hall =>
      exact ⟨n, ⟨hs, c', hk, hn⟩, .refl n, .deeper hc hm, .inl ⟨rfl, rfl⟩⟩

end Honest

theorem Below.trans (hm : Below m n) (hn : Within n root) : Below m root := by
  obtain rfl | hn := hn
  · exact hm
  · induction hn with
    | part hc => exact .deeper hc hm
    | deeper hc _ ih => exact .deeper hc ih

theorem Within.trans (hm : Within m n) (hn : Within n root) : Within m root := by
  obtain rfl | hm := hm
  · exact hn
  · exact .inr (hm.trans hn)

theorem Honest.truthful (h : Honest false root) : Truthful root where
  finalized n hn := by
    obtain rfl | ⟨_, _, _, hh⟩ := h.within hn
    · exact h.finalized
    · exact hh.finalized
  success n m hn hs hm := by
    obtain rfl | ⟨_, _, _, hh⟩ := h.within hn
    · exact h.status_below hs hm
    · exact hh.status_below hs hm
  warning n m hn hs hm hbad := by
    obtain rfl | ⟨p, hp, hnp, hh⟩ := h.within hn
    · obtain ⟨w, hw, hwn, hmw, ⟨-, hd⟩ | ⟨p, hp, hd, hwp⟩⟩ := h.failure_below hs hm hbad
      · cases hd
      · exact ⟨p, w, hp, hd, hwp, hw, hwn, hmw⟩
    · obtain ⟨w, hw, hwn, hmw, ⟨rfl, hd⟩ | ⟨q, hq, hd, hwq⟩⟩ := hh.failure_below hs hm hbad
      · exact ⟨p, w, hp, hd, hnp, hw, hwn, hmw⟩
      · exact ⟨q, w, hq.trans hn, hd, hwq, hw, hwn, hmw⟩

-- ---------------------------------------------------------------------------
-- Containers
-- ---------------------------------------------------------------------------

/-- A container that is open, and whose status says of its honest parts how they ended. -/
structure Gathered (o : Outcome) : Prop where
  opened : o.finalized = false
  strict : o.policy.bubbleFailure = true
  status : o.status.left = true
  success_iff : o.status.pending = true ↔ ∀ c ∈ o.children, c.status = .success
  ok_iff : o.settled.ok = true ↔ ∀ c ∈ o.children, c.status.ok = true
  parts : ∀ c ∈ o.children, Honest o.isDeletion c

namespace Gathered

theorem empty (ho : o.finalized = false) (hp : o.policy.bubbleFailure = true)
    (hs : o.status.pending = true) (hc : o.children = []) : Gathered o where
  opened := ho
  strict := hp
  status := by simp [Status.left, hs]
  success_iff := by simp [hc, hs]
  ok_iff := by simp [hc, hs, settled, Status.ok]
  parts := by simp [hc]

theorem withDetail (h : Gathered o) (v : Value) : Gathered (o.withDetail v) := by
  have hd : (o.withDetail v).isDeletion = o.isDeletion := by simp [isDeletion]
  refine ⟨?_, ?_, ?_, ?_, ?_, ?_⟩
  · simpa using h.opened
  · simpa using h.strict
  · simpa using h.status
  · simpa using h.success_iff
  · simpa [settled] using h.ok_iff
  · simpa [hd] using h.parts

theorem take (h : Gathered o) (hc : Honest o.isDeletion c) : Gathered (o.taking [c]) := by
  have hs : (o.taking [c]).status = o.status.worse (o.policy.leaves c.status) := rfl
  have hleft := h.status
  have hdecided := hc.decided
  -- How the status goes on depends only on the two statuses.
  have hpending : (o.taking [c]).status.pending = true ↔
      o.status.pending = true ∧ c.status = .success := by
    rw [hs]
    revert hleft hdecided
    cases o.status <;> cases c.status <;>
      simp [Status.left, Status.decided, Status.pending, Status.ok, Status.bad, Policy.leaves,
        Status.worse, Status.severity, h.strict]
  refine ⟨h.opened, h.strict, taking_left h.status [c], ?_, ?_, ?_⟩
  · rw [hpending, h.success_iff, taking_children, List.forall_mem_append]
    simp
  · rw [settled_taking_ok_iff h.status h.strict,
      forall_not_bad_iff (List.forall_mem_singleton.2 hdecided), h.ok_iff, taking_children,
      List.forall_mem_append]
  · rw [taking_children, List.forall_mem_append]
    exact ⟨h.parts, List.forall_mem_singleton.2 hc⟩

theorem takeAll (h : Gathered o) (hc : ∀ c ∈ cs, Honest o.isDeletion c) :
    Gathered (o.taking cs) := by
  induction cs generalizing o with
  | nil => simpa using h
  | cons c cs ih =>
    obtain ⟨hhead, hrest⟩ := List.forall_mem_cons.1 hc
    have hd : (o.taking [c]).isDeletion = o.isDeletion := rfl
    have htail := ih (h.take hhead) (hd ▸ hrest)
    rwa [taking_taking] at htail

theorem settled_success (h : Gathered o) (hs : o.settled = .success) :
    ∀ c ∈ o.children, c.status = .success := by
  rw [← h.success_iff]
  have hleft := h.status
  unfold settled at hs
  revert hleft hs
  cases o.status <;> simp [Status.left, Status.pending]

theorem close (h : Gathered o) (v : Value) (now : Moment) :
    Honest d (o.close o.settled v now) := by
  have hd : (o.close o.settled v now).isDeletion = o.isDeletion := by simp [isDeletion]
  refine .node rfl (Status.decided_iff.1 (settled_decided h.status)) ?_ ?_ ?_
  · simpa using h.settled_success
  · intro hs
    have hok : o.settled.ok = true := by simp [show o.settled = .warning from hs, Status.ok]
    simpa using h.ok_iff.1 hok
  · simpa [hd] using h.parts

theorem close_error (h : Gathered o) (b : Blame) (v : Value) (now : Moment) :
    Honest d ((o.blame b).close .error v now) := by
  have hd : ((o.blame b).close .error v now).isDeletion = o.isDeletion := by simp [isDeletion]
  refine .node rfl (.inr rfl) (by simp) (by simp) ?_
  simpa [hd] using h.parts

theorem broken (h : Gathered o) (hc : Honest o.isDeletion c) (now : Moment) :
    Honest d (o.broken c now) := by
  have hd : (o.broken c now).isDeletion = o.isDeletion := by simp [isDeletion]
  refine .node rfl (.inr rfl) (by simp) (by simp) ?_
  rw [hd, broken_children, List.forall_mem_append]
  exact ⟨h.parts, List.forall_mem_singleton.2 hc⟩

end Gathered

theorem Filled.honest {r : Reply} (h : Filled o cs r) (ho : Gathered o)
    (hc : ∀ c ∈ cs, Honest o.isDeletion c) : Honest d r.outcome := by
  cases h with
  | finished _ now => exact (ho.takeAll hc).close .null now
  | @broken parts last _ _ now =>
    obtain ⟨hparts, hlast⟩ := List.forall_mem_append.1 hc
    exact (ho.takeAll hparts).broken (List.forall_mem_singleton.1 hlast) now

end Provision.Outcome
