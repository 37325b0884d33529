import Provision.Outcome

/-!
# Containers and their parts

What the changes of an outcome do, said once. An open container that takes in a
part either ends with it (`attach_of_ends`) or goes on with a status that is no
less severe (`attach_of_not_ends`). `taking` is a container that has taken in a
row of parts none of which ended it.
-/

namespace Provision

-- ---------------------------------------------------------------------------
-- Statuses
-- ---------------------------------------------------------------------------

def Policy.ends (p : Policy) (s : Status) : Bool :=
  p.bubbleError && (s = .error || s = .failure && p.failureIsError)

/-- What a part that does not end its container makes of the status at least. -/
def Policy.leaves (p : Policy) (s : Status) : Status :=
  match s with
  | .error => .failure
  | .failure => if p.bubbleFailure || p.failureIsError then .failure else .warning
  | .warning => .warning
  | _ => .initialized

theorem Status.worse_initialized (s : Status) : s.worse .initialized = s := by
  cases s <;> rfl

def Status.decided (s : Status) : Bool := s.ok || s.bad

theorem Status.decided_iff {s : Status} : s.decided = true ↔ s.ok = true ∨ s.bad = true :=
  Bool.or_eq_true_iff

theorem Status.not_bad_iff {s : Status} (h : s.decided = true) : ¬s.bad = true ↔ s.ok = true := by
  revert h
  cases s <;> simp [decided, ok, bad]

theorem Status.ok_eq_false {s : Status} (h : s.bad = true) : s.ok = false := by
  revert h
  cases s <;> simp [ok, bad]

/-- The statuses that parts leave to a container that none of them has ended. -/
def Status.left (s : Status) : Bool := s.pending || s = .warning || s = .failure

theorem Policy.leaves_left (p : Policy) (s : Status) : (p.leaves s).left = true := by
  cases s with
  | failure =>
    unfold leaves
    dsimp only
    split <;> rfl
  | _ => rfl

namespace Outcome

abbrev Bad (o : Outcome) : Prop := o.status.bad = true

variable {o : Outcome} {c : Outcome} {cs ds : List Outcome} {now : Moment}

-- ---------------------------------------------------------------------------
-- Ending
-- ---------------------------------------------------------------------------

/-- The status with which an outcome ends that is not told how. -/
def settled (o : Outcome) : Status := if o.status.pending then .success else o.status

@[simp] theorem withDetail_status (v : Value) : (o.withDetail v).status = o.status := by
  cases v <;> rfl

@[simp] theorem withDetail_children (v : Value) : (o.withDetail v).children = o.children := by
  cases v <;> rfl

@[simp] theorem withDetail_name (v : Value) : (o.withDetail v).name = o.name := by
  cases v <;> rfl

@[simp] theorem withDetail_kind (v : Value) : (o.withDetail v).kind = o.kind := by
  cases v <;> rfl

@[simp] theorem withDetail_policy (v : Value) : (o.withDetail v).policy = o.policy := by
  cases v <;> rfl

@[simp] theorem withDetail_finalized (v : Value) : (o.withDetail v).finalized = o.finalized := by
  cases v <;> rfl

@[simp] theorem withDetail_ended (v : Value) : (o.withDetail v).ended = o.ended := by
  cases v <;> rfl

@[simp] theorem withDetail_started (v : Value) : (o.withDetail v).started = o.started := by
  cases v <;> rfl

@[simp] theorem withDetail_clockStart (v : Value) :
    (o.withDetail v).clockStart = o.clockStart := by
  cases v <;> rfl

/-- Blame is recorded in the fault or in the detail, and nowhere else. -/
theorem blame_frame (o : Outcome) (b : Blame) :
    ∃ detail fault, o.blame b = { o with detail, fault } := by
  refine ⟨(o.blame b).detail, (o.blame b).fault, ?_⟩
  cases o
  cases b with
  | value v => by_cases h : v.truthy <;> simp [blame, h]
  | _ => rfl

@[simp] theorem blame_status (b : Blame) : (o.blame b).status = o.status := by
  obtain ⟨detail, fault, h⟩ := o.blame_frame b
  rw [h]

@[simp] theorem blame_children (b : Blame) : (o.blame b).children = o.children := by
  obtain ⟨detail, fault, h⟩ := o.blame_frame b
  rw [h]

@[simp] theorem blame_name (b : Blame) : (o.blame b).name = o.name := by
  obtain ⟨detail, fault, h⟩ := o.blame_frame b
  rw [h]

@[simp] theorem blame_kind (b : Blame) : (o.blame b).kind = o.kind := by
  obtain ⟨detail, fault, h⟩ := o.blame_frame b
  rw [h]

@[simp] theorem blame_policy (b : Blame) : (o.blame b).policy = o.policy := by
  obtain ⟨detail, fault, h⟩ := o.blame_frame b
  rw [h]

@[simp] theorem blame_finalized (b : Blame) : (o.blame b).finalized = o.finalized := by
  obtain ⟨detail, fault, h⟩ := o.blame_frame b
  rw [h]

@[simp] theorem blame_started (b : Blame) : (o.blame b).started = o.started := by
  obtain ⟨detail, fault, h⟩ := o.blame_frame b
  rw [h]

@[simp] theorem blame_clockStart (b : Blame) : (o.blame b).clockStart = o.clockStart := by
  obtain ⟨detail, fault, h⟩ := o.blame_frame b
  rw [h]

@[simp] theorem blame_ended (b : Blame) : (o.blame b).ended = o.ended := by
  obtain ⟨detail, fault, h⟩ := o.blame_frame b
  rw [h]

section
variable {s : Status} {v : Value}

@[simp] theorem close_status : (o.close s v now).status = s := rfl
@[simp] theorem close_finalized : (o.close s v now).finalized = true := rfl
@[simp] theorem close_children : (o.close s v now).children = o.children := withDetail_children v
@[simp] theorem close_name : (o.close s v now).name = o.name := withDetail_name v
@[simp] theorem close_kind : (o.close s v now).kind = o.kind := withDetail_kind v

theorem durationText_of_running {m : Moment} (hs : o.clockStart = some m)
    (he : o.clockEnd = none) : o.durationText now = Moment.durationText (now.since m) := by
  rw [durationText, seconds, hs, he]
  rfl

theorem close_durationText {m : Moment} (hs : o.clockStart = some m) :
    (o.close s v now).durationText now = Moment.durationText (now.since m) := by
  have hstart : (o.close s v now).clockStart = some m := by simp [close, hs]
  rw [durationText, seconds, hstart]
  rfl

theorem finalize_of_open (ho : o.finalized = false) :
    o.finalize s v now = ⟨o.close s v now, none⟩ := by
  simp [finalize, whenOpen, ho]

theorem finish_of_open (ho : o.finalized = false) :
    o.finish v now = ⟨o.close o.settled v now, none⟩ := finalize_of_open ho

theorem succeed_of_open (ho : o.finalized = false) :
    o.succeed v now = ⟨o.close .success v now, none⟩ := finalize_of_open ho

theorem fail_of_open (ho : o.finalized = false) (b : Blame) :
    o.fail b v now = ⟨(o.blame b).close .failure v now, none⟩ :=
  finalize_of_open (by simpa using ho)

theorem error_of_open (ho : o.finalized = false) (b : Blame) :
    o.error b v now = ⟨(o.blame b).close .error v now, none⟩ :=
  finalize_of_open (by simpa using ho)

end

-- ---------------------------------------------------------------------------
-- Attaching
-- ---------------------------------------------------------------------------

def holding (o : Outcome) (cs : List Outcome) : Outcome := { o with children := o.children ++ cs }

/-- A container that has taken in parts none of which ends it. -/
def taking (o : Outcome) (cs : List Outcome) : Outcome :=
  { o.holding cs with status := cs.foldl (fun s c => s.worse (o.policy.leaves c.status)) o.status }

/-- A container that ends in error on account of its last part. -/
def broken (o : Outcome) (c : Outcome) (now : Moment) : Outcome :=
  ((o.holding [c]).blame c.asBlame).close .error .null now

@[simp] theorem taking_children : (o.taking cs).children = o.children ++ cs := rfl

@[simp] theorem taking_policy : (o.taking cs).policy = o.policy := rfl
@[simp] theorem taking_name : (o.taking cs).name = o.name := rfl
@[simp] theorem taking_kind : (o.taking cs).kind = o.kind := rfl
@[simp] theorem taking_finalized : (o.taking cs).finalized = o.finalized := rfl

@[simp] theorem taking_nil : o.taking [] = o := by
  cases o
  simp [taking, holding]

theorem taking_taking : (o.taking cs).taking ds = o.taking (cs ++ ds) := by
  simp [taking, holding]

@[simp] theorem broken_children : (o.broken c now).children = o.children ++ [c] := by
  simp [broken, holding]

@[simp] theorem broken_name : (o.broken c now).name = o.name := by simp [broken, holding]
@[simp] theorem broken_kind : (o.broken c now).kind = o.kind := by simp [broken, holding]
@[simp] theorem broken_status : (o.broken c now).status = .error := rfl
@[simp] theorem broken_finalized : (o.broken c now).finalized = true := rfl

theorem attach_of_ends (ho : o.finalized = false) (h : o.policy.ends c.status = true) :
    o.attach c now = ⟨o.broken c now, some (.bubbled (o.broken c now))⟩ := by
  have hb : o.policy.bubbleError = true := by simp_all [Policy.ends]
  have he : (o.holding [c]).error c.asBlame .null now = ⟨o.broken c now, none⟩ :=
    error_of_open (o := o.holding [c]) ho c.asBlame
  unfold attach
  rw [if_neg (Bool.eq_false_iff.1 ho)]
  dsimp only
  have hs : (if c.status = .failure ∧ o.policy.failureIsError then Status.error else c.status) =
      .error := by
    simp only [Policy.ends, hb, Bool.true_and, Bool.or_eq_true, decide_eq_true_eq,
      Bool.and_eq_true] at h
    split
    · rfl
    · next hn => exact h.resolve_right hn
  rw [hs]
  simp only [hb, ↓reduceIte]
  exact congrArg Reply.bubble he

theorem attach_of_not_ends (ho : o.finalized = false) (h : o.policy.ends c.status = false) :
    o.attach c now = ⟨o.taking [c], none⟩ := by
  have hs : o.taking [c] = (o.holding [c]).escalate (o.policy.leaves c.status) := rfl
  unfold attach
  rw [if_neg (Bool.eq_false_iff.1 ho), hs]
  dsimp only
  cases hc : c.status with
  | error =>
    have hb : o.policy.bubbleError = false := by simpa [Policy.ends, hc] using h
    simp [hb, Policy.leaves, holding]
  | failure =>
    cases hf : o.policy.failureIsError with
    | true =>
      have hb : o.policy.bubbleError = false := by simpa [Policy.ends, hc, hf] using h
      simp [hb, Policy.leaves, holding, hf]
    | false => simp [Policy.leaves, holding, hf]
  | _ => simp [Policy.leaves, holding, escalate, Status.worse_initialized]

-- ---------------------------------------------------------------------------
-- A row of parts
-- ---------------------------------------------------------------------------

/-- A container takes in parts until one of them ends it, or else ends with what they have
left it. -/
inductive Filled (o : Outcome) : List Outcome → Reply → Prop
  | finished {parts : List Outcome} (h : ∀ c ∈ parts, o.policy.ends c.status = false)
      (now : Moment) :
      Filled o parts ⟨(o.taking parts).close (o.taking parts).settled .null now, none⟩
  | broken {parts : List Outcome} {last : Outcome}
      (h : ∀ c ∈ parts, o.policy.ends c.status = false)
      (hc : o.policy.ends last.status = true) (now : Moment) :
      Filled o (parts ++ [last])
        ⟨(o.taking parts).broken last now, some (.bubbled ((o.taking parts).broken last now))⟩

namespace Filled

variable {r : Reply}

theorem of_finish (ho : o.finalized = false) (now : Moment) : Filled o [] (o.finish .null now) := by
  rw [finish_of_open ho]
  simpa using @finished o [] (by simp) now

theorem of_ends (ho : o.finalized = false) (h : o.policy.ends c.status = true) (now : Moment) :
    Filled o [c] (o.attach c now) := by
  rw [attach_of_ends ho h]
  simpa using @broken o [] c (by simp) h now

theorem cons (hc : o.policy.ends c.status = false) (h : Filled (o.taking [c]) cs r) :
    Filled o (c :: cs) r := by
  cases h with
  | finished h now =>
    rw [taking_taking]
    exact finished (by simpa [hc] using h) now
  | @broken parts last h hl now =>
    rw [taking_taking]
    exact @broken o (c :: parts) last (by simpa [hc] using h) hl now

theorem children (h : Filled o cs r) : r.outcome.children = o.children ++ cs := by
  cases h <;> simp

theorem finalized (h : Filled o cs r) : r.outcome.finalized = true := by
  cases h <;> rfl

theorem name (h : Filled o cs r) : r.outcome.name = o.name := by
  cases h <;> simp

theorem kind (h : Filled o cs r) : r.outcome.kind = o.kind := by
  cases h <;> simp

theorem raised (h : Filled o cs r) :
    r.raised = if cs.any (fun c => o.policy.ends c.status) then some (.bubbled r.outcome)
      else none := by
  cases h with
  | finished h now => simpa using h
  | broken h hc now => simp [hc]

theorem answered (h : Filled o cs r) :
    r.raised = none ∨ r.raised = some (.bubbled r.outcome) ∧ r.outcome.status = .error := by
  cases h with
  | finished => exact .inl rfl
  | broken => exact .inr ⟨rfl, rfl⟩

end Filled

theorem taking_status_ne_error (h : o.status ≠ .error) : (o.taking cs).status ≠ .error := by
  have hl : ∀ s : Status, s ≠ .error → ∀ c : Outcome, s.worse (o.policy.leaves c.status) ≠ .error := by
    intro s hs c
    unfold Status.worse
    split
    · unfold Policy.leaves
      cases c.status <;> simp
      split <;> simp
    · exact hs
  show cs.foldl _ o.status ≠ .error
  generalize o.status = s at h
  induction cs generalizing s with
  | nil => exact h
  | cons c cs ih => exact ih _ (hl s h c)

theorem settled_ne_error (h : o.status ≠ .error) : o.settled ≠ .error := by
  unfold settled
  split
  · simp
  · exact h

theorem settled_taking_ok (ho : o.settled.ok = true) (hc : c.status.ok = true) :
    (o.taking [c]).settled.ok = true := by
  have hs : (o.taking [c]).status = o.status.worse (o.policy.leaves c.status) := rfl
  unfold settled at ho ⊢
  rw [hs]
  revert ho hc
  cases o.status <;> cases c.status <;>
    simp [Status.pending, Status.ok, Policy.leaves, Status.worse, Status.severity]

theorem taking_left (ho : o.status.left = true) (cs : List Outcome) :
    (o.taking cs).status.left = true := by
  have hstep : ∀ s : Status, s.left = true → ∀ c : Outcome,
      (s.worse (o.policy.leaves c.status)).left = true := by
    intro s hs c
    unfold Status.worse
    split
    · exact Policy.leaves_left _ _
    · exact hs
  show (cs.foldl _ o.status).left = true
  generalize o.status = s at ho
  induction cs generalizing s with
  | nil => exact ho
  | cons c cs ih => exact ih _ (hstep s ho c)

theorem settled_decided (ho : o.status.left = true) : o.settled.decided = true := by
  unfold settled
  revert ho
  cases o.status <;> simp [Status.left, Status.pending, Status.decided, Status.ok, Status.bad]

/-- What takes failures for its own ends well exactly when it could before and no part failed. -/
theorem settled_taking_ok_iff (ho : o.status.left = true) (hp : o.policy.bubbleFailure = true) :
    (o.taking cs).settled.ok = true ↔ o.settled.ok = true ∧ ∀ c ∈ cs, ¬c.Bad := by
  induction cs generalizing o with
  | nil => simp
  | cons c cs ih =>
    have hstep : (o.taking [c]).settled.ok = true ↔ o.settled.ok = true ∧ ¬c.Bad := by
      have hs : (o.taking [c]).status = o.status.worse (o.policy.leaves c.status) := rfl
      unfold settled Bad
      rw [hs]
      revert ho
      cases o.status <;> cases c.status <;>
        simp [Status.left, Status.pending, Status.ok, Status.bad, Policy.leaves, Status.worse,
          Status.severity, hp]
    have htail := ih (taking_left ho [c]) hp
    rw [taking_taking] at htail
    rw [List.forall_mem_cons, ← and_assoc, ← hstep]
    exact htail

theorem bad_of_ends (h : o.policy.ends c.status = true) : c.Bad := by
  unfold Bad
  cases hc : c.status <;> simp_all [Policy.ends, Status.bad]

theorem Filled.decided {r : Reply} (h : Filled o cs r) (ho : o.status.left = true) :
    r.outcome.status.decided = true := by
  cases h with
  | finished => exact settled_decided (taking_left ho _)
  | broken => rfl

theorem Filled.ok_iff {r : Reply} (h : Filled o cs r) (ho : o.status.pending = true)
    (hp : o.policy.bubbleFailure = true) :
    r.outcome.status.ok = true ↔ ∀ c ∈ cs, ¬c.Bad := by
  cases h with
  | finished _ now =>
    have hleft : o.status.left = true := by simp [Status.left, ho]
    have hok : o.settled.ok = true := by simp [settled, ho, Status.ok]
    rw [close_status, settled_taking_ok_iff hleft hp]
    exact and_iff_right hok
  | @broken parts last _ hend now =>
    constructor
    · intro hok
      cases hok
    · intro hall
      exact absurd (bad_of_ends hend) (hall last (by simp))

theorem Filled.exists_bad {r : Reply} (h : Filled o cs r) (ho : o.status.pending = true)
    (hp : o.policy.bubbleFailure = true) (hr : r.outcome.status.ok = false) :
    ∃ c ∈ cs, c.Bad := by
  refine Classical.byContradiction fun hn => ?_
  rw [(h.ok_iff ho hp).2 fun c hc hbad => hn ⟨c, hc, hbad⟩] at hr
  cases hr

theorem forall_not_bad_iff (h : ∀ c ∈ cs, c.status.decided = true) :
    (∀ c ∈ cs, ¬c.Bad) ↔ ∀ c ∈ cs, c.status.ok = true :=
  forall₂_congr fun c hc => Status.not_bad_iff (h c hc)

theorem Filled.status_eq_error_iff {r : Reply} (h : Filled o cs r) (ho : o.status ≠ .error) :
    r.outcome.status = .error ↔ cs.any (fun c => o.policy.ends c.status) = true := by
  cases h with
  | finished h now =>
    have hs := settled_ne_error (@taking_status_ne_error o cs ho)
    simpa [hs] using h
  | broken h hc now => simp [hc]

theorem Filled.ne_error {r : Reply} (h : Filled o cs r) (ho : o.status ≠ .error)
    (hr : r.raised = none) : r.outcome.status ≠ .error := by
  rw [h.raised] at hr
  split at hr
  · cases hr
  · next hn => exact mt (h.status_eq_error_iff ho).1 hn

end Outcome

end Provision
