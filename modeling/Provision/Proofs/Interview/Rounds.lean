import Provision.Proofs.Interview.Queue

/-!
# The rounds of a choice

With a prompter that answers from a queue every choice of a target has a last round, and
that one decides it: the target that was picked and confirmed, a cancellation, or a
question that stays open because the queue has nothing for it (`chooseTarget_rounds`).
What was answered in the rounds before has no bearing on it.
-/

namespace Provision.Interview

open Recipe (Target)

variable {π α : Type} {p : Prompter π} {s s' t u : π}

-- ---------------------------------------------------------------------------
-- The last round
-- ---------------------------------------------------------------------------

def offers (targets : List Target) (a : Answer) : Exchange :=
  ⟨pickQuestion targets, "Please select the installation target for this demo", a⟩

inductive Decides (targets : List Target) : List Exchange → Except Fault Target → Prop
  | left {a : Answer} (ha : a.asTarget? = none) :
      Decides targets [offers targets a] (.error cancelled)
  | agreed {t : Target} {yes : Answer} (hy : yes.truthy = true) :
      Decides targets [picks targets t, confirms t yes] (.ok t)
  | refused {t : Target} {no again : Answer} (hn : no.truthy = false)
      (ha : again.truthy = false) :
      Decides targets [picks targets t, confirms t no, retries again] (.error cancelled)

inductive Pending (targets : List Target) : List Exchange → Exchange → Prop
  | pick {a : Answer} : Pending targets [] (offers targets a)
  | confirm {t : Target} {a : Answer} : Pending targets [picks targets t] (confirms t a)
  | retry {t : Target} {no a : Answer} (hn : no.truthy = false) :
      Pending targets [picks targets t, confirms t no] (retries a)

theorem Answered.decides {targets : List Target} {answers : Answers} {log : List Exchange}
    (h : Answered (targetQuestions targets) [] log answers) (hn : chosenTarget? answers = none) :
    ∃ a : Answer, a.asTarget? = none ∧ log = [offers targets a] := by
  obtain ⟨message, picked, rest, rfl, hm, h₁⟩ := h.of_visible rfl
  cases hm
  cases picked with
  | target t =>
    obtain ⟨a, rest, rfl, h₂⟩ := h₁.confirmed
    -- Neither of the questions that follow takes the target back.
    cases ha : a.truthy with
    | true => cases h₂.of_hidden (congrArg not ha); cases hn
    | false =>
      obtain ⟨message, again, rest, rfl, hm, h₃⟩ := h₂.of_visible (congrArg not ha)
      cases h₃
      cases hn
  | _ =>
    cases ((h₁.of_hidden rfl).of_hidden rfl).of_hidden rfl
    exact ⟨_, rfl, rfl⟩

theorem Reached.confirmed {t : Target} {log : List Exchange} {q : Question} {message : String}
    (h : Reached [confirmQuestion deletionMessage (·.isScratchOrg),
      confirmQuestion validationMessage (!·.isScratchOrg), retryQuestion]
      [("targetOrg", .target t)] log q message) :
    ∃ a, (log = [] ∧ q = (confirms t a).question ∧ message = (confirms t a).message) ∨
      ∃ rest, log = confirms t a :: rest ∧
        Reached [retryQuestion] [("targetOrg", .target t), ("proceed", a)] rest q message := by
  cases hs : t.isScratchOrg with
  | true =>
    rcases h.of_visible hs with ⟨rfl, rfl, hm⟩ | ⟨message', a, rest, rfl, hm, h₁⟩
    · cases hm
      exact ⟨.value .null, .inl ⟨rfl, by simp [confirms, hs],
        by simp [confirms, hs, chosenTarget?_picked, Answer.asTarget?]⟩⟩
    · cases hm
      refine ⟨a, .inr ⟨rest, ?_, h₁.of_hidden (congrArg not hs)⟩⟩
      simp [confirms, hs, chosenTarget?_picked, Answer.asTarget?]
  | false =>
    rcases (h.of_hidden hs).of_visible (congrArg not hs) with
      ⟨rfl, rfl, hm⟩ | ⟨message', a, rest, rfl, hm, h₁⟩
    · cases hm
      exact ⟨.value .null, .inl ⟨rfl, by simp [confirms, hs],
        by simp [confirms, hs, chosenTarget?_picked, Answer.asTarget?]⟩⟩
    · cases hm
      refine ⟨a, .inr ⟨rest, ?_, h₁⟩⟩
      simp [confirms, hs, chosenTarget?_picked, Answer.asTarget?]

theorem Reached.pending {targets : List Target} {log : List Exchange} {q : Question}
    {message : String} (h : Reached (targetQuestions targets) [] log q message) :
    ∃ x, Pending targets log x ∧ q = x.question ∧ message = x.message := by
  rcases h.of_visible rfl with ⟨rfl, rfl, hm⟩ | ⟨message', picked, rest, rfl, hm, h₁⟩
  · cases hm
    exact ⟨offers targets (.value .null), .pick, rfl, rfl⟩
  · cases hm
    cases picked with
    | target t =>
      obtain ⟨a, ⟨rfl, rfl, rfl⟩ | ⟨rest, rfl, h₂⟩⟩ := h₁.confirmed
      · exact ⟨confirms t a, .confirm, rfl, rfl⟩
      · cases ha : a.truthy with
        | true => cases h₂.of_hidden (congrArg not ha)
        | false =>
          rcases h₂.of_visible (congrArg not ha) with ⟨rfl, rfl, hm⟩ | ⟨_, _, _, _, _, h₃⟩
          · cases hm
            exact ⟨retries (.value .null), .retry ha, rfl, rfl⟩
          · cases h₃
    | _ => cases ((h₁.of_hidden rfl).of_hidden rfl).of_hidden rfl

theorem chooseTarget_of_error {targets : List Target} {f : Fault}
    (h : interview p (targetQuestions targets) s = (.error f, s')) :
    chooseTarget p targets s = (.error f, s') := by
  rw [chooseTarget]
  split
  · next hi =>
    cases hi.symm.trans h
    rfl
  · next hi => cases hi.symm.trans h

theorem chooseTarget_of_ok {targets : List Target} {answers : Answers}
    (h : interview p (targetQuestions targets) s = (.ok answers, s')) :
    chooseTarget p targets s = match chosenTarget? answers with
      | none => (.error cancelled, s')
      | some t =>
        if agreed answers "proceed" then (.ok t, s')
        else if agreed answers "tryAgain" then chooseTarget p targets s'
        else (.error cancelled, s') := by
  rw [chooseTarget]
  split
  · next hi => cases hi.symm.trans h
  · next hi =>
    cases hi.symm.trans h
    cases chosenTarget? answers <;> rfl

-- ---------------------------------------------------------------------------
-- Declined rounds
-- ---------------------------------------------------------------------------

namespace Queued

variable {d : Queued p α} {f : Fault} {entries rest : List α} {log : List Exchange}
  {targets : List Target}

theorem chooseTarget_congr (d : Queued p α) (h : d.entries s = d.entries u) :
    (chooseTarget p targets s).1 = (chooseTarget p targets u).1 := by
  fun_induction chooseTarget p targets s generalizing u with
  | case1 s f s' hi =>
    obtain ⟨u', hu, -⟩ := interview_congr d h hi
    rw [chooseTarget_of_error hu]
  | case2 s answers s' hi hn =>
    obtain ⟨u', hu, -⟩ := interview_congr d h hi
    rw [chooseTarget_of_ok hu, hn]
  | case3 s answers s' hi t ht ha =>
    obtain ⟨u', hu, -⟩ := interview_congr d h hi
    rw [chooseTarget_of_ok hu, ht]
    simp [ha]
  | case4 s answers s' hi t ht hn ha ih =>
    obtain ⟨u', hu, hentries⟩ := interview_congr d h hi
    rw [chooseTarget_of_ok hu, ht]
    simp [hn, ha, ih hentries]
  | case5 s answers s' hi t ht hn ha =>
    obtain ⟨u', hu, -⟩ := interview_congr d h hi
    rw [chooseTarget_of_ok hu, ht]
    simp [hn, ha]

theorem answered_declined {t : Target} {no again : Answer} (hn : no.truthy = false) :
    Answered (targetQuestions targets) [] [picks targets t, confirms t no, retries again]
      [("targetOrg", .target t), ("proceed", no), ("tryAgain", again)] := by
  refine .asked rfl rfl ?_
  cases hs : t.isScratchOrg with
  | true =>
    rw [confirms, if_pos hs]
    exact .asked hs rfl (.passed (congrArg not hs) (.asked (congrArg not hn) rfl .done))
  | false =>
    rw [confirms, if_neg (by simp [hs])]
    exact .passed hs (.asked (congrArg not hs) rfl (.asked (congrArg not hn) rfl .done))

/-- Declined rounds use up their entries, and the choice starts over. -/
theorem chooseTarget_declined {rounds : List Exchange} (hr : Declined targets rounds)
    (hd : d.Says entries rounds) (hs : d.entries s = entries ++ rest) :
    ∃ u, d.entries u = rest ∧ chooseTarget p targets s = chooseTarget p targets u := by
  induction hr generalizing entries s with
  | none =>
    cases hd
    exact ⟨s, hs, rfl⟩
  | @round t no again rounds hn ha _ ih =>
    obtain ⟨e₁, _, h₁, hd₁, rfl⟩ := List.forall₂_cons_right_iff.1 hd
    obtain ⟨e₂, _, h₂, hd₂, rfl⟩ := List.forall₂_cons_right_iff.1 hd₁
    obtain ⟨e₃, entries, h₃, hd₃, rfl⟩ := List.forall₂_cons_right_iff.1 hd₂
    have hround : d.Says [e₁, e₂, e₃] [picks targets t, confirms t no, retries again] :=
      .cons h₁ (.cons h₂ (.cons h₃ .nil))
    obtain ⟨s', hi, hs'⟩ := askAll_says (targetQuestions_sound targets) (answered_declined hn)
      hround hs
    obtain ⟨u, hu, heq⟩ := ih hd₃ hs'
    refine ⟨u, hu, ?_⟩
    rw [chooseTarget_of_ok hi, ← heq]
    have hproceed : agreed [("targetOrg", .target t), ("proceed", no), ("tryAgain", again)]
        "proceed" = false := hn
    have hagain : agreed [("targetOrg", .target t), ("proceed", no), ("tryAgain", again)]
        "tryAgain" = true := ha
    simp [chosenTarget?_picked, Answer.asTarget?, hproceed, hagain]

-- ---------------------------------------------------------------------------
-- The course of a choice
-- ---------------------------------------------------------------------------

variable (d) in
/-- How a choice ends after the exchanges of its last round, with what is left of the queue and
the messages of that round. -/
inductive Ends (targets : List Target) (last : List Exchange) (rest : List α) :
    Except Fault Target → List α → List String → Prop
  | decided {r : Except Fault Target} (h : Decides targets last r) :
      Ends targets last rest r rest (messages last)
  | broken {x : Exchange} {f : Fault} {left : List α} (hp : Pending targets last x)
      (hm : d.Misses x rest f left) :
      Ends targets last rest (.error f) left (messages last ++ [x.message])

variable (d) in
/-- Declined rounds, and a last one that ends the choice. -/
structure Course (targets : List Target) (s : π) (r : Except Fault Target) (s' : π)
    (rounds last : List Exchange) (early late rest : List α) (said : List String) : Prop where
  declined : Declined targets rounds
  says_early : d.Says early rounds
  says_late : d.Says late last
  entries : d.entries s = early ++ (late ++ rest)
  ends : d.Ends targets last rest r (d.entries s') said
  asked : d.asked s' = d.asked s ++ (messages rounds ++ said)

theorem pending_kind {last : List Exchange} {x : Exchange} (h : Pending targets last x) :
    x.question.kind = .list ∨ x.question.kind = .confirm := by
  cases h with
  | pick => exact .inl rfl
  | @confirm t a =>
    unfold confirms
    split <;> exact .inr rfl
  | retry => exact .inr rfl

theorem Course.single {last : List Exchange} {r : Except Fault Target}
    (hlog : Asked (some p) s last s') (h : Decides targets last r) :
    ∃ late said, d.Course targets s r s' [] last [] late (d.entries s') said := by
  obtain ⟨late, hs, hentries, hasked⟩ := says_of_asked (d := d) hlog
  exact ⟨late, messages last, .none, .nil, hs, hentries, .decided h, hasked⟩

theorem Course.round {t : Target} {no again : Answer} {r : Except Fault Target}
    {rounds last : List Exchange} {early late : List α} {said : List String}
    (hlog : Asked (some p) s [picks targets t, confirms t no, retries again] s')
    (hn : no.truthy = false) (ha : again.truthy = true)
    (h : d.Course targets s' r u rounds last early late rest said) :
    ∃ first, d.Course targets s r u
      (picks targets t :: confirms t no :: retries again :: rounds) last (first ++ early) late rest
      said := by
  obtain ⟨first, hs, hentries, hasked⟩ := says_of_asked (d := d) hlog
  refine ⟨first, .round hn ha h.declined, List.rel_append hs h.says_early, h.says_late, ?_,
    h.ends, ?_⟩
  · rw [hentries, h.entries, List.append_assoc]
  · rw [h.asked, hasked, List.append_assoc, ← List.append_assoc (messages _) (messages _)]
    rfl

theorem course (d : Queued p α) {r : Except Fault Target}
    (h : chooseTarget p targets s = (r, s')) :
    ∃ rounds last early late rest said,
      d.Course targets s r s' rounds last early late rest said := by
  fun_induction chooseTarget p targets s with
  | case1 s f t hi =>
    cases h
    obtain ⟨last, q, message, t, hlog, hr, hf⟩ := askAll_reached (targetQuestions_sound targets) hi
    obtain ⟨x, hp, rfl, rfl⟩ := hr.pending
    obtain ⟨late, hs, hentries, hasked⟩ := says_of_asked (d := d) hlog
    obtain ⟨hm, hx⟩ := misses_of_ask (d := d) (pending_kind hp) hf
    refine ⟨[], last, [], late, d.entries t, _, .none, .nil, hs, hentries, .broken hp hm, ?_⟩
    rw [hx, hasked, List.append_assoc]
    rfl
  | case2 s answers t hi hn =>
    cases h
    obtain ⟨log, hlog, hans⟩ := interview_asked hi
    obtain ⟨a, ha, rfl⟩ := hans.decides hn
    obtain ⟨late, said, hc⟩ := Course.single (d := d) hlog (.left ha)
    exact ⟨_, _, _, _, _, _, hc⟩
  | case3 s answers t hi u hu ha =>
    cases h
    obtain ⟨log, hlog, hans⟩ := interview_asked hi
    cases hans.round hu with
    | agreed _ hy =>
      obtain ⟨late, said, hc⟩ := Course.single (d := d) hlog (.agreed hy)
      exact ⟨_, _, _, _, _, _, hc⟩
    | declined hn => simp [ha] at hn
  | case4 s answers t hi u hu hn ha ih =>
    obtain ⟨log, hlog, hans⟩ := interview_asked hi
    obtain ⟨rounds, last, early, late, rest, said, hc⟩ := ih h
    cases hans.round hu with
    | agreed hy => simp [hy] at hn
    | declined _ hno hagain =>
      obtain ⟨first, hc⟩ := hc.round hlog hno (hagain ▸ ha)
      exact ⟨_, _, _, _, _, _, hc⟩
  | case5 s answers t hi u hu hn ha =>
    cases h
    obtain ⟨log, hlog, hans⟩ := interview_asked hi
    cases hans.round hu with
    | agreed hy => simp [hy] at hn
    | declined _ hno hagain =>
      obtain ⟨late, said, hc⟩ := Course.single (d := d) hlog
        (.refused hno (by rw [← hagain]; exact Bool.eq_false_iff.2 ha))
      exact ⟨_, _, _, _, _, _, hc⟩

theorem confirms_answer (t : Target) (a : Answer) : (confirms t a).answer = a := by
  unfold confirms
  split <;> rfl

theorem Ends.ok_iff {last : List Exchange} {r : Except Fault Target} {left : List α}
    {said : List String} (h : d.Ends targets last rest r left said) (t : Target) :
    r = .ok t ↔ ∃ yes : Answer, yes.truthy = true ∧ last = [picks targets t, confirms t yes] := by
  constructor
  · rintro rfl
    cases h with
    | decided h =>
      cases h with
      | agreed hy => exact ⟨_, hy, rfl⟩
  · rintro ⟨yes, hy, rfl⟩
    cases h with
    | decided h =>
      generalize hlast : [picks targets t, confirms t yes] = last at h
      cases h with
      | left => simp at hlast
      | agreed _ =>
        cases (List.cons.inj hlast).1
        rfl
      | refused => simp at hlast
    | broken hp _ =>
      generalize hlast : [picks targets t, confirms t yes] = last at hp
      cases hp with
      | pick => simp at hlast
      | confirm => simp at hlast
      | @retry t' no _ hn =>
        -- The answer to the one confirmation is a yes and a no.
        obtain ⟨ht, hconfirm⟩ := List.cons_eq_cons.1 hlast
        have hanswer := congrArg Exchange.answer (List.head_eq_of_cons_eq hconfirm)
        rw [confirms_answer, confirms_answer] at hanswer
        rw [hanswer, hn] at hy
        cases hy

theorem Ends.cancelled_iff {last : List Exchange} {r : Except Fault Target} {left : List α}
    {said : List String} (h : d.Ends targets last rest r left said) :
    r = .error cancelled ↔ (∃ a : Answer, a.asTarget? = none ∧ last = [offers targets a]) ∨
      ∃ (t : Target) (no again : Answer), no.truthy = false ∧ again.truthy = false ∧
        last = [picks targets t, confirms t no, retries again] := by
  constructor
  · rintro rfl
    cases h with
    | decided h =>
      cases h with
      | left ha => exact .inl ⟨_, ha, rfl⟩
      | refused hn ha => exact .inr ⟨_, _, _, hn, ha, rfl⟩
    | broken _ hm => nomatch hm
  · intro hlast
    cases h with
    | decided h =>
      cases h with
      | left => rfl
      | agreed => rcases hlast with ⟨_, _, hlast⟩ | ⟨_, _, _, _, _, hlast⟩ <;> simp at hlast
      | refused => rfl
    | broken hp _ =>
      cases hp with
      | pick => rcases hlast with ⟨_, _, hlast⟩ | ⟨_, _, _, _, _, hlast⟩ <;> simp at hlast
      | confirm =>
        rcases hlast with ⟨a, ha, hlast⟩ | ⟨_, _, _, _, _, hlast⟩
        · -- What was picked is a target, so the installation was not left.
          cases (List.cons.inj hlast).1
          cases ha
        · simp at hlast
      | retry => rcases hlast with ⟨_, _, hlast⟩ | ⟨_, _, _, _, _, hlast⟩ <;> simp at hlast

theorem Ends.fault {last : List Exchange} {f : Fault} {left : List α} {said : List String}
    (h : d.Ends targets last rest (.error f) left said) :
    f = cancelled ∨ (∃ message, f = Script.noAnswer message) ∨
      ∃ place, f = Script.noChoice place := by
  cases h with
  | decided h => cases h <;> exact .inl rfl
  | broken _ hm =>
    cases hm with
    | spent => exact .inr (.inl ⟨_, rfl⟩)
    | strays => exact .inr (.inr ⟨_, rfl⟩)

theorem Course.counts {r : Except Fault Target} {rounds last : List Exchange}
    {early late : List α} {said : List String}
    (h : d.Course targets s r s' rounds last early late rest said) :
    (d.entries s').length + (messages rounds ++ said).length = (d.entries s).length ∨
      d.entries s' = [] ∧ (messages rounds ++ said).length = (d.entries s).length + 1 ∧
        ∃ message, r = .error (Script.noAnswer message) := by
  have hearly := h.says_early.length_eq
  have hlate := h.says_late.length_eq
  have hentries := congrArg List.length h.entries
  have hends := h.ends
  simp only [List.length_append] at hentries ⊢
  generalize d.entries s' = left at hends
  cases hends with
  | decided => omega
  | broken _ hm =>
    simp only [List.length_append, List.length_singleton]
    cases hm with
    | spent =>
      simp only [List.length_nil] at hentries
      exact .inr ⟨rfl, by omega, _, rfl⟩
    | strays =>
      simp only [List.length_cons] at hentries
      omega

/-- A choice comes to an end whatever is in the queue. Its last round decides it, and what was
said before has no bearing on it. -/
theorem chooseTarget_rounds (d : Queued p α) (targets : List Target) (s : π) :
    ∃ rounds last early late rest said,
      d.Course targets s (chooseTarget p targets s).1 (chooseTarget p targets s).2
        rounds last early late rest said ∧
      ((d.entries (chooseTarget p targets s).2).length + (messages rounds ++ said).length =
          (d.entries s).length ∨
        d.entries (chooseTarget p targets s).2 = [] ∧
          (messages rounds ++ said).length = (d.entries s).length + 1 ∧
          ∃ message, (chooseTarget p targets s).1 = .error (Script.noAnswer message)) ∧
      (∀ t, (chooseTarget p targets s).1 = .ok t ↔
        ∃ yes : Answer, yes.truthy = true ∧ last = [picks targets t, confirms t yes]) ∧
      ((chooseTarget p targets s).1 = .error cancelled ↔
        (∃ a : Answer, a.asTarget? = none ∧ last = [offers targets a]) ∨
          ∃ (t : Target) (no again : Answer), no.truthy = false ∧ again.truthy = false ∧
            last = [picks targets t, confirms t no, retries again]) ∧
      (∀ f, (chooseTarget p targets s).1 = .error f → f = cancelled ∨
        (∃ message, f = Script.noAnswer message) ∨ ∃ place, f = Script.noChoice place) ∧
      ∀ (u : π) (rounds' : List Exchange) (early' : List α), Declined targets rounds' →
        d.Says early' rounds' → d.entries u = early' ++ (late ++ rest) →
          (chooseTarget p targets u).1 = (chooseTarget p targets s).1 := by
  have hrun : chooseTarget p targets s =
      ((chooseTarget p targets s).1, (chooseTarget p targets s).2) := rfl
  obtain ⟨rounds, last, early, late, rest, said, hc⟩ := course d hrun
  refine ⟨rounds, last, early, late, rest, said, hc, hc.counts, hc.ends.ok_iff,
    hc.ends.cancelled_iff, ?_, ?_⟩
  · intro f hf
    exact (hf ▸ hc.ends).fault
  · intro u rounds' early' hr hd hu
    obtain ⟨s₁, hs₁, hs⟩ := chooseTarget_declined hc.declined hc.says_early hc.entries
    obtain ⟨u₁, hu₁, hu⟩ := chooseTarget_declined hr hd hu
    rw [hs, hu]
    exact chooseTarget_congr d (hu₁.trans hs₁.symm)

def plainOrg : Target := ⟨"Demo", "demo1", "A demo org", false, none, none⟩

def scratchOrg : Target := ⟨"Demo Scratch", "demo2", "A scratch org", true, none, none⟩

def wavering : Script where
  queue := [.int 0, .bool false, .bool true, .int 1, .bool true, .str "left"]

theorem wavering_chooses : (chooseTarget Script.prompter [plainOrg, scratchOrg] wavering).1 =
    .ok scratchOrg := by
  rw [chooseTarget_of_ok rfl]
  show (chooseTarget Script.prompter [plainOrg, scratchOrg] _).1 = .ok scratchOrg
  rw [chooseTarget_of_ok rfl]
  rfl

/-- The round in which the other org was picked is the last. -/
theorem wavering_rounds : ∃ rounds last early late rest said,
    Script.queued.Course [plainOrg, scratchOrg] wavering
      (chooseTarget Script.prompter [plainOrg, scratchOrg] wavering).1
      (chooseTarget Script.prompter [plainOrg, scratchOrg] wavering).2
      rounds last early late rest said ∧
    ∃ yes : Answer, yes.truthy = true ∧
      last = [picks [plainOrg, scratchOrg] scratchOrg, confirms scratchOrg yes] := by
  obtain ⟨rounds, last, early, late, rest, said, hc, -, hok, -⟩ :=
    chooseTarget_rounds Script.queued [plainOrg, scratchOrg] wavering
  exact ⟨rounds, last, early, late, rest, said, hc, (hok scratchOrg).1 wavering_chooses⟩

end Queued

end Provision.Interview
