import Provision.Interview.Console
import Provision.Interview.Scripted
import Provision.Interview.Target

/-!
# What is said in interviews

An exchange is a question as it was put, and its answer. `Asked` strings exchanges
together along the states of a prompter, and an interview that succeeds is such a
string (`interview_asked`). The choice of a target is a row of declined rounds and
a last round in which the target was picked and confirmed (`chooseTarget_asked`).
-/

namespace Provision.Interview

open Recipe (Target)

variable {π : Type} {p : Prompter π} {s s' u : π}

structure Exchange where
  question : Question
  message : String
  answer : Answer

/-- Exchanges with a prompter, if there is one, that lead from one state of it to another. -/
inductive Asked (p? : Option (Prompter π)) : π → List Exchange → π → Prop
  | none {s : π} : Asked p? s [] s
  | answered {s s' u : π} {p : Prompter π} {q : Question} {message : String} {a : Answer}
      {log : List Exchange} (hp : p? = some p) (ha : p.ask q message s = (.ok a, s'))
      (h : Asked p? s' log u) : Asked p? s (⟨q, message, a⟩ :: log) u

theorem Asked.append {p? : Option (Prompter π)} {log more : List Exchange} (h : Asked p? s log s')
    (h' : Asked p? s' more u) : Asked p? s (log ++ more) u := by
  induction h with
  | none => exact h'
  | answered hp ha _ ih => exact .answered hp ha (ih h')

inductive Answered : List Question → Answers → List Exchange → Answers → Prop
  | done {answers : Answers} : Answered [] answers [] answers
  | passed {q : Question} {rest : List Question} {answers answers' : Answers}
      {log : List Exchange} (hv : q.visible answers = false)
      (h : Answered rest answers log answers') : Answered (q :: rest) answers log answers'
  | asked {q : Question} {rest : List Question} {answers answers' : Answers}
      {log : List Exchange} {message : String} {a : Answer} (hv : q.visible answers = true)
      (hm : q.message answers = .ok message)
      (h : Answered rest (put q.name a answers) log answers') :
      Answered (q :: rest) answers (⟨q, message, a⟩ :: log) answers'

namespace Answered

variable {q : Question} {rest : List Question} {answers answers' : Answers} {log : List Exchange}

theorem of_hidden (h : Answered (q :: rest) answers log answers')
    (hv : q.visible answers = false) : Answered rest answers log answers' := by
  cases h with
  | passed _ h => exact h
  | asked hv' => exact absurd hv (by simp [hv'])

theorem of_visible (h : Answered (q :: rest) answers log answers')
    (hv : q.visible answers = true) :
    ∃ message a log', log = ⟨q, message, a⟩ :: log' ∧ q.message answers = .ok message ∧
      Answered rest (put q.name a answers) log' answers' := by
  cases h with
  | passed hv' => exact absurd hv (by simp [hv'])
  | asked _ hm h => exact ⟨_, _, _, rfl, hm, h⟩

end Answered

theorem askOne_ok {q : Question} {answers : Answers} {a : Answer}
    (h : askOne p q answers s = (.ok a, s')) :
    ∃ message, q.message answers = .ok message ∧ p.ask q message s = (.ok a, s') := by
  unfold askOne at h
  split at h
  · simp at h
  · next message hm =>
    split at h
    · simp at h
    · exact ⟨message, hm, h⟩

theorem askAll_asked {questions : List Question} {answers answers' : Answers}
    (h : askAll p questions answers s = (.ok answers', s')) :
    ∃ log, Asked (some p) s log s' ∧ Answered questions answers log answers' := by
  induction questions generalizing answers s with
  | nil =>
    cases h
    exact ⟨[], .none, .done⟩
  | cons q rest ih =>
    unfold askAll at h
    split at h
    · next hv =>
      split at h
      · simp at h
      · next a t hq =>
        obtain ⟨message, hm, ha⟩ := askOne_ok hq
        obtain ⟨log, hlog, hrest⟩ := ih h
        exact ⟨_, .answered rfl ha hlog, .asked hv hm hrest⟩
    · next hv =>
      obtain ⟨log, hlog, hrest⟩ := ih h
      exact ⟨log, hlog, .passed (Bool.eq_false_iff.2 hv) hrest⟩

theorem interview_asked {questions : List Question} {answers : Answers}
    (h : interview p questions s = (.ok answers, s')) :
    ∃ log, Asked (some p) s log s' ∧ Answered questions [] log answers := askAll_asked h

def Question.Sound (q : Question) : Prop :=
  (∀ answers, ∃ message, q.message answers = .ok message) ∧ ∀ name, q.kind ≠ .other name

/-- A fault that a prompter comes up with instead of an answer. -/
def Prompter.Fails (p : Prompter π) (f : Fault) : Prop :=
  ∃ question message s, (p.ask question message s).1 = .error f

theorem askAll_fails {questions : List Question} (hq : ∀ q ∈ questions, q.Sound)
    {answers : Answers} {f : Fault} (h : askAll p questions answers s = (.error f, s')) :
    p.Fails f := by
  induction questions generalizing answers s with
  | nil => cases h
  | cons q rest ih =>
    obtain ⟨⟨hmessage, hkind⟩, hrest⟩ := List.forall_mem_cons.1 hq
    unfold askAll at h
    split at h
    · obtain ⟨message, hm⟩ := hmessage answers
      split at h
      · next g t ha =>
        cases h
        unfold askOne at ha
        rw [hm] at ha
        dsimp only at ha
        split at ha
        · next name hk => exact absurd hk (hkind name)
        · exact ⟨q, message, s, congrArg Prod.fst ha⟩
      · exact ih hrest h
    · exact ih hrest h

-- ---------------------------------------------------------------------------
-- Choosing a target
-- ---------------------------------------------------------------------------

def picks (targets : List Target) (t : Target) : Exchange :=
  ⟨pickQuestion targets, "Please select the installation target for this demo", .target t⟩

def confirms (t : Target) (a : Answer) : Exchange :=
  if t.isScratchOrg then ⟨confirmQuestion deletionMessage (·.isScratchOrg), deletionMessage t, a⟩
  else ⟨confirmQuestion validationMessage (!·.isScratchOrg), validationMessage t, a⟩

def retries (a : Answer) : Exchange :=
  ⟨retryQuestion, "Would you like to select a different demo target?", a⟩

inductive Declined (targets : List Target) : List Exchange → Prop
  | none : Declined targets []
  | round {t : Target} {no again : Answer} {log : List Exchange} (hn : no.truthy = false)
      (ha : again.truthy = true) (h : Declined targets log) :
      Declined targets (picks targets t :: confirms t no :: retries again :: log)

inductive Round (targets : List Target) (t : Target) (answers : Answers) : List Exchange → Prop
  | agreed {yes : Answer} (ha : agreed answers "proceed" = true) (hy : yes.truthy = true) :
      Round targets t answers [picks targets t, confirms t yes]
  | declined {no again : Answer} (ha : agreed answers "proceed" = false) (hn : no.truthy = false)
      (hr : agreed answers "tryAgain" = again.truthy) :
      Round targets t answers [picks targets t, confirms t no, retries again]

theorem chosenTarget?_picked (a : Answer) (more : Answers) :
    chosenTarget? (("targetOrg", a) :: more) = a.asTarget? := rfl

theorem Answered.confirmed {t : Target} {answers : Answers} {log : List Exchange}
    (h : Answered [confirmQuestion deletionMessage (·.isScratchOrg),
      confirmQuestion validationMessage (!·.isScratchOrg), retryQuestion]
      [("targetOrg", .target t)] log answers) :
    ∃ a rest, log = confirms t a :: rest ∧
      Answered [retryQuestion] [("targetOrg", .target t), ("proceed", a)] rest answers := by
  cases hs : t.isScratchOrg with
  | true =>
    obtain ⟨message, a, rest, rfl, hm, h₁⟩ := h.of_visible hs
    cases hm
    refine ⟨a, rest, ?_, h₁.of_hidden (congrArg not hs)⟩
    simp [confirms, hs, chosenTarget?_picked, Answer.asTarget?]
  | false =>
    obtain ⟨message, a, rest, rfl, hm, h₁⟩ := (h.of_hidden hs).of_visible (congrArg not hs)
    cases hm
    refine ⟨a, rest, ?_, h₁⟩
    simp [confirms, hs, chosenTarget?_picked, Answer.asTarget?]

theorem Answered.round {targets : List Target} {t : Target} {answers : Answers}
    {log : List Exchange} (h : Answered (targetQuestions targets) [] log answers)
    (ht : chosenTarget? answers = some t) : Round targets t answers log := by
  obtain ⟨message, picked, rest, rfl, hm, h₁⟩ := h.of_visible rfl
  cases hm
  cases picked with
  | target t' =>
    obtain ⟨a, rest, rfl, h₂⟩ := h₁.confirmed
    cases ha : a.truthy with
    | true =>
      have hv : retryQuestion.visible [("targetOrg", .target t'), ("proceed", a)] = false :=
        congrArg not ha
      cases h₂.of_hidden hv
      cases ht
      exact .agreed ha ha
    | false =>
      have hv : retryQuestion.visible [("targetOrg", .target t'), ("proceed", a)] = true :=
        congrArg not ha
      obtain ⟨message, again, rest, rfl, hm, h₃⟩ := h₂.of_visible hv
      cases hm
      cases h₃
      cases ht
      exact .declined ha ha rfl
  | _ =>
    -- Nothing more is asked when no target was picked.
    cases ((h₁.of_hidden rfl).of_hidden rfl).of_hidden rfl
    cases ht

/-- A target that is chosen was picked and confirmed in the last round. -/
theorem chooseTarget_asked {targets : List Target} {t : Target}
    (h : chooseTarget p targets s = (.ok t, s')) :
    ∃ rounds yes, Asked (some p) s (rounds ++ [picks targets t, confirms t yes]) s' ∧
      Declined targets rounds ∧ yes.truthy = true := by
  fun_induction chooseTarget p targets s with
  | case1 => cases h
  | case2 => cases h
  | case3 s answers s₁ hi u hu ha =>
    cases h
    obtain ⟨log, hlog, hans⟩ := interview_asked hi
    cases hans.round hu with
    | agreed _ hy => exact ⟨[], _, hlog, .none, hy⟩
    | declined hn => simp [ha] at hn
  | case4 s answers s₁ hi u hu ha hr ih =>
    obtain ⟨log, hlog, hans⟩ := interview_asked hi
    obtain ⟨rounds, yes, hrest, hdecl, hy⟩ := ih h
    cases hans.round hu with
    | agreed hn => simp [hn] at ha
    | @declined no again _ hn hagain =>
      refine ⟨picks targets u :: confirms u no :: retries again :: rounds, yes, ?_,
        .round hn (hagain ▸ hr) hdecl, hy⟩
      exact hlog.append hrest
  | case5 => cases h

def consents (t : Target) (a : Answer) : Exchange := ⟨refreshQuestion t, deletionMessage t, a⟩

theorem confirmRefresh_asked {t : Target} (h : confirmRefresh p t s = (.ok (), s')) :
    ∃ yes, Asked (some p) s [consents t yes] s' ∧ yes.truthy = true := by
  unfold confirmRefresh at h
  split at h
  · cases h
  · next answers s₁ hi =>
    split at h
    · next ha =>
      cases h
      obtain ⟨log, hlog, hans⟩ := interview_asked hi
      obtain ⟨message, yes, rest, rfl, hm, h₁⟩ := hans.of_visible rfl
      cases hm
      cases h₁
      exact ⟨yes, hlog, ha⟩
    · cases h

-- ---------------------------------------------------------------------------
-- How a choice fails
-- ---------------------------------------------------------------------------

theorem targetQuestions_sound (targets : List Target) :
    ∀ q ∈ targetQuestions targets, q.Sound := by
  intro q hq
  simp only [targetQuestions, List.mem_cons, List.not_mem_nil, or_false] at hq
  rcases hq with rfl | rfl | rfl | rfl <;>
    exact ⟨fun _ => ⟨_, rfl⟩, fun _ h => by cases h⟩

/-- No target is chosen when the installation is called off, or when the prompter fails. -/
theorem chooseTarget_fails {targets : List Target} {f : Fault}
    (h : chooseTarget p targets s = (.error f, s')) : f = cancelled ∨ p.Fails f := by
  fun_induction chooseTarget p targets s with
  | case1 s g s₁ hi =>
    cases h
    exact .inr (askAll_fails (targetQuestions_sound targets) hi)
  | case2 =>
    cases h
    exact .inl rfl
  | case3 => cases h
  | case4 s answers s₁ hi u hu ha hr ih => exact ih h
  | case5 =>
    cases h
    exact .inl rfl

theorem confirmRefresh_fails {t : Target} {f : Fault}
    (h : confirmRefresh p t s = (.error f, s')) : f = cancelled ∨ p.Fails f := by
  unfold confirmRefresh at h
  split at h
  · next g s₁ hi =>
    cases h
    refine .inr (askAll_fails (fun q hq => ?_) hi)
    obtain rfl := List.mem_singleton.1 hq
    exact ⟨fun _ => ⟨_, rfl⟩, fun _ h => by cases h⟩
  · split at h
    · cases h
    · cases h
      exact .inl rfl

-- ---------------------------------------------------------------------------
-- What a prompter may answer
-- ---------------------------------------------------------------------------

/-- A prompter that keeps to the choices: to a list it answers with the value of one of them, and
to a checklist with the values of several. -/
structure Prompter.Obedient (p : Prompter π) : Prop where
  list : ∀ {q : Question} {message : String} {s s' : π} {a : Answer}, q.kind = .list →
    p.ask q message s = (.ok a, s') → ∃ c ∈ q.choices, a = c.value
  checkbox : ∀ {q : Question} {message : String} {s s' : π} {a : Answer}, q.kind = .checkbox →
    p.ask q message s = (.ok a, s') →
      ∃ items, a = .several items ∧ ∀ i ∈ items, ∃ c ∈ q.choices, i = c.value

/-- To a list a prompter answers with no target that is not among the choices. -/
def Prompter.Faithful (p : Prompter π) : Prop :=
  ∀ {q : Question} {message : String} {s s' : π} {t : Target}, q.kind = .list →
    p.ask q message s = (.ok (.target t), s') → ∃ c ∈ q.choices, c.value = .target t

theorem Prompter.Obedient.faithful (h : p.Obedient) : p.Faithful := by
  intro q message s s' t hq ha
  obtain ⟨c, hc, hv⟩ := h.list hq ha
  exact ⟨c, hc, hv.symm⟩

theorem mem_targets_of_mem_choices {targets : List Target} {t : Target} {c : Choice}
    (hc : c ∈ (pickQuestion targets).choices) (hv : c.value = .target t) : t ∈ targets := by
  rcases List.mem_append.1 hc with hc | hc
  · obtain ⟨t', ht, rfl⟩ := List.mem_map.1 hc
    cases hv
    exact ht
  · rw [List.mem_singleton.1 hc] at hv
    cases hv

theorem Asked.mem_targets {p? : Option (Prompter π)} {targets : List Target} {t : Target}
    {log more : List Exchange} (h : Asked p? s (log ++ picks targets t :: more) u)
    (hp : ∀ p, p? = some p → p.Faithful) : t ∈ targets := by
  induction log generalizing s with
  | nil =>
    cases h with
    | answered hp' ha _ =>
      obtain ⟨c, hc, hv⟩ := hp _ hp' rfl ha
      exact mem_targets_of_mem_choices hc hv
  | cons x log ih =>
    cases h with
    | answered _ _ h => exact ih h

theorem Script.prompter_faithful : Script.prompter.Faithful := by
  intro q message s s' t hq h
  have h : Script.ask q message s = (.ok (.target t), s') := h
  unfold Script.ask at h
  split at h
  · cases h
  · next v rest hv =>
    have hm : Script.meaning q v = .ok (.target t) := congrArg Prod.fst h
    cases v with
    | int n =>
      simp only [Script.meaning, hq, Script.choiceAt] at hm
      split at hm
      · next c hc =>
        obtain ⟨-, hc⟩ := Option.ite_none_left_eq_some.1 hc
        exact ⟨c, List.mem_of_getElem? hc, Except.ok.inj hm⟩
      · cases hm
    | _ =>
      simp only [Script.meaning, hq] at hm
      cases hm

theorem Console.readWith_ok {α : Type} {prompt : String} {read : String → Except String α}
    {lines : List String} {c : Console} {a : α} (h : (readWith prompt read lines c).1 = .ok a) :
    ∃ line, read line = .ok a := by
  induction lines generalizing c with
  | nil => cases h
  | cons line rest ih =>
    simp only [readWith] at h
    split at h
    · next b hb => exact ⟨line, by rw [hb, Except.ok.inj h]⟩
    · obtain ⟨shown, he⟩ := showing_eq_ok h
      rw [he] at h
      exact ih h

theorem Console.asking_ok {α : Type} {c : Console} {head : List String} {prompt : String}
    {read : String → Except String α} {answer : α → Answer} {a : Answer} {c' : Console}
    (h : c.asking head prompt read answer = (.ok a, c')) :
    ∃ line x, read line = .ok x ∧ a = answer x := by
  have hfst := congrArg Prod.fst h
  simp only [Console.asking] at hfst
  cases hr : (c.showing (head ++ [Terminal.shown c.color prompt])
      (readWith (Terminal.shown c.color prompt) read c.lines)).1 with
  | error f =>
    rw [hr] at hfst
    cases hfst
  | ok x =>
    rw [hr] at hfst
    obtain ⟨shown, he⟩ := showing_eq_ok hr
    rw [he] at hr
    obtain ⟨line, hline⟩ := readWith_ok hr
    exact ⟨line, x, hline, (Except.ok.inj hfst).symm⟩

theorem Console.readChoice_ok {color : Bool} {n k : Nat} {line : String}
    (h : readChoice color n line = .ok k) : 1 ≤ k ∧ k ≤ n := by
  unfold readChoice at h
  split at h
  · cases h
  · split at h
    · cases h
      omega
    · cases h

theorem Console.readChecks_ok {color : Bool} {q : Question} {line : String} {items : List Answer}
    (h : readChecks color q line = .ok items) : ∀ i ∈ items, ∃ c ∈ q.choices, i = c.value := by
  intro i hi
  unfold readChecks at h
  split at h
  · cases h
    obtain ⟨c, hc, rfl⟩ := List.mem_map.1 hi
    exact ⟨c, (List.mem_filter.1 hc).1, rfl⟩
  · split at h
    · cases h
      obtain ⟨k, -, hk⟩ := List.mem_filterMap.1 hi
      obtain ⟨c, hc, rfl⟩ := Option.map_eq_some_iff.1 hk
      exact ⟨c, List.mem_of_getElem? hc, rfl⟩
    · cases h

theorem Console.prompter_obedient : Console.prompter.Obedient where
  list {q message s s' a} hq h := by
    have h : Console.ask q message s = (.ok a, s') := h
    rw [Console.ask, hq] at h
    obtain ⟨line, k, hline, rfl⟩ := Console.asking_ok h
    obtain ⟨hlo, hhi⟩ := Console.readChoice_ok hline
    have hk : k - 1 < q.choices.length := by omega
    exact ⟨q.choices[k - 1], List.getElem_mem hk, by rw [List.getElem?_eq_getElem hk]; rfl⟩
  checkbox {q message s s' a} hq h := by
    have h : Console.ask q message s = (.ok a, s') := h
    rw [Console.ask, hq] at h
    obtain ⟨line, items, hline, rfl⟩ := Console.asking_ok h
    exact ⟨items, rfl, Console.readChecks_ok hline⟩

end Provision.Interview
