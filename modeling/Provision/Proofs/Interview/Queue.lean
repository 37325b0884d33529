import Mathlib.Data.List.Forall2
import Provision.Proofs.Interview.Exchange

/-!
# Answers from a queue

A prompter that answers from a queue gives one entry for each question, and then has
nothing more to say (`Queued`). What an interview comes to is a matter of the entries
alone (`Queued.askAll_congr`). It uses up those that answer its questions
(`Queued.says_of_asked`), and where it fails the queue was spent or had an entry of no
use (`Queued.misses_of_ask`).
-/

namespace Provision.Interview

variable {π α : Type} {p : Prompter π} {s s' t u : π}

/-- A prompter that answers from a queue, whatever the entries of the queue are. -/
structure Queued (p : Prompter π) (α : Type) where
  entries : π → List α
  /-- The messages asked, first asked first. -/
  asked : π → List String
  meaning : Question → α → Except Fault Answer
  ask_fst : ∀ q message s, (p.ask q message s).1 = match entries s with
    | [] => .error (Script.noAnswer message)
    | e :: _ => meaning q e
  ask_entries : ∀ q message s, entries (p.ask q message s).2 = (entries s).tail
  ask_asked : ∀ q message s, asked (p.ask q message s).2 = asked s ++ [message]
  confirm : ∀ {q : Question} (e : α), q.kind = .confirm →
    ∃ b, meaning q e = .ok (.value (.bool b))
  list : ∀ {q : Question} {e : α} {f : Fault}, q.kind = .list → meaning q e = .error f →
    ∃ place, f = Script.noChoice place

def Script.queued : Queued Script.prompter Value where
  entries := Script.queue
  asked := Script.asked
  meaning := Script.meaning
  ask_fst q message s := by
    change (Script.ask q message s).1 = _
    unfold Script.ask
    cases s.queue <;> rfl
  ask_entries q message s := by
    change (Script.ask q message s).2.queue = _
    unfold Script.ask
    cases s.queue <;> rfl
  ask_asked q message s := by
    change (Script.ask q message s).2.asked = _
    unfold Script.ask
    cases s.queue <;> rfl
  confirm e hq := ⟨e.truthy, by simp [Script.meaning, hq]⟩
  list {q e f} hq h := by
    cases e with
    | int n =>
      simp only [Script.meaning, hq, Script.choiceAt] at h
      split at h
      · cases h
      · exact ⟨n, (Except.error.inj h).symm⟩
    | _ => simp [Script.meaning, hq] at h

-- ---------------------------------------------------------------------------
-- Questions that stay open
-- ---------------------------------------------------------------------------

inductive Reached : List Question → Answers → List Exchange → Question → String → Prop
  | here {q : Question} {rest : List Question} {answers : Answers} {message : String}
      (hv : q.visible answers = true) (hm : q.message answers = .ok message) :
      Reached (q :: rest) answers [] q message
  | passed {q q' : Question} {rest : List Question} {answers : Answers} {log : List Exchange}
      {message : String} (hv : q.visible answers = false)
      (h : Reached rest answers log q' message) : Reached (q :: rest) answers log q' message
  | asked {q q' : Question} {rest : List Question} {answers : Answers} {log : List Exchange}
      {message message' : String} {a : Answer} (hv : q.visible answers = true)
      (hm : q.message answers = .ok message)
      (h : Reached rest (put q.name a answers) log q' message') :
      Reached (q :: rest) answers (⟨q, message, a⟩ :: log) q' message'

namespace Reached

variable {q q' : Question} {rest : List Question} {answers : Answers} {log : List Exchange}
  {message : String}

theorem of_hidden (h : Reached (q :: rest) answers log q' message)
    (hv : q.visible answers = false) : Reached rest answers log q' message := by
  cases h with
  | here hv' => exact absurd hv (by simp [hv'])
  | passed _ h => exact h
  | asked hv' => exact absurd hv (by simp [hv'])

theorem of_visible (h : Reached (q :: rest) answers log q' message)
    (hv : q.visible answers = true) :
    (log = [] ∧ q' = q ∧ q.message answers = .ok message) ∨
      ∃ message' a log', log = ⟨q, message', a⟩ :: log' ∧ q.message answers = .ok message' ∧
        Reached rest (put q.name a answers) log' q' message := by
  cases h with
  | here _ hm => exact .inl ⟨rfl, rfl, hm⟩
  | passed hv' => exact absurd hv (by simp [hv'])
  | asked _ hm h => exact .inr ⟨_, _, _, rfl, hm, h⟩

end Reached

/-- An interview fails at a question for which the prompter has no answer. -/
theorem askAll_reached {questions : List Question} (hq : ∀ q ∈ questions, q.Sound)
    {answers : Answers} {f : Fault} (h : askAll p questions answers s = (.error f, s')) :
    ∃ log q message t, Asked (some p) s log t ∧ Reached questions answers log q message ∧
      p.ask q message t = (.error f, s') := by
  induction questions generalizing answers s with
  | nil => cases h
  | cons q rest ih =>
    obtain ⟨⟨hmessage, hkind⟩, hrest⟩ := List.forall_mem_cons.1 hq
    unfold askAll at h
    split at h
    · next hv =>
      split at h
      · next g t ha =>
        cases h
        obtain ⟨message, hm⟩ := hmessage answers
        unfold askOne at ha
        rw [hm] at ha
        dsimp only at ha
        split at ha
        · next name hk => exact absurd hk (hkind name)
        · exact ⟨[], q, message, s, .none, .here hv hm, ha⟩
      · next a t ha =>
        obtain ⟨message, hm, hask⟩ := askOne_ok ha
        obtain ⟨log, q', message', u, hlog, hr, hf⟩ := ih hrest h
        exact ⟨_, q', message', u, .answered rfl hask hlog, .asked hv hm hr, hf⟩
    · next hv =>
      obtain ⟨log, q', message', u, hlog, hr, hf⟩ := ih hrest h
      exact ⟨log, q', message', u, hlog, .passed (Bool.eq_false_iff.2 hv) hr, hf⟩

-- ---------------------------------------------------------------------------
-- Entries and what they say
-- ---------------------------------------------------------------------------

def messages (log : List Exchange) : List String := log.map (·.message)

namespace Queued

variable (d : Queued p α)

def Says (entries : List α) (log : List Exchange) : Prop :=
  List.Forall₂ (fun e x => d.meaning x.question e = .ok x.answer) entries log

/-- A question for which a queue has no entry, or one of no use, and what is left of the queue. -/
inductive Misses (x : Exchange) : List α → Fault → List α → Prop
  | spent : Misses x [] (Script.noAnswer x.message) []
  | strays {e : α} {rest : List α} {place : Int} (hk : x.question.kind = .list)
      (h : d.meaning x.question e = .error (Script.noChoice place)) :
      Misses x (e :: rest) (Script.noChoice place) rest

variable {d} {q : Question} {message : String} {a : Answer} {f : Fault} {e : α}
  {entries rest : List α} {log : List Exchange}

theorem ask_ok (h : p.ask q message s = (.ok a, t)) :
    ∃ e, d.entries s = e :: d.entries t ∧ d.meaning q e = .ok a ∧
      d.asked t = d.asked s ++ [message] := by
  have hfst := d.ask_fst q message s
  have hentries := d.ask_entries q message s
  have hasked := d.ask_asked q message s
  rw [h] at hfst hentries hasked
  cases he : d.entries s with
  | nil =>
    rw [he] at hfst
    cases hfst
  | cons e rest =>
    rw [he] at hfst hentries
    exact ⟨e, by rw [hentries]; rfl, hfst.symm, hasked⟩

theorem says_of_asked (h : Asked (some p) s log t) :
    ∃ entries, d.Says entries log ∧ d.entries s = entries ++ d.entries t ∧
      d.asked t = d.asked s ++ messages log := by
  induction h with
  | none => exact ⟨[], .nil, rfl, (List.append_nil _).symm⟩
  | @answered s s' u p' q message a log hp ha _ ih =>
    cases hp
    obtain ⟨e, he, hm, hasked⟩ := ask_ok (d := d) ha
    obtain ⟨entries, hs, hentries, hlog⟩ := ih
    refine ⟨e :: entries, .cons hm hs, by rw [he, hentries]; rfl, ?_⟩
    rw [hlog, hasked, List.append_assoc]
    rfl

theorem misses_of_ask {x : Exchange} (hk : x.question.kind = .list ∨ x.question.kind = .confirm)
    (h : p.ask x.question x.message s = (.error f, t)) :
    d.Misses x (d.entries s) f (d.entries t) ∧ d.asked t = d.asked s ++ [x.message] := by
  have hfst := d.ask_fst x.question x.message s
  have hentries := d.ask_entries x.question x.message s
  have hasked := d.ask_asked x.question x.message s
  rw [h] at hfst hentries hasked
  refine ⟨?_, hasked⟩
  cases he : d.entries s with
  | nil =>
    rw [he] at hfst hentries
    cases hfst
    rw [hentries]
    exact .spent
  | cons e rest =>
    rw [he] at hfst hentries
    rw [hentries]
    rcases hk with hk | hk
    · obtain ⟨place, rfl⟩ := d.list hk hfst.symm
      exact .strays hk hfst.symm
    · obtain ⟨b, hb⟩ := d.confirm e hk
      cases hfst.trans hb

-- ---------------------------------------------------------------------------
-- Two queues
-- ---------------------------------------------------------------------------

/-- What an interview comes to is a matter of the entries. -/
theorem askAll_congr (d : Queued p α) (questions : List Question) (answers : Answers)
    (h : d.entries s = d.entries u) :
    (askAll p questions answers s).1 = (askAll p questions answers u).1 ∧
      d.entries (askAll p questions answers s).2 = d.entries (askAll p questions answers u).2 := by
  induction questions generalizing answers s u with
  | nil => exact ⟨rfl, h⟩
  | cons q rest ih =>
    unfold askAll
    split
    · have hone : (askOne p q answers s).1 = (askOne p q answers u).1 ∧
          d.entries (askOne p q answers s).2 = d.entries (askOne p q answers u).2 := by
        unfold askOne
        split
        · exact ⟨rfl, h⟩
        · split
          · exact ⟨rfl, h⟩
          · simp only [d.ask_fst, d.ask_entries, h, and_self]
      generalize hs : askOne p q answers s = x at hone
      generalize hu : askOne p q answers u = y at hone
      obtain ⟨r, s'⟩ := x
      obtain ⟨r', u'⟩ := y
      obtain ⟨rfl, hentries⟩ := hone
      cases r with
      | error f => exact ⟨rfl, hentries⟩
      | ok a => exact ih _ hentries
    · exact ih _ h

theorem interview_congr (d : Queued p α) {questions : List Question} {r : Except Fault Answers}
    (h : d.entries s = d.entries u) (hs : interview p questions s = (r, s')) :
    ∃ u', interview p questions u = (r, u') ∧ d.entries s' = d.entries u' := by
  obtain ⟨hr, hentries⟩ := askAll_congr d questions [] h
  rw [interview] at hs
  rw [hs] at hr hentries
  exact ⟨(interview p questions u).2, Prod.ext hr.symm rfl, hentries⟩

theorem askAll_says {questions : List Question} (hq : ∀ q ∈ questions, q.Sound)
    {answers answers' : Answers} (h : Answered questions answers log answers')
    (hd : d.Says entries log) (hs : d.entries s = entries ++ rest) :
    ∃ s', askAll p questions answers s = (.ok answers', s') ∧ d.entries s' = rest := by
  induction h generalizing entries s with
  | done =>
    cases hd
    exact ⟨s, rfl, hs⟩
  | passed hv _ ih =>
    unfold askAll
    simp only [hv, Bool.false_eq_true, ↓reduceIte]
    exact ih (List.forall_mem_cons.1 hq).2 hd hs
  | @asked q _ answers _ _ message a hv hm _ ih =>
    obtain ⟨⟨-, hkind⟩, hrest⟩ := List.forall_mem_cons.1 hq
    cases hd with
    | @cons e _ entries _ he hd =>
      have hask : p.ask q message s = (.ok a, (p.ask q message s).2) := by
        refine Prod.ext ?_ rfl
        rw [d.ask_fst, hs]
        exact he
      have hone : askOne p q answers s = (.ok a, (p.ask q message s).2) := by
        unfold askOne
        rw [hm]
        dsimp only
        split
        · next name hk => exact absurd hk (hkind name)
        · exact hask
      have hnext : d.entries (p.ask q message s).2 = entries ++ rest := by
        rw [d.ask_entries, hs]
        rfl
      unfold askAll
      simp only [hv, ↓reduceIte, hone]
      exact ih hrest hd hnext

theorem Says.length_eq (h : d.Says entries log) : entries.length = (messages log).length := by
  simpa [messages] using List.Forall₂.length_eq h

end Queued

end Provision.Interview
