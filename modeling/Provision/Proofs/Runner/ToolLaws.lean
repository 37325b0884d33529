import Provision.Runner.Tool

/-!
# Where the outcome of a run comes from

A run of the tool has an outcome only if its process was launched and what it printed could be
read. Then it is the report on a process that was not done in time or on one that has ended
(`reported_of_run`).
-/

namespace Provision.Tool

open Text (trim decodeUtf8Lenient)

inductive Reported (t : Tool) (c : Command) (now : Moment) : Ending → Outcome → Prop
  | overdue {elapsed : Float} :
    Reported t c now (.overdue elapsed)
      (t.timedOut c (begun c (c.line t.program) now) (now.after elapsed)).1
  | ended {output errors : List UInt8} {code : Int} {elapsed : Float} {parsed : Entries}
    (hp : Command.parseOutput (decodeUtf8Lenient output) = .ok parsed) :
    Reported t c now (.ended output errors code elapsed)
      (judged c (begun c (c.line t.program) now) parsed (trim (decodeUtf8Lenient errors)) code
        (now.after elapsed)).1

variable {t : Tool} {c : Command} {now : Moment} {objection : Objection String}
  {log : List ShellEvent} {o : Outcome} {v w : Value} {ws : List Value} {text : String}

theorem begun_open (c : Command) (line : String) (now : Moment) :
    (begun c line now).finalized = false := rfl

theorem close_ok {last : String} {reply : Runner.Reply (List ShellEvent)}
    (h : (close objection last reply).result = .ok o) : reply.result = .ok o := by
  unfold close at h
  split at h
  · cases h
  · exact h

theorem reported_of_run (h : (t.run c now objection log).result = .ok o) :
    Reported t c now (t.ending (c.line t.program)) o := by
  unfold run at h
  dsimp only at h
  split at h
  · cases h
  · split at h
    · cases h
    · next hend =>
      rw [hend, ← Except.ok.inj (close_ok h)]
      exact .overdue
    · next hend =>
      split at h
      · cases h
      · next hp =>
        rw [hend, ← Except.ok.inj (close_ok h)]
        exact .ended hp

theorem opening_heard (c : Command) : Objection.never.taken (opening c) = (opening c, none) :=
  Objection.taken_of_forall fun _ _ => rfl

-- ---------------------------------------------------------------------------
-- The first that is given
-- ---------------------------------------------------------------------------

theorem truthy_str_iff : (Value.str text).truthy = true ↔ text ≠ "" := by
  simp [Value.truthy]

theorem firstGiven_of_truthy (h : v.truthy = true) : firstGiven v (w :: ws) = v := if_pos h

theorem firstGiven_of_not_truthy (h : v.truthy = false) :
    firstGiven v (w :: ws) = firstGiven w ws :=
  if_neg (ne_true_of_eq_false h)

theorem firstGiven_str (h : text ≠ "") (v : Value) : firstGiven (.str text) [v] = .str text :=
  firstGiven_of_truthy (truthy_str_iff.2 h)

end Provision.Tool
