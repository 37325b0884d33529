import Provision.Proofs.OutcomeLaws
import Provision.Proofs.Value.DisplayLaws
import Provision.Proofs.Value.EntriesLaws

/-!
# Whose message it is

What nothing has been said of speaks for the last of its parts that failed. So does a
container that such a part has ended (`broken_message`). Either way its message is that
of the last failure among its parts (`Filled.message`).
-/

namespace Provision

-- ---------------------------------------------------------------------------
-- The last of a row
-- ---------------------------------------------------------------------------

inductive Last {α : Type} (p : α → Prop) : List α → α → Prop
  | here {a : α} {as : List α} (h : p a) (hr : ∀ b ∈ as, ¬p b) : Last p (a :: as) a
  | later {a b : α} {as : List α} (h : Last p as a) : Last p (b :: as) a

namespace Last

variable {α : Type} {p : α → Prop} {as bs : List α} {a b : α}

theorem mem (h : Last p as a) : a ∈ as := by
  induction h with
  | here => exact List.mem_cons_self ..
  | later _ ih => exact List.mem_cons_of_mem _ ih

theorem holds (h : Last p as a) : p a := by
  induction h with
  | here h _ => exact h
  | later _ ih => exact ih

theorem of_exists (h : ∃ a ∈ as, p a) : ∃ a, Last p as a := by
  induction as with
  | nil => simp at h
  | cons a as ih =>
    by_cases hr : ∃ b ∈ as, p b
    · obtain ⟨b, hb⟩ := ih hr
      exact ⟨b, .later hb⟩
    · obtain ⟨b, hb, hpb⟩ := h
      obtain rfl | hb := List.mem_cons.1 hb
      · exact ⟨b, .here hpb fun c hc hpc => hr ⟨c, hc, hpc⟩⟩
      · exact absurd ⟨b, hb, hpb⟩ hr

theorem append_left (h : Last p bs a) (as : List α) : Last p (as ++ bs) a := by
  induction as with
  | nil => exact h
  | cons b as ih => exact .later ih

theorem of_append (h : Last p (as ++ bs) a) :
    Last p bs a ∨ Last p as a ∧ ∀ b ∈ bs, ¬p b := by
  induction as with
  | nil => exact .inl h
  | cons c as ih =>
    cases h with
    | here h hr =>
      obtain ⟨has, hbs⟩ := List.forall_mem_append.1 hr
      exact .inr ⟨.here h has, hbs⟩
    | later h => exact (ih h).imp id fun h => ⟨.later h.1, h.2⟩

theorem eq_of_concat (h : Last p (as ++ [b]) a) (hb : p b) : a = b := by
  induction as with
  | nil =>
    cases h with
    | here => rfl
    | later h => cases h
  | cons c as ih =>
    cases h with
    | here _ hr => exact absurd hb (hr b (by simp))
    | later h => exact ih h

end Last

namespace Outcome

variable {o c : Outcome} {cs : List Outcome} {now : Moment} {v : Value} {es : Entries}

-- ---------------------------------------------------------------------------
-- Messages
-- ---------------------------------------------------------------------------

theorem message_eq (o : Outcome) :
    o.message = match o.fault with
      | some f => f.text
      | none =>
        if (o.detail.getD "error_message").truthy then (o.detail.getD "error_message").text
        else (lastMessage? o.children).getD "" := by
  cases o
  rfl

theorem message_of_fault {f : Fault} (h : o.fault = some f) : o.message = f.text := by
  rw [message_eq, h]

theorem message_of_value (hf : o.fault = none) (hv : v.truthy = true)
    (h : o.detail.get? "error_message" = some v) : o.message = v.text := by
  rw [message_eq, hf]
  simp [Entries.getD, h, hv]

theorem lastMessage?_of_last (h : Last Outcome.Bad cs c) :
    lastMessage? cs = some c.message := by
  induction h with
  | @here c cs h hr =>
    have hnone : lastMessage? cs = none := by
      clear h
      induction cs with
      | nil => rfl
      | cons d cs ih =>
        obtain ⟨hd, hcs⟩ := List.forall_mem_cons.1 hr
        simp [lastMessage?, ih hcs, hd]
    simp [lastMessage?, hnone, h]
  | later _ ih => simp [lastMessage?, ih]

structure Unblamed (o : Outcome) : Prop where
  fault : o.fault = none
  detail : o.detail.get? "error_message" = none

namespace Unblamed

theorem begin {name : String} {kind : OutcomeKind} {pol : Policy} :
    (Outcome.begin name kind pol now).Unblamed := ⟨rfl, rfl⟩

theorem withDetail (h : o.Unblamed) (hk : "error_message" ∉ Entries.keys es) :
    (o.withDetail (.dict es)).Unblamed :=
  ⟨h.fault, (Entries.get?_merge_of_not_mem hk).trans h.detail⟩

theorem taking (h : o.Unblamed) (cs : List Outcome) : (o.taking cs).Unblamed := ⟨h.fault, h.detail⟩

theorem message (h : o.Unblamed) : o.message = (lastMessage? o.children).getD "" := by
  rw [message_eq, h.fault]
  simp [Entries.getD, h.detail, Value.truthy]

end Unblamed

theorem withDetail_message (hk : "error_message" ∉ Entries.keys es) :
    (o.withDetail (.dict es)).message = o.message := by
  have hd : (o.withDetail (.dict es)).detail.getD "error_message" =
      o.detail.getD "error_message" :=
    congrArg (fun own => Option.getD own Value.null) (Entries.get?_merge_of_not_mem hk)
  rw [message_eq, message_eq, hd, withDetail_children]
  rfl

theorem close_message (s : Status) : (o.close s v now).message = (o.withDetail v).message := by
  rw [message_eq, message_eq]
  rfl

theorem blame_value_message (hf : o.fault = none) (hv : v.truthy = true) :
    (o.blame (.value v)).message = v.text := by
  have ht : (Value.str v.text).truthy = true := by
    simpa [Value.truthy] using Value.text_ne_empty hv
  rw [blame, if_pos hv]
  exact message_of_value (v := .str v.text) hf ht (Entries.get?_put_self ..)

theorem blame_message {text : String} (hf : o.fault = none) (ht : text ≠ "") :
    (o.blame (.value (.str text))).message = text :=
  blame_value_message hf (by simpa [Value.truthy] using ht)

-- ---------------------------------------------------------------------------
-- Containers
-- ---------------------------------------------------------------------------

/-- A container that one of its parts has ended speaks for that part. -/
theorem broken_message (h : o.Unblamed) (hc : c.status.bad = true) :
    (o.broken c now).message = c.message := by
  have hopen : (o.holding [c]).Unblamed := ⟨h.fault, h.detail⟩
  unfold broken
  rw [close_message]
  cases hf : c.fault with
  | some f =>
    rw [asBlame, hf, message_of_fault hf]
    exact message_of_fault rfl
  | none =>
    have hb : c.asBlame = .value (.str c.message) := by rw [asBlame, hf]
    rw [hb]
    by_cases hm : c.message = ""
    · -- A part without a message leaves it to the container to find that it has none.
      have hone : Last Outcome.Bad [c] c := .here hc (by simp)
      have hlast : Last Outcome.Bad (o.holding [c]).children c := hone.append_left o.children
      have hsame : (o.holding [c]).blame (.value (.str c.message)) = o.holding [c] := by
        simp [blame, hm, Value.truthy]
      rw [hsame, withDetail, hopen.message, lastMessage?_of_last hlast]
      rfl
    · exact blame_message hopen.fault hm

/-- The message of a container is that of the last of its parts that failed. -/
theorem Filled.message {r : Reply} (h : Filled o cs r) (ho : o.Unblamed)
    (hc : Last Outcome.Bad cs c) : r.outcome.message = c.message := by
  cases h with
  | finished _ now =>
    rw [close_message, withDetail, (ho.taking cs).message, taking_children,
      lastMessage?_of_last (hc.append_left o.children)]
    rfl
  | @broken parts last _ hend now =>
    obtain rfl := hc.eq_of_concat (bad_of_ends hend)
    exact broken_message (ho.taking parts) hc.holds

end Outcome

end Provision
