import Provision.Interview.Console
import Provision.Interview.Scripted
import Provision.Proofs.Terminal.ScalarLaws

/-!
# Accepting the defaults

To a checklist there is an answer that leaves everything as it is: null in a script,
and a blank line on a terminal. It stands for the choices that are checked from the
start.
-/

namespace Provision.Interview

open Text (Scalar scalar_of_ascii)
open Terminal

theorem Script.ask_null {q : Question} {message : String} {s : Script} {rest : List Value}
    (hk : q.kind = .checkbox) (hs : s.queue = .null :: rest) :
    Script.prompter.ask q message s = (.ok (.several q.preset), ⟨rest, s.asked ++ [message]⟩) := by
  change Script.ask q message s = _
  simp [Script.ask, hs, Script.meaning, hk]

namespace Console

theorem toString_scalar (n : Nat) : Scalar (toString n).toList := by
  change Scalar (String.ofList (Nat.toDigits 10 n)).toList
  rw [String.toList_ofList]
  exact scalar_of_ascii (Decimal.toDigits_ascii n)

theorem plainLine_hasSurrogate (color : Bool) {text : String} (h : Scalar text.toList) :
    Text.hasSurrogate (plainLine color text) = false := by
  refine hasSurrogate_shown color ?_
  rw [String.toList_append]
  exact h.append (scalar_of_ascii (by decide))

theorem csi_scalar (code : Nat) : Scalar (csi code).toList := by
  simp only [csi, String.toList_append]
  exact ((scalar_of_ascii (by decide)).append (toString_scalar code)).append
    (scalar_of_ascii (by decide))

theorem shownLine_hasSurrogate (color : Bool) (style : Style) {text : String}
    (h : Scalar text.toList) : Text.hasSurrogate (shownLine color style text) = false := by
  have hswitch (on : Bool) (code : Nat) : Scalar (if on then csi code else "").toList := by
    split
    · exact csi_scalar code
    · exact .nil
  refine hasSurrogate_shown color ?_
  simp only [Style.apply, String.toList_append]
  refine ((((Scalar.append ?_ (hswitch style.bold 1)).append (hswitch style.dim 2)).append
    h).append (csi_scalar 0)).append (scalar_of_ascii (by decide))
  split
  · exact .nil
  · exact csi_scalar _

theorem checkLine_scalar (i : Nat) {c : Choice} (h : Scalar c.name.toList) :
    Scalar (checkLine i c).toList := by
  have hbox : Scalar (if c.checked then "x" else " ").toList := by
    split <;> exact scalar_of_ascii (by decide)
  have hopen : Scalar "  [".toList := scalar_of_ascii (by decide)
  have hclose : Scalar "] ".toList := scalar_of_ascii (by decide)
  have hnumber : Scalar ") ".toList := scalar_of_ascii (by decide)
  unfold checkLine
  simp only [String.toList_append]
  exact ((((hopen.append hbox).append hclose).append (toString_scalar i)).append hnumber).append h

theorem numbered_hasSurrogate (color : Bool) {i : Nat} {choices : List Choice}
    (h : ∀ c ∈ choices, Scalar c.name.toList) :
    ∀ text ∈ numbered color checkLine i choices, Text.hasSurrogate text = false := by
  induction choices generalizing i with
  | nil => simp [numbered]
  | cons c rest ih =>
    obtain ⟨hc, hrest⟩ := List.forall_mem_cons.1 h
    exact List.forall_mem_cons.2
      ⟨plainLine_hasSurrogate color (checkLine_scalar i hc), ih hrest⟩

theorem asking_line {α : Type} {c : Console} {head : List String} {prompt : String}
    {read : String → Except String α} {answer : α → Answer} {line : String} {rest : List String}
    {a : α} (hw : ∀ text ∈ head ++ [Terminal.shown c.color prompt], Text.hasSurrogate text = false)
    (hl : c.lines = line :: rest) (hr : read line = .ok a) :
    ∃ c', c.asking head prompt read answer = (.ok (answer a), c') := by
  simp only [asking, showing, written_eq_join hw, hl, readWith, hr]
  exact ⟨_, rfl⟩

theorem checklist_hasSurrogate (color : Bool) {q : Question} {message : String}
    (hm : Scalar message.toList) (hq : ∀ choice ∈ q.choices, Scalar choice.name.toList) :
    ∀ text ∈ heading color checkLine q message ++ [Terminal.shown color checksPrompt],
      Text.hasSurrogate text = false := by
  intro text htext
  rcases List.mem_append.1 htext with htext | htext
  · rcases List.mem_cons.1 htext with rfl | htext
    · exact plainLine_hasSurrogate _ .nil
    · rcases List.mem_cons.1 htext with rfl | htext
      · exact shownLine_hasSurrogate _ _ hm
      · exact numbered_hasSurrogate _ hq _ htext
  · rw [List.mem_singleton.1 htext]
    exact hasSurrogate_shown _ (scalar_of_ascii (by decide))

theorem ask_blank {q : Question} {message line : String} {c : Console} {rest : List String}
    (hk : q.kind = .checkbox) (hm : Scalar message.toList)
    (hq : ∀ choice ∈ q.choices, Scalar choice.name.toList) (hl : c.lines = line :: rest)
    (hb : Text.isBlankText line = true) :
    ∃ c', Console.prompter.ask q message c = (.ok (.several q.preset), c') := by
  have hread : readChecks c.color q line = .ok q.preset := by simp [readChecks, hb]
  change ∃ c', Console.ask q message c = (.ok (.several q.preset), c')
  simp only [Console.ask, hk]
  exact asking_line (checklist_hasSurrogate c.color hm hq) hl hread

end Console

end Provision.Interview
