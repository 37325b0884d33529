import Provision.Command.Output
import Provision.Proofs.Json.Complete
import Provision.Proofs.Text.BlankLaws

/-!
# What is read of an output

Of an output there are always entries, each key once, unless it goes beyond the reader's
limits (`parseOutput_error_iff`). An output that says some entries is read as those, if it
keeps to the limits (`Says.parseOutput_eq`).
-/

namespace Provision.Command

variable {output : String}

/-- An output that is beyond the reader's limits: a number in it has too many digits, or too
many of its brackets are open at once. -/
def Excessive (output : String) : Prop :=
  (∃ digits, Json.read (Text.trim output) = .error (.oversized digits)) ∨
    ∃ holder, Json.read (Text.trim output) = .error (.tooDeep holder)

theorem parseOutput_error_iff : (∃ f, parseOutput output = .error f) ↔ Excessive output := by
  unfold parseOutput Excessive
  dsimp only
  by_cases hblank : Text.trim output = ""
  · simp [hblank, Json.read_empty]
  · rw [if_neg hblank]
    cases Json.read (Text.trim output) with
    | ok v => cases v <;> simp
    | error e => cases e <;> simp

theorem excessive_digits {ds : List Char} (hd : ∀ d ∈ ds, Json.isDecimal d = true)
    (h0 : ds.head? ≠ some '0') (hl : Text.wholeLimit < ds.length) :
    Excessive (String.ofList ds) := by
  refine .inl ⟨ds.length, ?_⟩
  rw [Text.trim_of_bare fun d h => Json.isBlank_of_isDecimal (hd d h)]
  exact Json.read_digits hd h0 hl

theorem nodup_keys_of_parseOutput {parsed : Entries} (h : parseOutput output = .ok parsed) :
    (Entries.keys parsed).Nodup := by
  unfold parseOutput at h
  dsimp only at h
  split at h
  · cases h
    exact List.nodup_nil
  · split at h
    · next hread =>
      cases h
      exact Json.nodup_keys_of_read hread
    · cases h
      simp [Entries.keys]
    · cases h
      simp [Entries.keys]
    · cases h

-- ---------------------------------------------------------------------------
-- Outputs that say something
-- ---------------------------------------------------------------------------

/-- What an output says: nothing if it is blank, or the entries of the object that it prints. -/
inductive Says : Nat → Nat → String → Entries → Prop
  | nothing {output : String} (h : Text.isBlankText output = true) : Says 0 0 output []
  | object {d k : Nat} {output : String} {es : Entries} (h : Json.Prints d k output (.dict es)) :
      Says d k output es

section
variable {d k : Nat} {es : Entries}

theorem isBlank_of_isGap {x : Char} (h : Json.isGap x = true) : Text.isBlank x = true := by
  simp only [Json.isGap, Bool.or_eq_true, decide_eq_true_eq] at h
  rcases h with ((rfl | rfl) | rfl) | rfl <;> rfl

theorem object_braces {cs : List Char} (h : Json.Spells d k cs (.value (.dict es))) :
    ∃ mid, cs = '\x7b' :: (mid ++ ['\x7d']) := by
  cases h with
  | word h => simp [Json.words] at h
  | noEntries => exact ⟨_, rfl⟩
  | dict => exact ⟨_, rfl⟩

theorem prints_trim (h : Json.Prints d k output (.dict es)) :
    Text.trim output ≠ "" ∧ Json.Prints d k (Text.trim output) (.dict es) := by
  obtain ⟨b, cs, b', houtput, hb, hb', h⟩ := h
  obtain ⟨mid, rfl⟩ := object_braces h
  have htrim := Text.trim_between (fun c hc => isBlank_of_isGap (hb c hc))
    (fun c hc => isBlank_of_isGap (hb' c hc)) rfl rfl mid (by simpa using houtput)
  rw [htrim]
  exact ⟨by simp, [], _, [], by simp, nofun, nofun, h⟩

theorem Says.parseOutput_eq (h : Says d k output es) :
    (Json.Within Json.nestingLimit d k → parseOutput output = .ok es) ∧
      (¬Json.Within Json.nestingLimit d k → Excessive output) := by
  cases h with
  | nothing hblank =>
    refine ⟨fun _ => ?_, fun hn => absurd ⟨Nat.zero_le _, Nat.zero_le _⟩ hn⟩
    rw [parseOutput, Text.trim_eq_empty_iff.2 hblank]
    rfl
  | object h =>
    obtain ⟨hne, hprints⟩ := prints_trim h
    obtain ⟨hwithin, hbeyond⟩ := Json.read_printed hprints
    constructor
    · intro hw
      rw [parseOutput]
      simp only [hne, if_false, hwithin hw]
    · intro hn
      obtain ⟨e, he, hread⟩ := hbeyond hn
      cases e with
      | malformed => cases he
      | oversized digits => exact .inl ⟨digits, hread⟩
      | tooDeep holder => exact .inr ⟨holder, hread⟩

end

end Provision.Command
