import Provision.Proofs.Recipe.Grammar
import Provision.Proofs.Recipe.ReportLaws

/-!
# Repeated target aliases

That no two targets share an alias is a rule about targets that have been read. Where one
of them could not be, the rule is not looked at, and a report leaves out that an alias is
repeated (`Document.repeated_reported_iff`).
-/

namespace Provision.Recipe

open Schema

variable {es o : Entries} {used : String} {vs : List Value} {v w : Value} {a : String}

theorem RuleText.targets_shape {names : List String}
    (hoptions : Entries.get? "options" es = some (.dict o))
    (htargets : Holds o "targetOrgs" "target_orgs" used (.list vs)) {text : String}
    (h : RuleText es text) (htext : text = repeatedText names) :
    ∀ u ∈ vs, IsDict (Target.Shape Worded) u := by
  cases h with
  | target rest => exact absurd htext (append_ne_append (by decide) (by decide) _ _)
  | type rest => exact absurd htext (append_ne_append (by decide) (by decide) _ _)
  | repeated names ho hv htaken =>
    obtain ⟨-, heq⟩ := ho.unique (.first hoptions)
    cases heq
    obtain ⟨-, heq⟩ := hv.unique htargets
    cases heq
    exact fun u hu => Target.read_iff.1 (htaken u hu)

theorem need_eq_rule {n : Need} {names : List String} (h : n.text = repeatedText names) :
    n = .rule (repeatedText names) := by
  cases n with
  | rule text => exact congrArg Need.rule h
  | record name => exact absurd h (append_ne_append (by decide) (by decide) _ _)
  | oneOf options => exact absurd h (append_ne_append (by decide) (by decide) _ _)
  | _ => exact absurd h.symm (append_ne_text (by decide) (by decide) _)

theorem Options.mem_problems_of_targets {p : Problem}
    (h : p ∈ (required o "targetOrgs" "target_orgs"
      fun v => Checked.ensure (list Target.read v) uniqueTargets).problems) :
    p ∈ (Options.fields o).problems := by
  simp only [Options.fields, Checked.problems_and, List.mem_append]
  exact .inl (.inr h)

theorem Document.mem_problems_of_options {p : Problem}
    (h : p ∈ (required es "options" "options" Options.read).problems) :
    p ∈ (Document.fields es).problems := by
  simp only [Document.fields, Checked.problems_and, List.mem_append]
  exact .inl (.inl (.inr h))

/-- What targets that are in order but share an alias bring into a report. -/
theorem Document.mem_problems_of_repeated {ts : List Target}
    (hoptions : Entries.get? "options" es = some (.dict o))
    (htargets : Holds o "targetOrgs" "target_orgs" used (.list vs))
    (hts : list Target.read (.list vs) = .ok ts) {text : String}
    (hrule : uniqueTargets ts = some text) :
    ⟨["options", used], .rule text⟩ ∈ (Document.fields es).problems := by
  refine mem_problems_of_options ?_
  rw [required_of_holds (.first hoptions), Checked.problems_under]
  refine List.mem_map.2 ⟨⟨[used], .rule text⟩, Options.mem_problems_of_targets ?_, rfl⟩
  rw [required_of_holds htargets, Checked.problems_under]
  refine List.mem_map.2 ⟨⟨[], .rule text⟩, ?_, rfl⟩
  simp [hts, Checked.ensure, hrule, Checked.problems]

theorem mem_duplicates_of_twice {ts : List Target} (htwice : [v, w].Sublist vs)
    (hv : targetAlias? v = some a) (hw : targetAlias? w = some a)
    (hts : List.Forall₂ (fun v t => Target.read v = .ok t) vs ts) :
    a ∈ duplicates (ts.map (·.aliasName)) := by
  have haliases := htwice.filterMap targetAlias?
  rw [filterMap_targetAlias? hts] at haliases
  rw [mem_duplicates_iff, List.duplicate_iff_sublist]
  simpa [hv, hw] using haliases

theorem uniqueTargets_of_mem {ts : List Target} (h : a ∈ duplicates (ts.map (·.aliasName))) :
    uniqueTargets ts = some (repeatedText (duplicates (ts.map (·.aliasName)))) := by
  unfold uniqueTargets
  split
  · next hnil => simp [hnil] at h
  · rfl

theorem unquoted_targets (h : Holds o "targetOrgs" "target_orgs" used v) :
    Unquoted ["options", used] := by
  have hused : used = "targetOrgs" ∨ used = "target_orgs" := by simpa using h.used_mem
  rcases hused with rfl | rfl <;> decide

/-- An alias that two targets share is reported exactly where every target is in order. -/
theorem Document.repeated_reported_iff (source : String)
    (hoptions : Entries.get? "options" es = some (.dict o))
    (htargets : Holds o "targetOrgs" "target_orgs" used (.list vs))
    (htwice : [v, w].Sublist vs) (hv : targetAlias? v = some a) (hw : targetAlias? w = some a) :
    (∃ names, a ∈ names ∧ entry ["options", used] (repeatedText names) ∈
      Document.report (.dict es) source) ↔ ∀ u ∈ vs, IsDict (Target.Shape Worded) u := by
  obtain ⟨htidy, hplaces⟩ := fields_tidy es
  rw [report_dict]
  constructor
  · rintro ⟨names, -, hentry⟩
    obtain ⟨p, hp, htext⟩ := List.mem_map.1 hentry
    have hfair := htidy.fair p hp
    rw [p.text_eq_entry (hplaces p hp)] at htext
    obtain ⟨-, hneed⟩ := entry_inj hfair.unquoted (unquoted_targets htargets) htext
    exact (hfair.rule _ (need_eq_rule hneed)).targets_shape hoptions htargets rfl
  · intro hshape
    obtain ⟨ts, hts⟩ := exists_forall₂_iff.2 fun u hu => Target.read_iff.2 (hshape u hu)
    have ha := mem_duplicates_of_twice htwice hv hw hts
    have hrule := uniqueTargets_of_mem ha
    refine ⟨_, ha, List.mem_map.2 ⟨_, mem_problems_of_repeated hoptions htargets
      (list_eq_ok.2 ⟨vs, rfl, hts⟩) hrule, ?_⟩⟩
    exact Problem.text_eq_entry (place_ne_empty (by decide))

def scratchTarget (more : Entries) : Value :=
  .dict ([("orgName", .str "Demo"), ("alias", .str "demo1"), ("description", .str "A demo org"),
    ("isScratchOrg", .bool true)] ++ more)

theorem scratchTarget_shape :
    IsDict (Target.Shape Worded) (scratchTarget [("scratchDefJson", .str "demo.json")]) := by
  refine ⟨_, rfl, ?_⟩
  exact {
    orgName := ⟨_, _, .first rfl, "Demo", rfl, by decide⟩
    aliasName := ⟨_, _, .first rfl, "demo1", rfl, by decide⟩
    description := ⟨_, _, .first rfl, "A demo org", rfl, by decide⟩
    isScratchOrg := ⟨_, _, .first rfl, true, rfl⟩
    scratchDefJson := by
      rintro _ _ (h | ⟨h, -⟩)
      · cases h
        exact .inr ⟨_, rfl, trivial⟩
      · cases h
    orgReqsJson := by
      rintro _ _ (h | ⟨-, h⟩) <;> cases h
    scratch := fun _ => ⟨_, _, .first rfl, "demo.json", rfl, by decide⟩
    persistent := by
      rintro ⟨_, _, h | ⟨-, h⟩, rfl⟩ <;> cases h }

def twins : List Value :=
  [scratchTarget [("scratchDefJson", .str "demo.json")],
    scratchTarget [("scratchDefJson", .str "demo.json")]]

/-- Targets in order that share an alias are reported, here beside a name that is empty. -/
theorem Document.twins_reported :
    Entries.get? "options" (bareRecipe "" twins) = some (.dict (bareOptions twins)) ∧
      Holds (bareOptions twins) "targetOrgs" "target_orgs" "targetOrgs" (.list twins) ∧
      twins.Sublist twins ∧ twins.map targetAlias? = [some "demo1", some "demo1"] ∧
      ∃ names, "demo1" ∈ names ∧ entry ["options", "targetOrgs"] (repeatedText names) ∈
        Document.report (.dict (bareRecipe "" twins)) "recipe" := by
  have hoptions : Entries.get? "options" (bareRecipe "" twins) = some (.dict (bareOptions twins)) :=
    rfl
  have htargets : Holds (bareOptions twins) "targetOrgs" "target_orgs" "targetOrgs" (.list twins) :=
    .first rfl
  have htwice : twins.Sublist twins := .refl _
  refine ⟨hoptions, htargets, htwice, rfl, ?_⟩
  exact (repeated_reported_iff "recipe" hoptions htargets htwice rfl rfl).2
    (by simp [twins, scratchTarget_shape])

/-- Two targets that share an alias, one of them without a definition file. -/
def unequalTwins : List Value :=
  [scratchTarget [("scratchDefJson", .str "demo.json")], scratchTarget []]

/-- Where one of two targets that share an alias has no definition file, a report says that and
nothing else. -/
theorem Document.repeated_unreported :
    ¬∀ (es o : Entries) (used : String) (vs : List Value) (v w : Value) (a source : String),
      Entries.get? "options" es = some (.dict o) →
      Holds o "targetOrgs" "target_orgs" used (.list vs) →
      [v, w].Sublist vs → targetAlias? v = some a → targetAlias? w = some a → a ≠ "" →
      ∃ names, a ∈ names ∧ entry ["options", used] (repeatedText names) ∈
        Document.report (.dict es) source := by
  intro h
  have hreport : Document.report (.dict (bareRecipe "Demo" unequalTwins)) "recipe" =
      ["'options.targetOrgs.1': target org 'demo1' is a scratch org, so 'scratchDefJson' " ++
        "must be a non-empty string"] := by decide +kernel
  obtain ⟨names, -, hentry⟩ := h (bareRecipe "Demo" unequalTwins) (bareOptions unequalTwins)
    "targetOrgs" unequalTwins _ _ "demo1" "recipe" rfl (.first rfl) (.refl _) rfl rfl (by decide)
  rw [hreport, List.mem_singleton] at hentry
  exact absurd hentry (append_ne_text (by decide +kernel) (by decide +kernel) _)

end Provision.Recipe
