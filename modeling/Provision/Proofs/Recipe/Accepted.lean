import Mathlib.Data.List.Duplicate
import Provision.Proofs.JournalLaws
import Provision.Proofs.SchemaLaws
import Provision.Recipe.Lifecycle

/-!
# What an accepted recipe guarantees

Reading a document sees to its targets, and validating it to the aliases of its
groups. Both together are what a demo engine relies on (`sound_of_ofData`).
-/

namespace Provision.Recipe

variable {d : Document} {r : Recipe} {project : Project} {source : Option Files.Path}

-- ---------------------------------------------------------------------------
-- Repeated names
-- ---------------------------------------------------------------------------

theorem duplicatesFrom_eq_nil_iff {seen found names : List String} :
    duplicatesFrom seen found names = [] ↔
      found = [] ∧ names.Nodup ∧ ∀ a ∈ names, a ∉ seen := by
  induction names generalizing seen found with
  | nil => simp [duplicatesFrom]
  | cons a rest ih =>
    rw [duplicatesFrom, ih, List.nodup_cons, List.forall_mem_cons]
    constructor
    · rintro ⟨hfound, hrest, hfresh⟩
      have ha : a ∉ rest := fun h => hfresh a h (by simp)
      have hseen : ∀ b ∈ rest, b ∉ seen := fun b hb h => hfresh b hb (by simp [h])
      split at hfound
      · simp at hfound
      · next hn =>
        subst hfound
        exact ⟨rfl, ⟨ha, hrest⟩, by simpa using hn, hseen⟩
    · rintro ⟨rfl, ⟨ha, hrest⟩, hseen, hfresh⟩
      refine ⟨by simp [hseen], hrest, fun b hb h => ?_⟩
      rcases List.mem_append.1 h with h | h
      · exact hfresh b hb h
      · exact ha (List.mem_singleton.1 h ▸ hb)

theorem duplicates_eq_nil_iff {names : List String} : duplicates names = [] ↔ names.Nodup := by
  simp [duplicates, duplicatesFrom_eq_nil_iff]

theorem mem_duplicatesFrom_iff {a : String} {seen found names : List String} :
    a ∈ duplicatesFrom seen found names ↔
      a ∈ found ∨ (a ∈ seen ∧ a ∈ names) ∨ List.Duplicate a names := by
  induction names generalizing seen found with
  | nil => simp [duplicatesFrom]
  | cons b rest ih =>
    have hfound : a ∈ (if b ∈ seen ∧ b ∉ found then found ++ [b] else found) ↔
        a ∈ found ∨ (a = b ∧ b ∈ seen) := by
      split
      · next h => simp [h.1]
      · next h =>
        refine ⟨.inl, ?_⟩
        rintro (hf | ⟨rfl, hs⟩)
        · exact hf
        · exact Classical.not_not.1 fun hf => h ⟨hs, hf⟩
    rw [duplicatesFrom, ih, hfound, List.duplicate_cons_iff]
    simp only [List.mem_append, List.mem_cons, List.not_mem_nil, or_false]
    constructor
    · rintro ((hf | ⟨rfl, hs⟩) | ⟨hs | rfl, hr⟩ | hd)
      · exact .inl hf
      · exact .inr (.inl ⟨hs, .inl rfl⟩)
      · exact .inr (.inl ⟨hs, .inr hr⟩)
      · exact .inr (.inr (.inl ⟨rfl, hr⟩))
      · exact .inr (.inr (.inr hd))
    · rintro (hf | ⟨hs, rfl | hr⟩ | ⟨rfl, hr⟩ | hd)
      · exact .inl (.inl hf)
      · exact .inl (.inr ⟨rfl, hs⟩)
      · exact .inr (.inl ⟨.inl hs, hr⟩)
      · exact .inr (.inl ⟨.inr rfl, hr⟩)
      · exact .inr (.inr hd)

theorem mem_duplicates_iff {a : String} {names : List String} :
    a ∈ duplicates names ↔ List.Duplicate a names := by
  simp [duplicates, mem_duplicatesFrom_iff]

theorem problems_eq_nil_iff {reserved : List String} {type : String} :
    Plan.problems reserved type d = [] ↔
      d.aliases.Nodup ∧ ∀ a ∈ d.aliases, a ∉ reserved := by
  simp [Plan.problems, duplicateAliases, duplicates_eq_nil_iff, Document.aliases]

-- ---------------------------------------------------------------------------
-- Reading
-- ---------------------------------------------------------------------------

open Schema

def Target.Named (t : Target) : Prop := Worded t.aliasName

theorem Target.read_named {v : Value} {t : Target} (h : Target.read v = .ok t) : t.Named := by
  obtain ⟨es, -, h⟩ := record_eq_ok.1 h
  obtain ⟨h, -⟩ := Checked.ensure_eq_ok.1 h
  simp only [fields, Checked.and_eq_ok, required_eq_ok, nonEmpty_eq_ok] at h
  -- The readers of the fields are nested to the left, that of the first field innermost.
  obtain ⟨_, _, ⟨_, _, ⟨_, _, ⟨_, _, ⟨_, _, ⟨_, _, hmk, -, rfl⟩, ⟨_, _, -, -, halias⟩, rfl⟩,
    -, rfl⟩, -, rfl⟩, -, rfl⟩, -, rfl⟩ := h
  cases hmk
  exact halias

theorem Options.fields_named {es : Entries} {o : Options} (h : Options.fields es = .ok o) :
    ∀ t ∈ o.targets, t.Named := by
  simp only [fields, Checked.and_eq_ok, required_eq_ok, Checked.ensure_eq_ok] at h
  obtain ⟨_, _, ⟨_, _, ⟨_, _, ⟨_, _, ⟨_, _, hmk, -, rfl⟩, -, rfl⟩, -, rfl⟩,
    ⟨_, _, -, htargets, -⟩, rfl⟩, -, rfl⟩ := h
  cases hmk
  exact forall_mem_of_list (fun _ _ => Target.read_named) htargets

theorem Options.fields_distinct {es : Entries} {o : Options} (h : Options.fields es = .ok o) :
    (o.targets.map (·.aliasName)).Nodup := by
  simp only [fields, Checked.and_eq_ok, required_eq_ok, Checked.ensure_eq_ok] at h
  obtain ⟨_, _, ⟨_, _, ⟨_, _, ⟨_, _, ⟨_, _, hmk, -, rfl⟩, -, rfl⟩, -, rfl⟩,
    ⟨_, _, -, -, hunique⟩, rfl⟩, -, rfl⟩ := h
  cases hmk
  unfold uniqueTargets at hunique
  split at hunique
  · next hnil => exact duplicates_eq_nil_iff.1 hnil
  · cases hunique

theorem Document.parse_dict_iff {es : Entries} {name : String} :
    Document.parse (.dict es) name = .ok d ↔ Document.fields es = .ok d := by
  rw [parse]
  cases Document.fields es <;> simp

theorem Document.parse_options {data : Value} {name : String}
    (h : Document.parse data name = .ok d) : ∃ es, Options.fields es = .ok d.options := by
  unfold parse at h
  split at h
  · next es =>
    split at h
    · next d' hd =>
      cases h
      simp only [fields, Checked.and_eq_ok, required_eq_ok] at hd
      obtain ⟨_, _, ⟨_, _, ⟨_, options, ⟨_, _, ⟨_, _, ⟨_, _, ⟨_, _, ⟨_, _, hmk, -, rfl⟩, -, rfl⟩,
        -, rfl⟩, -, rfl⟩, -, rfl⟩, ⟨_, v, -, hoptions⟩, rfl⟩, -, rfl⟩, -, rfl⟩ := hd
      cases hmk
      obtain ⟨es', -, hfields⟩ := record_eq_ok.1 hoptions
      exact ⟨es', hfields⟩
    · cases h
  · cases h

theorem Document.parse_named {data : Value} {name : String}
    (h : Document.parse data name = .ok d) : ∀ t ∈ d.options.targets, t.Named := by
  obtain ⟨es, hfields⟩ := parse_options h
  exact Options.fields_named hfields

-- ---------------------------------------------------------------------------
-- Validating
-- ---------------------------------------------------------------------------

/-- What a demo engine relies on. -/
structure Document.Sound (d : Document) : Prop where
  distinct : d.aliases.Nodup
  unreserved : Plan.Demo.refreshAlias ∉ d.aliases
  named : ∀ t ∈ d.options.targets, t.Named

theorem validate_ok {r' : Recipe} (h : r.validate = .ok r') :
    problems r.document = [] ∧ r' = { r with validated := .bool true } := by
  unfold validate at h
  split at h
  · next hp =>
    cases h
    exact ⟨hp, rfl⟩
  · cases h

theorem validate_demo {r' : Recipe} (h : r.validate = .ok r') (ht : r.document.type = demoType) :
    r.document.aliases.Nodup ∧ Plan.Demo.refreshAlias ∉ r.document.aliases := by
  obtain ⟨hp, -⟩ := validate_ok h
  simp only [problems, hasEngine, ht, decide_true, if_true, problems_eq_nil_iff,
    List.mem_singleton] at hp
  exact ⟨hp.1, fun hm => hp.2 _ hm rfl⟩

open Journaled (Ends)

def Invalid (f : Fault) : Prop := ∃ detail problems, f = .condition .invalidRecipe detail problems

theorem Document.parse_error {data : Value} {name : String} {f : Fault}
    (h : Document.parse data name = .error f) : Invalid f := by
  unfold parse at h
  split at h
  · split at h
    · cases h
    · cases h
      exact ⟨_, _, rfl⟩
  · cases h
    exact ⟨_, _, rfl⟩

theorem validate_error {f : Fault} (h : r.validate = .error f) : Invalid f := by
  unfold validate at h
  split at h
  · cases h
  · cases h
    exact ⟨_, _, rfl⟩

/-- A recipe from data has been parsed and validated. -/
theorem ofData_ends {data : Value} :
    Ends (ofData data project source)
      (fun r => ∃ d, Document.parse data (sourceName source) = .ok d ∧
        (ofDocument d project source).validate = .ok r)
      Invalid := by
  unfold ofData
  dsimp only
  split
  · next d hd =>
    refine .pure_bind ?_
    split
    · next r hr => exact .pure_bind (.bind (Journaled.ends_note _) fun _ _ => .pure ⟨d, hd, hr⟩)
    · next f hf => exact .throw_bind (validate_error hf)
  · next f hf => exact .throw_bind (Document.parse_error hf)

def Accepted (r : Recipe) : Prop :=
  ∃ d project source data, Document.parse data (sourceName source) = .ok d ∧
    (ofDocument d project source).validate = .ok r

theorem Accepted.sound (h : r.Accepted) (ht : r.document.type = demoType) :
    r.document.Sound ∧ r.validated = .bool true := by
  obtain ⟨d, project, source, data, hd, hv⟩ := h
  obtain ⟨-, rfl⟩ := validate_ok hv
  obtain ⟨hdistinct, hfree⟩ := validate_demo hv ht
  exact ⟨⟨hdistinct, hfree, Document.parse_named hd⟩, rfl⟩

theorem Accepted.truthy (h : r.Accepted) (ht : r.document.type = demoType) :
    r.validated.truthy = true := by
  rw [(h.sound ht).2]
  rfl

theorem Accepted.targets_distinct (h : r.Accepted) :
    (r.document.options.targets.map (·.aliasName)).Nodup := by
  obtain ⟨d, project, source, data, hd, hv⟩ := h
  obtain ⟨-, rfl⟩ := validate_ok hv
  obtain ⟨es, hfields⟩ := Document.parse_options hd
  exact Options.fields_distinct hfields

theorem sound_of_ofData {data : Value} {records : List Record}
    (h : (ofData data project source).outcome = (.ok r, records))
    (ht : r.document.type = demoType) : r.document.Sound ∧ r.validated = .bool true := by
  obtain ⟨d, hd, hv⟩ := ofData_ends.ok h
  exact Accepted.sound ⟨d, project, source, data, hd, hv⟩ ht

end Provision.Recipe
