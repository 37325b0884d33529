import Provision.Proofs.Recipe.Grammar
import Provision.Proofs.Recipe.RecordLaws

/-!
# Documents are read back as they were

The laws about what is read back of steps and groups go on here with targets, options and
whole documents (`Document.read_record`). What a document has to be like for that, every
document that has been read is like (`Document.read_readable`). So it does not matter from what
data a document came, nor in which spelling it is written (`Document.round_trip`).
-/

namespace Provision.Recipe

open Schema

variable {v : Value} {sp : Spelling}

-- ---------------------------------------------------------------------------
-- What is read back
-- ---------------------------------------------------------------------------

theorem list_string_ofStrings {names names' : List String} :
    list string (.ofStrings names) = .ok names' ↔ names = names' := by
  have hstring (s s' : String) : string (.str s) = .ok s' ↔ s = s' ∧ True := by simp [string]
  have h := list_map_eq_ok hstring names names'
  simpa [Value.ofStrings] using h

theorem list_dict_map {handlers handlers' : List Entries} :
    list dict (.list (handlers.map .dict)) = .ok handlers' ↔ handlers = handlers' := by
  have hdict (es es' : Entries) : dict (.dict es) = .ok es' ↔ es = es' ∧ True := by simp [dict]
  have h := list_map_eq_ok hdict handlers handlers'
  simpa using h

structure Target.Sound (t : Target) : Prop where
  orgName : Worded t.orgName
  aliasName : Worded t.aliasName
  description : Worded t.description
  rule : t.rule = none

theorem Target.read_record {t t' : Target} :
    Target.read (t.record sp) = .ok t' ↔ t = t' ∧ t.Sound := by
  have hread : Target.read (t.record sp) = Checked.ensure
      (Checked.and (.and (.and (.and (.and (.and (.ok Target.mk)
        (.under (sp.pick "orgName" "org_name") (nonEmpty (.str t.orgName))))
        (.under "alias" (nonEmpty (.str t.aliasName))))
        (.under "description" (nonEmpty (.str t.description))))
        (.under (sp.pick "isScratchOrg" "is_scratch_org") (strictTruth (.bool t.isScratchOrg))))
        (.under (sp.pick "scratchDefJson" "scratch_def_json")
          (optional string (.ofOption t.scratchDefJson))))
        (.under (sp.pick "orgReqsJson" "org_reqs_json")
          (optional string (.ofOption t.orgReqsJson)))) Target.rule := by
    cases sp <;> rfl
  simp only [hread, strictTruth, optional_string_ofOption, nonEmpty_str_eq_ok,
    Checked.ensure_eq_ok, Checked.and_eq_ok, Checked.under_eq_ok, Except.ok.injEq, and_assoc,
    exists_and_left, exists_eq_left']
  constructor
  · rintro ⟨hname, halias, hdescription, rfl, hrule⟩
    exact ⟨rfl, hname, halias, hdescription, hrule⟩
  · rintro ⟨rfl, hname, halias, hdescription, hrule⟩
    exact ⟨hname, halias, hdescription, rfl, hrule⟩

structure Options.Sound (o : Options) : Prop where
  targets : ∀ t ∈ o.targets, t.Sound
  distinct : (o.targets.map (·.aliasName)).Nodup

theorem Options.read_record {o o' : Options} :
    Options.read (o.record sp) = .ok o' ↔ o = o' ∧ o.Sound := by
  have hread : Options.read (o.record sp) =
      Checked.and (.and (.and (.and (.and (.ok Options.mk)
        (.under (sp.pick "haltOnError" "halt_on_error") (strictTruth (.bool o.haltOnError))))
        (.under (sp.pick "skipGroups" "skip_groups") (list string (.ofStrings o.skipGroups))))
        (.under (sp.pick "skipActions" "skip_actions") (list string (.ofStrings o.skipActions))))
        (.under (sp.pick "targetOrgs" "target_orgs")
          (Checked.ensure (list Target.read (.list (o.targets.map (·.record sp))))
            uniqueTargets)))
        (.under (sp.pick "noCustomInstall" "no_custom_install")
          (strictTruth (.bool o.noCustomInstall))) := by
    cases sp <;> rfl
  have htargets := list_map_eq_ok (fun t t' => @Target.read_record sp t t') o.targets
  simp only [hread, htargets, strictTruth, list_string_ofStrings, uniqueTargets_eq_none_iff,
    Checked.ensure_eq_ok, Checked.and_eq_ok, Checked.under_eq_ok, Except.ok.injEq, and_assoc,
    exists_and_left, exists_eq_left']
  constructor
  · rintro ⟨htargets, hdistinct, rfl⟩
    exact ⟨rfl, htargets, hdistinct⟩
  · rintro ⟨rfl, htargets, hdistinct⟩
    exact ⟨htargets, hdistinct, rfl⟩

structure Document.Readable (d : Document) : Prop where
  name : Worded d.name
  type : d.type ∈ knownTypes
  options : d.options.Sound
  groups : ∀ g ∈ d.groups, g.Sound

theorem Document.parse_eq_ok {d : Document} {source : String} :
    Document.parse v source = .ok d ↔ Document.read v = .ok d := by
  cases v with
  | dict es => exact parse_dict_iff
  | _ => simp [parse, read, Schema.record, need]

theorem Document.read_record {d d' : Document} :
    Document.read (d.record sp) = .ok d' ↔ d = d' ∧ d.Readable := by
  have hread : Document.read (d.record sp) =
      Checked.and (.and (.and (.and (.and (.and (.and (.and (.ok Document.mk)
        (.under (sp.pick "recipeName" "recipe_name") (nonEmpty (.str d.name))))
        (.under "description" (string (.str d.description))))
        (.under (sp.pick "recipeType" "recipe_type")
          (Checked.ensure (nonEmpty (.str d.type)) knownType)))
        (.under (sp.pick "recipeVersion" "recipe_version") (string (.str d.version))))
        (.under (sp.pick "schemaVersion" "schema_version") (string (.str d.schemaVersion))))
        (.under "options" (Options.read (d.options.record sp))))
        (.under (sp.pick "recipeStepGroups" "recipe_step_groups")
          (list Group.read (.list (d.groups.map (·.record sp))))))
        (.under "handlers" (list dict (.list (d.handlers.map .dict)))) := by
    cases sp <;> rfl
  have hgroups := list_map_eq_ok (fun g g' => @Group.read_record g g' sp) d.groups
  simp only [hread, hgroups, string, list_dict_map, nonEmpty_str_eq_ok, knownType_eq_none_iff,
    Options.read_record, Checked.ensure_eq_ok, Checked.and_eq_ok, Checked.under_eq_ok,
    Except.ok.injEq, and_assoc, exists_and_left, exists_eq_left']
  constructor
  · rintro ⟨hname, -, htype, hoptions, hgroups, rfl⟩
    exact ⟨rfl, hname, htype, hoptions, hgroups⟩
  · rintro ⟨rfl, hname, htype, hoptions, hgroups⟩
    exact ⟨hname, worded_of_mem_knownTypes _ htype, htype, hoptions, hgroups, rfl⟩

-- ---------------------------------------------------------------------------
-- What has been read
-- ---------------------------------------------------------------------------

theorem Step.read_sound {s : Step} (h : Step.read v = .ok s) : s.Sound := by
  obtain ⟨es, -, h⟩ := record_eq_ok.1 h
  simp only [fields, Checked.and_eq_ok, required_eq_ok, nonEmpty_eq_ok] at h
  obtain ⟨_, _, ⟨_, _, ⟨_, _, ⟨_, _, ⟨_, _, ⟨_, _, hmk, ⟨_, _, -, -, hname⟩, rfl⟩, -, rfl⟩,
    ⟨_, _, -, -, haction⟩, rfl⟩, -, rfl⟩, -, rfl⟩, -, rfl⟩ := h
  cases hmk
  exact ⟨hname, haction⟩

theorem Group.read_sound {g : Group} (h : Group.read v = .ok g) : g.Sound := by
  obtain ⟨es, -, h⟩ := record_eq_ok.1 h
  simp only [fields, Checked.and_eq_ok, required_eq_ok, nonEmpty_eq_ok] at h
  obtain ⟨_, _, ⟨_, _, ⟨_, _, ⟨_, _, hmk, ⟨_, _, -, -, hname⟩, rfl⟩, ⟨_, _, -, -, halias⟩, rfl⟩,
    ⟨_, _, -, -, hdescription⟩, rfl⟩, ⟨_, _, -, hsteps⟩, rfl⟩ := h
  cases hmk
  exact ⟨hname, halias, hdescription, forall_mem_of_list (fun _ _ => Step.read_sound) hsteps⟩

theorem Target.read_sound {t : Target} (h : Target.read v = .ok t) : t.Sound := by
  obtain ⟨es, -, hfields, hrule⟩ := read_eq_ok.1 h
  obtain ⟨hname, halias, hdescription, -⟩ := fields_eq_ok.1 hfields
  simp only [required_eq_ok, nonEmpty_eq_ok] at hname halias hdescription
  obtain ⟨_, _, -, -, hname⟩ := hname
  obtain ⟨_, _, -, -, halias⟩ := halias
  obtain ⟨_, _, -, -, hdescription⟩ := hdescription
  exact ⟨hname, halias, hdescription, hrule⟩

theorem Options.read_sound {o : Options} (h : Options.read v = .ok o) : o.Sound := by
  obtain ⟨es, -, h⟩ := record_eq_ok.1 h
  simp only [fields, Checked.and_eq_ok, required_eq_ok, Checked.ensure_eq_ok,
    uniqueTargets_eq_none_iff] at h
  obtain ⟨_, _, ⟨_, _, ⟨_, _, ⟨_, _, ⟨_, _, hmk, -, rfl⟩, -, rfl⟩, -, rfl⟩,
    ⟨_, _, -, htargets, hdistinct⟩, rfl⟩, -, rfl⟩ := h
  cases hmk
  exact ⟨forall_mem_of_list (fun _ _ => Target.read_sound) htargets, hdistinct⟩

theorem Document.read_readable {d : Document} (h : Document.read v = .ok d) : d.Readable := by
  obtain ⟨es, -, h⟩ := record_eq_ok.1 h
  simp only [fields, Checked.and_eq_ok, required_eq_ok, Checked.ensure_eq_ok, nonEmpty_eq_ok,
    knownType_eq_none_iff] at h
  obtain ⟨_, _, ⟨_, _, ⟨_, _, ⟨_, _, ⟨_, _, ⟨_, _, ⟨_, _, ⟨_, _, hmk, ⟨_, _, -, -, hname⟩, rfl⟩,
    -, rfl⟩, ⟨_, _, -, -, htype⟩, rfl⟩, -, rfl⟩, -, rfl⟩, ⟨_, _, -, hoptions⟩, rfl⟩,
    ⟨_, _, -, hgroups⟩, rfl⟩, -, rfl⟩ := h
  cases hmk
  exact ⟨hname, htype, Options.read_sound hoptions,
    forall_mem_of_list (fun _ _ => Group.read_sound) hgroups⟩

/-- A document that has been read is read back as it was under either spelling, and so it is
written again as it was. -/
theorem Document.round_trip {source name : String} {d : Document}
    (h : Document.parse v source = .ok d) (sp : Spelling) :
    Document.parse (d.record sp) name = .ok d ∧
    ∀ d', Document.parse (d.record sp) name = .ok d' → ∀ sp', d'.record sp' = d.record sp' := by
  have hsame (d' : Document) : Document.parse (d.record sp) name = .ok d' ↔ d = d' := by
    rw [parse_eq_ok, read_record]
    exact and_iff_left (read_readable (parse_eq_ok.1 h))
  refine ⟨(hsame d).2 rfl, fun d' hd' sp' => ?_⟩
  rw [(hsame d').1 hd']

/-- Data in both spellings, with a key that nobody knows and without what may be left out. -/
def mixedData : Value :=
  .dict [("recipe_name", .str "Mixed"), ("description", .str ""), ("recipeType", .str demoType),
    ("recipe_version", .str "1.0"), ("schemaVersion", .str "1.0"), ("author", .str "nobody"),
    ("options", .dict [("halt_on_error", .bool true), ("skipGroups", .list [.str "data"]),
      ("skip_actions", .list []),
      ("targetOrgs", .list [.dict [("orgName", .str "Demo"), ("alias", .str "demo1"),
        ("description", .str "A demo org"), ("is_scratch_org", .bool true),
        ("scratchDefJson", .str "demo.json")]])]),
    ("recipe_step_groups", .list [.dict [("stepGroupName", .str "Users"), ("alias", .str "users"),
      ("description", .str "Users"), ("recipe_steps", .list [.dict [("step_name", .str "Create"),
        ("action", .str "create-user"), ("options", .dict [("definitionFile", .list [.null])])]])]]),
    ("handlers", .list [.dict []])]

def mixedDocument : Document where
  name := "Mixed"
  description := ""
  type := demoType
  version := "1.0"
  schemaVersion := "1.0"
  options := {
    haltOnError := true
    skipGroups := ["data"]
    skipActions := []
    targets := [⟨"Demo", "demo1", "A demo org", true, some "demo.json", none⟩]
    noCustomInstall := false }
  groups := [⟨"Users", "users", "Users",
    [⟨"Create", "", "create-user", [("definitionFile", .list [.null])], none, none⟩]⟩]
  handlers := [[]]

theorem Document.mixed_round_trip :
    Document.parse mixedData "recipe" = .ok mixedDocument ∧
    Document.parse (mixedDocument.record .snake) "again" = .ok mixedDocument ∧
    ∀ d', Document.parse (mixedDocument.record .snake) "again" = .ok d' →
      ∀ sp', d'.record sp' = mixedDocument.record sp' := by
  have h : Document.parse mixedData "recipe" = .ok mixedDocument := by rfl
  exact ⟨h, Document.round_trip h .snake⟩

end Provision.Recipe
