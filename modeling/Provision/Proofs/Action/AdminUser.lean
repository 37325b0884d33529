import Provision.Proofs.Action.AdministrationLaws
import Provision.Proofs.User.RecordTexts

/-!
# What is done to the admin user

Which commands follow the look-up is read off the definition, and they are addressed to the user
that the look-up has named. They are gone through as far as the first that fails
(`administration_calls`). The results of all calls are kept as parts, unless a later call raises
a fault or the look-up reports something that is no object (`administration_keeps_iff`). What the
update of the record says can be read back if no text ends in a backslash, and the name of the user
has no quote in it (`update_reads_back_iff`).
-/

namespace Provision

open Stage Outcome
open Plan (Reach)

variable {σ : Type} {r : Runner σ}

/-- A runner every call of which finishes, or raises a fault. -/
def Runner.Finishing (r : Runner σ) : Prop :=
  ∀ command now objection state, Yields Action.Finished (r.run command now objection state).result

theorem Runner.Plain.finishing (h : r.Plain) : r.Finishing := by
  intro command now objection state
  have hresult := h command now objection state
  generalize (r.run command now objection state).result = result at hresult
  match result, hresult with
  | .ok o, ho => exact ⟨ho.finalized, ho.decided⟩
  | .error (.fault _), _ => trivial

theorem Calls.finished {s u : Stage σ} {calls : List Call} (h : Calls r s calls u)
    (hr : r.Finishing) : ∀ call ∈ calls, Yields Action.Finished call.answer := by
  induction h with
  | none _ => simp
  | @cons s t u call calls _ ha _ ih =>
    have hcall : Yields Action.Finished call.answer := by
      rw [← ha]
      exact hr call.command t.now _ t.state
    exact List.forall_mem_cons.2 ⟨hcall, ih⟩

namespace Action

variable {a : Action} {c : Context} {options definition : Entries} {permsets : List String}
  {u : Value}

-- ---------------------------------------------------------------------------
-- Commands
-- ---------------------------------------------------------------------------

/-- A command that says for which user it is, as the one on whose behalf it is run or in the
condition for the record. -/
def AddressedTo (username : Value) (command : Command) : Prop :=
  command.flags.get? "FLAG_ONBEHALFOF" = some username ∨
    command.flags.get? "FLAG_WHERE" = some (.str s!"Username='{username.text}'")

theorem configureCommands_eq (c : Context) (definition : Entries) (permsets : List String)
    (u : Value) :
    configureCommands c definition permsets u =
      (if ∃ key ∈ Entries.keys definition, key ∉ User.instructions then
          [recordCommand c (User.recordValues definition) u]
        else []) ++
      (if permsets = [] then [] else [permsetCommand c permsets u]) ++
      (if (definition.getD "generatePassword").truthy = true then [passwordCommand c u] else []) := by
  have hrecord : User.recordValues definition = "" ↔
      ¬∃ key ∈ Entries.keys definition, key ∉ User.instructions := by
    simp [User.recordValues_eq_empty_iff]
  unfold configureCommands
  simp only [hrecord, List.isEmpty_iff, ite_not]

theorem configureCommands_addressed :
    ∀ command ∈ configureCommands c definition permsets u, AddressedTo u command := by
  intro command h
  rw [configureCommands_eq] at h
  obtain h | h := List.mem_append.1 h
  · obtain h | h := List.mem_append.1 h
    · split at h
      · cases List.mem_singleton.1 h
        exact .inr rfl
      · cases h
    · split at h
      · cases h
      · cases List.mem_singleton.1 h
        exact .inl rfl
  · split at h
    · cases List.mem_singleton.1 h
      exact .inl rfl
    · cases h

section
variable {first : Call} {rest : List Call} {result : Except Raised Outcome}

theorem Administered.command (h : Administered c definition permsets first rest result) :
    first.command = displayCommand c := by
  cases h <;> rfl

theorem Administered.followed (h : Administered c definition permsets first rest result)
    (hf : Yields Finished first.answer) :
    (∃ u, (∀ u', Named first u' ↔ u' = u) ∧
        Reach Call.command Call.failed (configureCommands c definition permsets u) rest) ∨
      (∀ u, ¬Named first u) ∧ rest = [] := by
  cases h with
  | @unfound answer chain begun h hn now =>
    refine .inr ⟨?_, rfl⟩
    rintro u ⟨found, ha, hok, -⟩
    have hfailed : Call.failed ⟨displayCommand c, answer⟩ = true := by simpa using h.stopped hn
    rw [Call.failed_of_ok ha] at hfailed
    rw [Status.ok_eq_false hfailed] at hok
    cases hok
  | misread hok h =>
    refine .inr ⟨?_, rfl⟩
    rintro u ⟨_, ⟨⟩, -, hu⟩
    exact h.not_names u hu
  | nameless hok h hu =>
    refine .inr ⟨?_, rfl⟩
    rintro u ⟨_, ⟨⟩, -, hu'⟩
    exact hu u hu'
  | @named found u rest chain begun hok h hu hreach hfills now =>
    have hwell : found.status.ok = true := (Status.not_bad_iff hf.2).1 (by simp [hok])
    refine .inl ⟨u, fun u' => ⟨?_, ?_⟩, hreach⟩
    · rintro ⟨_, ⟨⟩, -, hu'⟩
      exact (hu u').1 hu'
    · rintro rfl
      exact ⟨found, rfl, hwell, (hu u').2 rfl⟩

end

-- ---------------------------------------------------------------------------
-- The calls
-- ---------------------------------------------------------------------------

/-- If the definition cannot be used then nothing is called. Else the admin user is looked up, and
if that ended well and names a user then the record is updated if there are fields for it, the
permission sets are assigned if there are any, and a password is made if one is wanted: as far
as the first call that fails, and all for that user. The action ends in error exactly when the
definition cannot be used, no user is named, or a call fails. -/
theorem administration_calls (hw : a.work = .configureAdminUser) (hr : r.Finishing)
    (hc : a.checked c options = .ok ()) (s : Stage σ) :
    ∃ o calls, ((a.run r (some c) options).run s).1 = .ok o ∧
      Calls r s calls ((a.run r (some c) options).run s).2 ∧
      ((∀ definition permsets, ¬Usable c options definition permsets) →
        calls = [] ∧ o.status = .error) ∧
      ∀ definition permsets, Usable c options definition permsets →
        ∃ look rest, calls = look :: rest ∧ look.command = displayCommand c ∧
          (∀ u, Named look u → ∃ commands,
            commands =
              (if ∃ key ∈ Entries.keys definition, key ∉ User.instructions then
                  [recordCommand c (User.recordValues definition) u]
                else []) ++
              (if permsets = [] then [] else [permsetCommand c permsets u]) ++
              (if (definition.getD "generatePassword").truthy = true then [passwordCommand c u]
                else []) ∧
            (∀ command ∈ commands, AddressedTo u command) ∧
            Reach Call.command Call.failed commands rest) ∧
          ((∀ u, ¬Named look u) → rest = []) ∧
          (o.status = .error ↔ (∀ u, ¬Named look u) ∨ calls.any Call.failed = true) := by
  obtain ⟨o, result, now, calls, hrun, hcalls, ho, h⟩ := run_administers hw hc r s
  have hstatus : o.status = .error ↔ (a.taken now result).Bad := by
    rw [ho.status, Status.graded_eq_error_iff]
  refine ⟨o, calls, hrun, hcalls, ?_⟩
  obtain ⟨rfl, hno, f, rfl⟩ | ⟨definition, permsets, first, rest, rfl, husable, h⟩ := h
  · refine ⟨fun _ => ⟨rfl, ?_⟩, fun _ _ husable => absurd husable (hno _ _)⟩
    rw [hstatus, taken, Bad, ofRaised_fault_status]
    rfl
  · refine ⟨fun hno => absurd husable (hno _ _), fun definition' permsets' husable' => ?_⟩
    obtain ⟨rfl, rfl⟩ := husable.unique husable'
    have hfinished := hcalls.finished hr
    refine ⟨first, rest, rfl, h.command, ?_, ?_, ?_⟩
    · intro u hu
      refine ⟨_, rfl, ?_, ?_⟩
      · rw [← configureCommands_eq]
        exact configureCommands_addressed
      · rw [← configureCommands_eq]
        obtain ⟨u', hnamed, hreach⟩ | ⟨hnone, -⟩ := h.followed (hfinished _ List.mem_cons_self)
        · rwa [(hnamed u).1 hu]
        · exact absurd hu (hnone u)
    · intro hnone
      obtain ⟨u, hnamed, -⟩ | ⟨-, hrest⟩ := h.followed (hfinished _ List.mem_cons_self)
      · exact absurd ((hnamed u).2 rfl) (hnone u)
      · exact hrest
    · rw [hstatus, taken_bad_iff h.not_bubbled, h.bad_iff hfinished]

def officeFiles : Files where
  entries := [(["demo-config", "ada.json"], .file <| String.toUTF8
      "\x7b\"Title\": \"Countess\", \"permsets\": [\"Admin\"], \"generatePassword\": true\x7d"
      |>.data.toList),
    (["demo-config", "blank.json"], .file (String.toUTF8 "\x7b\"permsets\": \"\"\x7d").data.toList)]
  cwd := ⟨.slash, []⟩

def adminOffice : Context := ⟨default, default, .null, default, officeFiles⟩

def knowing : Rehearsal where
  outputs := [("force:org:display",
    [("status", .int 0), ("result", .dict [("username", .str "ada@demo1.org")])])]

def configuration (m : Rehearsal) (file : String) : Except Fault Outcome × Stage (List Command) :=
  ((Action.ofName .configureAdminUser).run m.toRunner (some adminOffice)
    [("definitionFile", .str file)]).run (.opened [] .zero)

theorem office_checked (file : String) :
    (Action.ofName .configureAdminUser).checked adminOffice [("definitionFile", .str file)] =
      .ok () := rfl

def defined (file : String) : Except Fault Entries :=
  User.readDefinition officeFiles (adminOffice.project.configPath.append file)

theorem ada_usable : ∃ definition, Usable adminOffice [("definitionFile", .str "ada.json")]
    definition ["Admin"] ∧ (∃ key ∈ Entries.keys definition, key ∉ User.instructions) ∧
    (definition.getD "generatePassword").truthy = true := by
  have h : (defined "ada.json").toOption.any (fun definition =>
      (User.permissionSets definition).toOption = some ["Admin"] &&
        Entries.keys definition = ["Title", "permsets", "generatePassword"] &&
        (definition.getD "generatePassword").truthy) = true := by
    decide +kernel
  cases hread : defined "ada.json" with
  | error f => simp [hread, Except.toOption] at h
  | ok definition =>
    simp only [hread, Except.toOption, Option.any_some, Bool.and_eq_true, decide_eq_true_eq] at h
    obtain ⟨⟨hpermsets, hkeys⟩, hpassword⟩ := h
    have hpermsets' : User.permissionSets definition = .ok ["Admin"] := by
      cases hp : User.permissionSets definition <;> simp_all
    refine ⟨definition, ?_, ?_, hpassword⟩
    · exact ⟨"ada.json", rfl, hread, User.permissionSets_eq_ok_iff.1 hpermsets'⟩
    · rw [hkeys]
      exact ⟨"Title", by simp, by decide⟩

theorem knowing_names {u : Stage (List Command)} {look : Call} {rest : List Call}
    (h : Calls knowing.toRunner (.opened [] .zero) (look :: rest) u)
    (hlook : look.command = displayCommand adminOffice) : Named look (.str "ada@demo1.org") := by
  cases h with
  | cons ht ha _ =>
    obtain ⟨_, _, rfl⟩ := ht
    rw [hlook] at ha
    exact ⟨_, ha.symm, rfl, [("username", .str "ada@demo1.org")], rfl, rfl, rfl⟩

theorem ada_configured :
    ∃ o look rest definition, (configuration knowing "ada.json").1 = .ok o ∧
      Calls knowing.toRunner (.opened [] .zero) (look :: rest)
        (configuration knowing "ada.json").2 ∧
      Named look (.str "ada@demo1.org") ∧
      Reach Call.command Call.failed
        [recordCommand adminOffice (User.recordValues definition) (.str "ada@demo1.org"),
          permsetCommand adminOffice ["Admin"] (.str "ada@demo1.org"),
          passwordCommand adminOffice (.str "ada@demo1.org")] rest := by
  obtain ⟨definition, husable, hrecord, hpassword⟩ := ada_usable
  obtain ⟨o, calls, ho, hcalls, -, h⟩ :=
    administration_calls rfl (knowing.toRunner_plain (by simp [knowing])).finishing
      (office_checked "ada.json") (.opened [] .zero)
  obtain ⟨look, rest, rfl, hlook, hfollowing, -⟩ := h definition ["Admin"] husable
  have hnamed := knowing_names hcalls hlook
  obtain ⟨commands, rfl, -, hreach⟩ := hfollowing _ hnamed
  refine ⟨o, look, rest, definition, ho, hcalls, hnamed, ?_⟩
  simpa [hrecord, hpassword] using hreach

theorem blank_permsets :
    ∃ definition, defined "blank.json" = .ok definition ∧
      Entries.get? "permsets" definition = some (.str "") := by
  have h : ((defined "blank.json").toOption.bind fun definition =>
      (Entries.get? "permsets" definition).bind Value.asString?) = some "" := by
    decide +kernel
  cases hread : defined "blank.json" with
  | error f => simp [hread, Except.toOption] at h
  | ok definition =>
    simp only [hread, Except.toOption, Option.bind_some] at h
    obtain ⟨v, hv, htext⟩ := Option.bind_eq_some_iff.1 h
    refine ⟨definition, rfl, hv.trans ?_⟩
    cases v with
    | str text => simpa [Value.asString?] using htext
    | _ => cases htext

/-- Permission sets that are left blank are no list of names, and calls are made all the same. -/
theorem blank_permsets_called :
    (∃ definition,
      User.readDefinition officeFiles (adminOffice.project.configPath.append "blank.json") =
        .ok definition ∧ Entries.get? "permsets" definition = some (.str "")) ∧
    (configuration knowing "blank.json").2.calls.map (·.command) = ["force:org:display"] :=
  ⟨blank_permsets, by decide +kernel⟩

-- ---------------------------------------------------------------------------
-- What is kept of them
-- ---------------------------------------------------------------------------

/-- What the action holds of its calls is the container of the commands, and in it the results of
all calls that returned one. They are all lost, and none is kept, exactly when a fault is raised
after the first, or when the look-up ends well and reports something that is no object. -/
theorem administration_keeps_iff (hw : a.work = .configureAdminUser)
    (hc : a.checked c options = .ok ()) (r : Runner σ) (s : Stage σ) :
    ∃ o part calls, ((a.run r (some c) options).run s).1 = .ok o ∧
      Calls r s calls ((a.run r (some c) options).run s).2 ∧
      o.children = [part] ∧ part.name = "sfdx:configureUser" ∧ part.kind = .executor ∧
      (Abandoned calls → part.children = []) ∧
      (part.children = returned calls ↔ ¬Abandoned calls) := by
  obtain ⟨o, result, now, calls, hrun, hcalls, ho, h⟩ := run_administers hw hc r s
  refine ⟨o, _, calls, hrun, hcalls, ho.children, ?_⟩
  obtain ⟨rfl, -, f, rfl⟩ | ⟨definition, permsets, first, rest, rfl, -, h⟩ := h
  · obtain ⟨hname, hkind⟩ := taken_fault_labelled hw f now
    have hnone : (a.taken now (.error (.fault f))).children = [] := taken_fault_children a f now
    refine ⟨hname, hkind, fun _ => hnone, iff_of_true hnone ?_⟩
    rintro (⟨hsome, -⟩ | ⟨_, _, ⟨⟩, -⟩)
    exact hsome rfl
  · obtain ⟨hname, hkind⟩ := h.labelled hw now
    refine ⟨hname, hkind, fun hlost => h.drops a hlost now, ?_, fun hkept => h.keeps a hkept now⟩
    intro hall hlost
    exact hlost.returned_ne_nil (hall.symm.trans (h.drops a hlost now))

def breaking : Rehearsal :=
  { knowing with
    faults := [("force:data:record:update",
      .fault (.mishap (.other "RuntimeError") "pipe closed"))] }

theorem breaking_calls : (configuration breaking "ada.json").2.calls.map (·.command) =
    ["force:org:display", "force:data:record:update"] := by
  decide +kernel

theorem breaking_displays {c : Command} (h : c.command = "force:org:display") (now : Moment) :
    ∃ found, breaking.answer c now = .ok found := by
  unfold Rehearsal.answer
  rw [h]
  exact ⟨_, rfl⟩

theorem breaking_breaks {c : Command} (h : c.command = "force:data:record:update")
    (now : Moment) : ∃ f, breaking.answer c now = .error (.fault f) := by
  unfold Rehearsal.answer
  rw [h]
  exact ⟨_, rfl⟩

/-- It is looked up and then updated. What the look-up returned is lost. -/
theorem broken_keeps_iff :
    ∃ o part look update, (configuration breaking "ada.json").1 = .ok o ∧
      Calls breaking.toRunner (.opened [] .zero) [look, update]
        (configuration breaking "ada.json").2 ∧
      o.children = [part] ∧ Abandoned [look, update] ∧ returned [look, update] ≠ [] ∧
      part.children = [] := by
  obtain ⟨o, part, calls, ho, hcalls, hpart, -, -, hdrops, hkeeps⟩ :=
    administration_keeps_iff rfl (office_checked "ada.json") breaking.toRunner (.opened [] .zero)
  have hcommands : calls.map (·.command.command) =
      ["force:org:display", "force:data:record:update"] := by
    have h := breaking_calls
    have hall : (configuration breaking "ada.json").2.calls = [] ++ calls.map (·.command) :=
      hcalls.commands
    rw [hall, List.nil_append, List.map_map] at h
    exact h
  obtain ⟨look, rest, rfl, hlook, hrest⟩ := List.map_eq_cons_iff.1 hcommands
  obtain ⟨update, rest, rfl, hupdate, hnone⟩ := List.map_eq_cons_iff.1 hrest
  obtain rfl := List.map_eq_nil_iff.1 hnone
  have hlost : Abandoned [look, update] := by
    cases hcalls with
    | cons ht ha hcalls =>
      cases hcalls with
      | cons ht' ha' _ =>
        obtain ⟨_, _, rfl⟩ := ht
        obtain ⟨_, _, rfl⟩ := ht'
        obtain ⟨found, hfound⟩ := breaking_displays hlook .zero
        obtain ⟨f, hf⟩ := breaking_breaks hupdate .zero
        refine .inl ⟨?_, update, by simp, f, ha'.symm.trans hf⟩
        rw [returned_cons (ha.symm.trans hfound)]
        exact List.cons_ne_nil _ _
  exact ⟨o, part, look, update, ho, hcalls, hpart, hlost, hlost.returned_ne_nil, hdrops hlost⟩

/-- The look-up has ended well, and nothing is left of it. -/
theorem broken_drops_lookup :
    (configuration breaking "ada.json").2.calls.map (·.command) =
        ["force:org:display", "force:data:record:update"] ∧
      (∀ now, ∃ found, breaking.answer (displayCommand adminOffice) now = .ok found ∧
        found.status = .success) ∧
      (configuration breaking "ada.json").1.toOption.map
        (fun o => o.children.map fun part => (part.name, part.children.length)) =
        some [("sfdx:configureUser", 0)] :=
  ⟨breaking_calls, fun _ => ⟨_, rfl, rfl⟩, by decide +kernel⟩

-- ---------------------------------------------------------------------------
-- What the update says
-- ---------------------------------------------------------------------------

open User (recordFields recordValues fieldText readPairs? Gapes)

/-- In the update of the record, the texts of the fields can be read back exactly if none of them
ends in a backslash, and the name of the user exactly if it has no quote in it and does not end in
a backslash either. -/
theorem update_reads_back_iff (definition : Entries)
    (h : ∀ e ∈ recordFields definition, '=' ∉ e.1.toList) (c : Context) (username : Value) :
    ∃ values condition,
      (recordCommand c (recordValues definition) username).flags.get? "FLAG_VALUES" =
        some (.str values) ∧
      (recordCommand c (recordValues definition) username).flags.get? "FLAG_WHERE" =
        some (.str condition) ∧
      (readPairs? values = some ((recordFields definition).map fun e => (e.1, fieldText e.2)) ↔
        ∀ e ∈ recordFields definition, ¬Gapes (fieldText e.2).toList) ∧
      (readPairs? condition = some [("Username", username.text)] ↔
        Text.singleQuote ∉ username.text.toList ∧ ¬Gapes username.text.toList) := by
  have hname : '=' ∉ "Username".toList := by decide
  exact ⟨_, _, rfl, rfl, User.readPairs?_recordValues_iff h, User.readPairs?_bare_iff hname⟩

def ohara : Entries :=
  [("LastName", .str "O'Hara"), ("password", .str "secret"), ("IsActive", .bool false),
    ("Title", .str "x' Alias='y")]

theorem ohara_reads_back :
    (∀ e ∈ recordFields ohara, '=' ∉ e.1.toList) ∧
      ∃ values condition,
        (recordCommand adminOffice (recordValues ohara) (.str "ada@demo1.org")).flags.get?
          "FLAG_VALUES" = some (.str values) ∧
        (recordCommand adminOffice (recordValues ohara) (.str "ada@demo1.org")).flags.get?
          "FLAG_WHERE" = some (.str condition) ∧
        readPairs? values =
          some [("LastName", "O'Hara"), ("IsActive", "false"), ("Title", "x' Alias='y")] ∧
        readPairs? condition = some [("Username", "ada@demo1.org")] := by
  have hnames : ∀ e ∈ recordFields ohara, '=' ∉ e.1.toList := by decide
  have hshut : ∀ e ∈ recordFields ohara, ¬Gapes (fieldText e.2).toList := by decide
  obtain ⟨values, condition, hvalues, hcondition, hfields, huser⟩ :=
    update_reads_back_iff ohara hnames adminOffice (.str "ada@demo1.org")
  exact ⟨hnames, values, condition, hvalues, hcondition, hfields.2 hshut,
    huser.2 ⟨by decide, by decide⟩⟩

/-- A user with a quote in its name is not the one that the update is for. A text that ends in a
backslash is not read back either. -/
theorem obrien_not_read_back :
    (∃ condition, (recordCommand adminOffice (recordValues ohara)
        (.str "o'brien@demo1.org")).flags.get? "FLAG_WHERE" = some (.str condition) ∧
      readPairs? condition ≠ some [("Username", "o'brien@demo1.org")]) ∧
    readPairs? (recordValues [("Title", .str "Countess\\")]) ≠ some [("Title", "Countess\\")] := by
  have hname : '=' ∉ "Username".toList := by decide
  refine ⟨⟨_, rfl, mt (User.readPairs?_bare_iff hname).1 (by decide)⟩, ?_⟩
  have htitle : ∀ e ∈ recordFields [("Title", .str "Countess\\")], '=' ∉ e.1.toList := by decide
  exact mt (User.readPairs?_recordValues_iff htitle).1 (by decide)

end Action

end Provision
