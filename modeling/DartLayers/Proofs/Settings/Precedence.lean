import DartLayers.Proofs.Steps
import Mathlib

/-!
# DartLayers — where settings come from

A field takes its value from its override, or else from its variable, or else it has its default. A
variable whose field is overridden should not matter at all. This holds but for one variable: the
timeout is read as a whole number before it is known whether it is overridden, so a text that is none
stops everything, even where nobody looks at the number.

* **`Settings.Origin`** — where a field takes its value from.
* **`Settings.ChosenBy`** — settings that are taken field by field in the order of precedence.
* **`Settings.overriddenFault?`** — what an overridden variable brings about nevertheless.
* **`Settings.ofEnvironment_precedence`** — the settings are the chosen ones unless there is such a
  fault, and an overridden variable has no other effect.
-/

namespace DartLayers.Settings

/-! ## Origins -/

/-- The overrides that count: null is none. -/
def counted (overrides : FieldValues) : FieldValues :=
  overrides.filter fun (_, value) => !isNull value

/-- Where a field takes its value from: an override, the text of a variable, or neither of them. -/
inductive Origin where
  | override (value : Json)
  | variable (text : String)
  | default

/-- The origin of a field that has a variable: its override goes before the variable, which has to be
set and not empty. -/
def originOf (environment : Environment) (overrides : FieldValues) (field name : String) : Origin :=
  match (counted overrides).lookup field with
  | some value => .override value
  | none =>
    match setVariable? environment name with
    | some text => .variable text
    | none => .default

/-- An origin gives a value to a field. The text of a variable stands for a value, which may be
missing, and is read like an override. -/
def Origin.Gives {α : Type} (origin : Origin) (meaning : String → Option Json) (read : Read α)
    (default value : α) : Prop :=
  match origin with
  | .override given => read given = .ok value
  | .variable text => ∃ given, meaning text = some given ∧ read given = .ok value
  | .default => default = value

/-- The whole number in the text of a variable. -/
def wholeIn (text : String) : Option Json :=
  (Text.readInteger 10 text.toList).toOption.map .int

/-- Settings that are taken field by field in the order of precedence. The fields without a variable
are those of the overrides. -/
structure ChosenBy (environment : Environment) (overrides : FieldValues) (settings : Settings) :
    Prop where
  outputDirectory : (originOf environment overrides "output_dir" "ARCHGEN_OUTPUT_DIR").Gives
    (some ∘ .string) readPath (PathName.ofString "./generated") settings.outputDirectory
  project : (originOf environment overrides "project_path" "ARCHGEN_PROJECT_PATH").Gives
    (some ∘ .string) (readOrNull readPath) none settings.project
  baseUrl : (originOf environment overrides "base_url" "ARCHGEN_BASE_URL").Gives
    (some ∘ .string) (readOrNull readText) none settings.baseUrl
  authToken : (originOf environment overrides "auth_token" "ARCHGEN_TOKEN").Gives
    (some ∘ .string) (readOrNull readText) none settings.authToken
  timeout : (originOf environment overrides "timeout" "ARCHGEN_TIMEOUT").Gives
    wholeIn readPositive 30 settings.timeout
  assumeYes : field (counted overrides) "assume_yes" readTruth false = .ok settings.assumeYes
  overwriteAll : field (counted overrides) "overwrite_all" readTruth false =
    .ok settings.overwriteAll
  requiredDependencies : dependencies (counted overrides) "required_dependencies" =
    .ok settings.requiredDependencies

/-- The fault of a timeout in the environment that is overridden. -/
def overriddenFault? (environment : Environment) (overrides : FieldValues) : Option Fault :=
  match (counted overrides).lookup "timeout", environmentTimeout environment with
  | some _, .error fault => some fault
  | _, _ => none

/-- The fields that have a variable, with its name. -/
def fieldVariables : List (String × String) :=
  textVariables ++ [("timeout", "ARCHGEN_TIMEOUT")]

/-- Two environments differ at most in variables whose fields are overridden. -/
def AgreeBeside (overrides : FieldValues) (environment other : Environment) : Prop :=
  ∀ entry ∈ fieldVariables, (counted overrides).lookup entry.1 = none →
    setVariable? environment entry.2 = setVariable? other entry.2

/-- The settings, or the wording of the fault. -/
def worded (environment : Environment) (overrides : FieldValues) : Except String Settings :=
  (ofEnvironment environment overrides).mapError Fault.message

/-! ## Values by field -/

/-- The values that a table of names gives to fields are found by the names. -/
theorem lookup_filterMap {α : Type} (given : String → Option α) (name : String)
    (table : List (String × String)) (h : (table.map Prod.fst).Nodup) :
    (table.filterMap fun (field, key) => (given key).map fun value => (field, value)).lookup name =
      (table.lookup name).bind given := by
  induction table with
  | nil => rfl
  | cons entry rest ih =>
    obtain ⟨field, key⟩ := entry
    rw [List.map_cons, List.nodup_cons] at h
    by_cases hname : name = field
    · -- no later field has the name, so a variable that is not set leaves it without a value
      subst hname
      have hrest : rest.lookup name = none := by
        rw [List.lookup_eq_none_iff]
        intro entry hentry
        rw [bne_iff_ne]
        exact fun hsame => h.1 (List.mem_map.2 ⟨entry, hentry, hsame.symm⟩)
      cases hgiven : given key with
      | none => simp [ih h.2, hrest, hgiven]
      | some value => simp [hgiven]
    · have hother : (name == field) = false := by simpa using hname
      cases hgiven : given key with
      | none => simp [List.lookup_cons, hgiven, ih h.2, hother]
      | some value => simp [List.lookup_cons, hgiven, ih h.2, hother]

/-- The values that the environment gives to the fields of text. -/
def textValues (environment : Environment) : FieldValues :=
  textVariables.filterMap fun (field, name) =>
    (setVariable? environment name).map fun text => (field, Json.string text)

theorem lookup_textValues (environment : Environment) (name : String) :
    (textValues environment).lookup name = (textVariables.lookup name).bind fun key =>
      (setVariable? environment key).map .string := by
  have htable := lookup_filterMap (fun key => (setVariable? environment key).map Json.string) name
    textVariables (by decide)
  rw [← htable, textValues]
  simp only [Option.map_map]
  rfl

theorem ofEnvironment_eq (environment : Environment) (overrides : FieldValues) :
    ofEnvironment environment overrides =
      match environmentTimeout environment with
      | .error fault => .error fault
      | .ok timeout =>
        (ofValues (counted overrides ++ (textValues environment ++ timeout))).mapError Fault.fields := by
  have hcollected : ofEnvironment environment overrides = environmentValues environment >>= fun values =>
      (ofValues (counted overrides ++ values)).mapError Fault.fields := by
    rw [ofEnvironment]
    refine bind_congr fun values => ?_
    split
    · rename_i settings hvalues
      have hsettings : ofValues (counted overrides ++ values) = .ok settings := hvalues
      rw [hsettings]
      rfl
    · rename_i faults hvalues
      have hfaults : ofValues (counted overrides ++ values) = .error faults := hvalues
      rw [hfaults]
      rfl
  rw [hcollected, environmentValues]
  cases environmentTimeout environment <;> rfl

/-- The environment gives a timeout if the text of its variable is a whole number. -/
theorem environmentTimeout_eq_ok {environment : Environment} {timeout : FieldValues}
    (h : environmentTimeout environment = .ok timeout) :
    (∀ text, setVariable? environment "ARCHGEN_TIMEOUT" = some text → (wholeIn text).isSome) ∧
      timeout.lookup "timeout" = (setVariable? environment "ARCHGEN_TIMEOUT").bind wholeIn ∧
      ∀ name, name ≠ "timeout" → timeout.lookup name = none := by
  rw [environmentTimeout] at h
  cases hvariable : setVariable? environment "ARCHGEN_TIMEOUT" with
  | none =>
    rw [hvariable] at h
    cases h
    simp
  | some text =>
    rw [hvariable] at h
    dsimp only at h
    split at h
    · rename_i number hnumber
      cases h
      have hwhole : wholeIn text = some (.int number) := by
        rw [wholeIn, hnumber]
        rfl
      refine ⟨?_, by simp [hwhole], fun name hname => ?_⟩
      · rintro _ ⟨⟩
        simp [hwhole]
      · have hother : (name == "timeout") = false := by simpa using hname
        simp [List.lookup_cons, hother]
    · cases h

theorem environmentTimeout_eq_error {environment : Environment} {fault : Fault}
    (h : environmentTimeout environment = .error fault) :
    ∃ text reason, setVariable? environment "ARCHGEN_TIMEOUT" = some text ∧
      wholeIn text = none ∧ fault = .timeout text reason := by
  rw [environmentTimeout] at h
  split at h
  · cases h
  · rename_i text hvariable
    split at h
    · cases h
    · rename_i reason hreason
      cases h
      refine ⟨text, reason, hvariable, ?_, rfl⟩
      rw [wholeIn, hreason]
      rfl

/-! ## The chosen settings -/

theorem apply_eq_ok_iff {α β : Type} {function : Checked (α → β)} {value : Checked α} {result : β} :
    Checked.apply function value = .ok result ↔
      ∃ f v, function = .ok f ∧ value = .ok v ∧ f v = result := by
  cases function <;> cases value <;> simp [Checked.apply]

/-- Settings are made of values exactly if each field is read from them. -/
theorem ofValues_eq_ok_iff {values : FieldValues} {settings : Settings} :
    ofValues values = .ok settings ↔
      field values "output_dir" readPath (PathName.ofString "./generated") =
          .ok settings.outputDirectory ∧
        field values "project_path" (readOrNull readPath) none = .ok settings.project ∧
        field values "base_url" (readOrNull readText) none = .ok settings.baseUrl ∧
        field values "auth_token" (readOrNull readText) none = .ok settings.authToken ∧
        field values "timeout" readPositive 30 = .ok settings.timeout ∧
        field values "assume_yes" readTruth false = .ok settings.assumeYes ∧
        field values "overwrite_all" readTruth false = .ok settings.overwriteAll ∧
        dependencies values "required_dependencies" = .ok settings.requiredDependencies := by
  rw [ofValues]
  constructor
  · intro h
    obtain ⟨_, _, h1, hdependencies, rfl⟩ := apply_eq_ok_iff.1 h
    obtain ⟨_, _, h2, hoverwrite, rfl⟩ := apply_eq_ok_iff.1 h1
    obtain ⟨_, _, h3, hassume, rfl⟩ := apply_eq_ok_iff.1 h2
    obtain ⟨_, _, h4, htimeout, rfl⟩ := apply_eq_ok_iff.1 h3
    obtain ⟨_, _, h5, htoken, rfl⟩ := apply_eq_ok_iff.1 h4
    obtain ⟨_, _, h6, hbase, rfl⟩ := apply_eq_ok_iff.1 h5
    obtain ⟨_, _, h7, hproject, rfl⟩ := apply_eq_ok_iff.1 h6
    obtain ⟨_, _, h8, houtput, rfl⟩ := apply_eq_ok_iff.1 h7
    cases h8
    exact ⟨houtput, hproject, hbase, htoken, htimeout, hassume, hoverwrite, hdependencies⟩
  · rintro ⟨houtput, hproject, hbase, htoken, htimeout, hassume, hoverwrite, hdependencies⟩
    rw [houtput, hproject, hbase, htoken, htimeout, hassume, hoverwrite, hdependencies]
    rfl

variable {environment other : Environment} {overrides : FieldValues} {settings : Settings}

/-- A field that is read from values has its value from its origin, if its value among them is that of
the override or else of the variable. -/
theorem field_eq_ok_iff_gives {values : FieldValues} {name key : String}
    {meaning : String → Option Json} {α : Type} {read : Read α} {default value : α}
    (h : values.lookup name =
      ((counted overrides).lookup name).or ((setVariable? environment key).bind meaning))
    (hmeans : ∀ text, setVariable? environment key = some text → (meaning text).isSome) :
    field values name read default = .ok value ↔
      (originOf environment overrides name key).Gives meaning read default value := by
  have hread : ∀ given, Checked.ofField name (read given) = .ok value ↔ read given = .ok value := by
    intro given
    cases read given <;> simp [Checked.ofField]
  rw [field, originOf, h]
  cases (counted overrides).lookup name with
  | some given => exact hread given
  | none =>
    cases hvariable : setVariable? environment key with
    | none => simp [Origin.Gives]
    | some text =>
      obtain ⟨given, hgiven⟩ := Option.isSome_iff_exists.1 (hmeans text hvariable)
      simp [Origin.Gives, hgiven, hread]

/-- The fields of text are read from their origins. -/
theorem field_text_iff {timeout : FieldValues} {name key : String}
    (htext : textVariables.lookup name = some key) (htimeout : timeout.lookup name = none) {α : Type} {read : Read α} {default value : α} :
    field (counted overrides ++ (textValues environment ++ timeout)) name read default = .ok value ↔
      (originOf environment overrides name key).Gives (some ∘ .string) read default value := by
  refine field_eq_ok_iff_gives ?_ fun text _ => rfl
  rw [List.lookup_append, List.lookup_append, lookup_textValues, htext, htimeout, Option.or_none,
    Option.bind_some]
  cases setVariable? environment key <;> rfl

/-- The fields without a variable are those of the overrides. -/
theorem lookup_unchosen {timeout : FieldValues} {name : String}
    (htext : textVariables.lookup name = none) (htimeout : timeout.lookup name = none) :
    (counted overrides ++ (textValues environment ++ timeout)).lookup name =
      (counted overrides).lookup name := by
  rw [List.lookup_append, List.lookup_append, lookup_textValues, htext, htimeout]
  cases (counted overrides).lookup name <;> rfl

/-- **The settings are those that are chosen**, unless a timeout that is overridden is at fault. -/
theorem ofEnvironment_eq_ok_iff :
    ofEnvironment environment overrides = .ok settings ↔
      ChosenBy environment overrides settings ∧ overriddenFault? environment overrides = none := by
  rw [ofEnvironment_eq]
  cases htimeout : environmentTimeout environment with
  | error fault =>
    refine iff_of_false (fun h => by cases h) ?_
    rintro ⟨hchosen, hfault⟩
    obtain ⟨text, reason, hvariable, hwhole, -⟩ := environmentTimeout_eq_error htimeout
    rw [overriddenFault?, htimeout] at hfault
    cases hoverride : (counted overrides).lookup "timeout" with
    | some given =>
      rw [hoverride] at hfault
      cases hfault
    | none =>
      -- the variable is the origin of the timeout, and its text means nothing
      have hgives := hchosen.timeout
      rw [originOf, hoverride, hvariable] at hgives
      obtain ⟨given, hgiven, -⟩ := hgives
      rw [hwhole] at hgiven
      cases hgiven
  | ok timeout =>
    obtain ⟨hmeans, hgiven, hothers⟩ := environmentTimeout_eq_ok htimeout
    have hfault : overriddenFault? environment overrides = none := by
      rw [overriddenFault?, htimeout]
      split
      · contradiction
      · rfl
    have hmap : ∀ result : Checked Settings,
        result.mapError Fault.fields = .ok settings ↔ result = .ok settings := by
      intro result
      cases result <;> simp [Except.mapError]
    have hwhole : ∀ value, field (counted overrides ++ (textValues environment ++ timeout)) "timeout"
          readPositive 30 = .ok value ↔
        (originOf environment overrides "timeout" "ARCHGEN_TIMEOUT").Gives wholeIn readPositive 30
          value := by
      refine fun value => field_eq_ok_iff_gives ?_ hmeans
      rw [List.lookup_append, List.lookup_append, lookup_textValues, hgiven]
      rfl
    dsimp only
    rw [hmap, ofValues_eq_ok_iff, field_text_iff (by rfl) (hothers _ (by decide)),
      field_text_iff (by rfl) (hothers _ (by decide)), field_text_iff (by rfl) (hothers _ (by decide)),
      field_text_iff (by rfl) (hothers _ (by decide)), hwhole, field, field, dependencies,
      lookup_unchosen (by rfl) (hothers _ (by decide)), lookup_unchosen (by rfl) (hothers _ (by decide)),
      lookup_unchosen (by rfl) (hothers _ (by decide)), hfault]
    constructor
    · rintro ⟨houtput, hproject, hbase, htoken, htimeout, hassume, hoverwrite, hdependencies⟩
      exact ⟨⟨houtput, hproject, hbase, htoken, htimeout, hassume, hoverwrite, hdependencies⟩, rfl⟩
    · rintro ⟨⟨houtput, hproject, hbase, htoken, htimeout, hassume, hoverwrite, hdependencies⟩, -⟩
      exact ⟨houtput, hproject, hbase, htoken, htimeout, hassume, hoverwrite, hdependencies⟩

/-! ## Variables that are overridden -/

/-- Settings depend on what their fields find among the values. -/
theorem ofValues_congr {values others : FieldValues}
    (h : ∀ name, values.lookup name = others.lookup name) : ofValues values = ofValues others := by
  simp only [ofValues, field, dependencies, h]

/-- Variables that are not overridden are the same. -/
theorem AgreeBeside.setVariable?_eq (h : AgreeBeside overrides environment other) {name key : String}
    (hkey : fieldVariables.lookup name = some key) (hfree : (counted overrides).lookup name = none) :
    setVariable? environment key = setVariable? other key := by
  have hmem : (name, key) ∈ fieldVariables := by
    obtain ⟨front, back, hsplit, -⟩ := List.lookup_eq_some_iff.1 hkey
    simp [hsplit]
  exact h (name, key) hmem hfree

/-- Every field finds the same, as far as the timeouts can be read. -/
theorem AgreeBeside.lookup_eq (h : AgreeBeside overrides environment other)
    {timeout second : FieldValues} (htimeout : environmentTimeout environment = .ok timeout)
    (hsecond : environmentTimeout other = .ok second) (name : String) :
    (counted overrides ++ (textValues environment ++ timeout)).lookup name =
      (counted overrides ++ (textValues other ++ second)).lookup name := by
  obtain ⟨-, hgiven, hnone⟩ := environmentTimeout_eq_ok htimeout
  obtain ⟨-, hgivenToo, hnoneToo⟩ := environmentTimeout_eq_ok hsecond
  simp only [List.lookup_append, lookup_textValues]
  cases hfree : (counted overrides).lookup name with
  | some given => rfl
  | none =>
    cases htext : textVariables.lookup name with
    | some key =>
      have hkey : fieldVariables.lookup name = some key := by
        rw [fieldVariables, List.lookup_append, htext]
        rfl
      have hname : name ≠ "timeout" := by
        rintro rfl
        cases htext
      simp [h.setVariable?_eq hkey hfree, hnone name hname, hnoneToo name hname]
    | none =>
      by_cases hname : name = "timeout"
      · subst hname
        simp [hgiven, hgivenToo, h.setVariable?_eq (by rfl) hfree]
      · simp [hnone name hname, hnoneToo name hname]

/-- A variable whose field is overridden does not matter, if it is no fault. -/
theorem ofEnvironment_congr (h : AgreeBeside overrides environment other)
    (hfault : overriddenFault? environment overrides = none)
    (hother : overriddenFault? other overrides = none) :
    ofEnvironment environment overrides = ofEnvironment other overrides := by
  -- The timeout is the only variable that is converted before the overrides are looked at.
  have hboth : environmentTimeout environment = environmentTimeout other ∨
      ∃ timeout second, environmentTimeout environment = .ok timeout ∧
        environmentTimeout other = .ok second := by
    cases hoverride : (counted overrides).lookup "timeout" with
    | none =>
      left
      rw [environmentTimeout, environmentTimeout, h.setVariable?_eq (by rfl) hoverride]
    | some given =>
      rw [overriddenFault?, hoverride] at hfault hother
      cases htimeout : environmentTimeout environment with
      | error fault => simp [htimeout] at hfault
      | ok timeout =>
        cases hsecond : environmentTimeout other with
        | error fault => simp [hsecond] at hother
        | ok second => exact .inr ⟨timeout, second, rfl, rfl⟩
  have hvalues : ∀ {timeout second}, environmentTimeout environment = .ok timeout →
      environmentTimeout other = .ok second →
      ofValues (counted overrides ++ (textValues environment ++ timeout)) =
        ofValues (counted overrides ++ (textValues other ++ second)) :=
    fun htimeout hsecond => ofValues_congr (h.lookup_eq htimeout hsecond)
  rw [ofEnvironment_eq, ofEnvironment_eq]
  rcases hboth with hsame | ⟨timeout, second, htimeout, hsecond⟩
  · rw [hsame]
    cases hsecond : environmentTimeout other with
    | error fault => rfl
    | ok second =>
      dsimp only
      rw [hvalues (hsame.trans hsecond) hsecond]
  · rw [htimeout, hsecond]
    dsimp only
    rw [hvalues htimeout hsecond]

/-! ## The wording of faults -/

/-- The names of the fields. -/
def fieldNames : List String := [
  "output_dir", "project_path", "base_url", "auth_token", "timeout", "assume_yes", "overwrite_all",
  "required_dependencies"]

/-- A fault that names a field, or something in it. -/
def NamesField (fault : FieldFault) : Prop :=
  ∃ name ∈ fieldNames, name.toList <+: fault.field.toList

theorem apply_faults {α β : Type} {function : Checked (α → β)} {value : Checked α}
    {law : FieldFault → Prop} {faults : List FieldFault}
    (hfunction : ∀ faults, function = .error faults → ∀ fault ∈ faults, law fault)
    (hvalue : ∀ faults, value = .error faults → ∀ fault ∈ faults, law fault)
    (h : Checked.apply function value = .error faults) : ∀ fault ∈ faults, law fault := by
  cases function with
  | ok f =>
    cases value with
    | ok v => cases h
    | error others =>
      cases h
      exact hvalue _ rfl
  | error faults =>
    cases value with
    | ok v =>
      cases h
      exact hfunction _ rfl
    | error others =>
      cases h
      exact List.forall_mem_append.2 ⟨hfunction _ rfl, hvalue _ rfl⟩

theorem field_faults {values : FieldValues} {name : String} (hname : name ∈ fieldNames) {α : Type}
    {read : Read α} {default : α} {faults : List FieldFault}
    (h : field values name read default = .error faults) : ∀ fault ∈ faults, NamesField fault := by
  rw [field] at h
  split at h
  · rename_i value _
    cases hread : read value with
    | ok found =>
      rw [hread] at h
      cases h
    | error rule =>
      rw [hread] at h
      cases h
      simpa using ⟨name, hname, List.prefix_rfl⟩
  · cases h

theorem readVersions_faults {name : String} (hname : name ∈ fieldNames)
    {members : List (String × Json)} {faults : List FieldFault}
    (h : readVersions name members = .error faults) : ∀ fault ∈ faults, NamesField fault := by
  induction members generalizing faults with
  | nil => cases h
  | cons member rest ih =>
    obtain ⟨dependency, version⟩ := member
    rw [readVersions] at h
    refine apply_faults (fun faults hfirst => ?_) (fun _ hrest => ih hrest) h
    cases hversion : readText version with
    | ok text =>
      rw [hversion] at hfirst
      cases hfirst
    | error rule =>
      rw [hversion] at hfirst
      cases hfirst
      simpa using ⟨name, hname, by simp [List.append_assoc]⟩

theorem dependencies_faults {values : FieldValues} {name : String} (hname : name ∈ fieldNames)
    {faults : List FieldFault} (h : dependencies values name = .error faults) :
    ∀ fault ∈ faults, NamesField fault := by
  rw [dependencies] at h
  split at h
  · exact readVersions_faults hname h
  · cases h
    simpa using ⟨name, hname, List.prefix_rfl⟩
  · cases h

/-- Every fault of settings names a field. -/
theorem ofValues_faults {values : FieldValues} {faults : List FieldFault}
    (h : ofValues values = .error faults) : ∀ fault ∈ faults, NamesField fault := by
  rw [ofValues] at h
  refine apply_faults (fun _ h => ?_) (fun _ => dependencies_faults (by decide)) h
  refine apply_faults (fun _ h => ?_) (fun _ => field_faults (by decide)) h
  refine apply_faults (fun _ h => ?_) (fun _ => field_faults (by decide)) h
  refine apply_faults (fun _ h => ?_) (fun _ => field_faults (by decide)) h
  refine apply_faults (fun _ h => ?_) (fun _ => field_faults (by decide)) h
  refine apply_faults (fun _ h => ?_) (fun _ => field_faults (by decide)) h
  refine apply_faults (fun _ h => ?_) (fun _ => field_faults (by decide)) h
  exact apply_faults (fun _ h => by cases h) (fun _ => field_faults (by decide)) h

/-- The wording of faults that name fields starts as a field does. -/
theorem head?_messages {faults : List FieldFault} (h : ∀ fault ∈ faults, NamesField fault) :
    (FieldFault.messages faults).toList.head? ∈
      none :: fieldNames.map fun name => name.toList.head? := by
  cases faults with
  | nil => simp [FieldFault.messages]
  | cons fault rest =>
    obtain ⟨name, hname, behind, hfield⟩ := h fault List.mem_cons_self
    have hne : ∀ name ∈ fieldNames, name.toList ≠ [] := by decide
    have hfirst : (FieldFault.messages (fault :: rest)).toList.head? = name.toList.head? := by
      obtain ⟨c, others, hchars⟩ := List.exists_cons_of_ne_nil (hne name hname)
      have hmessage : fault.message.toList = c :: (others ++ behind ++ ": ".toList ++
          fault.rule.message.toList) := by
        rw [FieldFault.message, String.toList_append, String.toList_append, ← hfield, hchars]
        simp
      rw [FieldFault.messages, String.toList_intercalate, List.map_cons, List.map_cons, hmessage, hchars]
      cases rest <;> simp [List.intercalate_cons_cons]
    rw [hfirst]
    exact List.mem_cons_of_mem _ (List.mem_map_of_mem hname)

theorem head?_malformedIntegerMessage (text : String) :
    (Text.malformedIntegerMessage 10 text).toList.head? = some 'i' := by
  have hfront : "invalid literal for int() with base ".toList.head? = some 'i' := by decide +kernel
  unfold Text.malformedIntegerMessage
  simp only [String.toList_append, List.head?_append]
  rw [hfront]
  rfl

theorem head?_longIntegerMessage (digits : Nat) :
    (Text.longIntegerMessage digits).toList.head? = some 'E' := by
  have hfront : "Exceeds the limit (".toList.head? = some 'E' := by decide +kernel
  unfold Text.longIntegerMessage
  simp only [String.toList_append, List.head?_append]
  rw [hfront]
  rfl

/-- A timeout that is no whole number is worded like no fault of a field. -/
theorem message_timeout_ne {text : String} {reason : Text.IntegerFault} {faults : List FieldFault}
    (h : ∀ fault ∈ faults, NamesField fault) :
    FieldFault.messages faults ≠ (Fault.timeout text reason).message := by
  have hapart : some 'i' ∉ none :: fieldNames.map (fun name => name.toList.head?) ∧
      some 'E' ∉ none :: fieldNames.map (fun name => name.toList.head?) := by decide
  intro hsame
  have hfirst := head?_messages h
  rw [hsame] at hfirst
  cases reason with
  | malformed => exact hapart.1 (head?_malformedIntegerMessage text ▸ hfirst)
  | tooLong digits => exact hapart.2 (head?_longIntegerMessage digits ▸ hfirst)

/-! ## Precedence -/

theorem overriddenFault?_eq_some {fault : Fault}
    (h : overriddenFault? environment overrides = some fault) :
    ((counted overrides).lookup "timeout").isSome ∧ environmentTimeout environment = .error fault := by
  rw [overriddenFault?] at h
  split at h
  · rename_i given found hoverride htimeout
    cases h
    exact ⟨by simp [hoverride], htimeout⟩
  · cases h

/-- The fault of an overridden timeout is what comes of an environment. -/
theorem worded_of_fault {fault : Fault} (h : overriddenFault? environment overrides = some fault) :
    worded environment overrides = .error fault.message := by
  rw [worded, ofEnvironment_eq, (overriddenFault?_eq_some h).2]
  rfl

/-- No environment without such a fault comes to the same. -/
theorem worded_ne_of_fault {fault : Fault} (h : overriddenFault? environment overrides = some fault)
    (hother : overriddenFault? other overrides = none) :
    worded environment overrides ≠ worded other overrides := by
  obtain ⟨hoverride, htimeout⟩ := overriddenFault?_eq_some h
  obtain ⟨given, hgiven⟩ := Option.isSome_iff_exists.1 hoverride
  obtain ⟨text, reason, -, -, rfl⟩ := environmentTimeout_eq_error htimeout
  rw [worded_of_fault h, worded, ofEnvironment_eq]
  rw [overriddenFault?, hgiven] at hother
  cases hsecond : environmentTimeout other with
  | error fault => simp [hsecond] at hother
  | ok second =>
    dsimp only
    cases hvalues : ofValues (counted overrides ++ (textValues other ++ second)) with
    | ok settings => simp [Except.mapError]
    | error faults =>
      intro hsame
      exact message_timeout_ne (ofValues_faults hvalues) (Except.error.inj hsame).symm

/-- **The precedence of settings.** The settings of an environment with overrides are those that are
chosen field by field: the override, or else what is in the variable, or else the default. There are
none exactly if nothing can be chosen so, or if a timeout in the environment is no whole number though
it is overridden. Two environments that differ at most in variables whose fields are overridden come to
the same, settings or fault, exactly if they say the same about such a timeout. -/
theorem ofEnvironment_precedence (environment other : Environment) (overrides : FieldValues) :
    (∀ settings, ofEnvironment environment overrides = .ok settings ↔
      ChosenBy environment overrides settings ∧ overriddenFault? environment overrides = none) ∧
    (AgreeBeside overrides environment other →
      (worded environment overrides = worded other overrides ↔
        (overriddenFault? environment overrides).map Fault.message =
          (overriddenFault? other overrides).map Fault.message)) := by
  refine ⟨fun settings => ofEnvironment_eq_ok_iff, fun hagree => ?_⟩
  cases hfault : overriddenFault? environment overrides with
  | none =>
    cases hother : overriddenFault? other overrides with
    | none => simp [worded, ofEnvironment_congr hagree hfault hother]
    | some second => simp [(worded_ne_of_fault hother hfault).symm]
  | some fault =>
    cases hother : overriddenFault? other overrides with
    | none => simp [worded_ne_of_fault hfault hother]
    | some second => simp [worded_of_fault hfault, worded_of_fault hother]

/-- A base address of the command line hides that of the environment. -/
theorem hidden_base_precedence :
    AgreeBeside [("base_url", .string "https://cli.test")]
        [("ARCHGEN_BASE_URL", "https://a.test"), ("ARCHGEN_TIMEOUT", "60")]
        [("ARCHGEN_BASE_URL", "https://b.test"), ("ARCHGEN_TIMEOUT", "60")] ∧
      worded [("ARCHGEN_BASE_URL", "https://a.test"), ("ARCHGEN_TIMEOUT", "60")]
          [("base_url", .string "https://cli.test")] =
        worded [("ARCHGEN_BASE_URL", "https://b.test"), ("ARCHGEN_TIMEOUT", "60")]
          [("base_url", .string "https://cli.test")] := by
  have hagree : AgreeBeside [("base_url", .string "https://cli.test")]
      [("ARCHGEN_BASE_URL", "https://a.test"), ("ARCHGEN_TIMEOUT", "60")]
      [("ARCHGEN_BASE_URL", "https://b.test"), ("ARCHGEN_TIMEOUT", "60")] := by
    rw [AgreeBeside]
    decide
  exact ⟨hagree, ((ofEnvironment_precedence _ _ _).2 hagree).2 rfl⟩

/-- A timeout that is no whole number stops everything though it is overridden: without it there are
settings. -/
theorem overridden_timeout_refused :
    AgreeBeside [("timeout", .int 5)] [("ARCHGEN_TIMEOUT", "soon")] [] ∧
      ChosenBy [("ARCHGEN_TIMEOUT", "soon")] [("timeout", .int 5)] { timeout := 5 } ∧
      ofEnvironment [("ARCHGEN_TIMEOUT", "soon")] [("timeout", .int 5)] =
        .error (.timeout "soon" .malformed) ∧
      ofEnvironment [] [("timeout", .int 5)] = .ok { timeout := 5 } := by
  have hagree : AgreeBeside [("timeout", .int 5)] [("ARCHGEN_TIMEOUT", "soon")] [] := by
    rw [AgreeBeside]
    decide
  exact ⟨hagree, ⟨rfl, rfl, rfl, rfl, rfl, rfl, rfl, rfl⟩, rfl, rfl⟩

end DartLayers.Settings
