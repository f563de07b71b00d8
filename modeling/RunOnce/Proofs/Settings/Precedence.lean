import RunOnce.Proofs.Command.Output
import RunOnce.Proofs.Settings.Fields

/-!
# Where settings are taken from

When a project is compiled, each setting is taken from the last option that is given for it,
else from the last variable of the environment that is named for it, else from the last entry
of the environment file that is, else it keeps its default. Only the values that are taken
matter: what any other source says is not even looked at, so that an option makes good for a
variable that has no meaning. There are no settings exactly if some value that is taken means
nothing, and all such settings are told.
-/

namespace RunOnce.Settings

open RunOnce.Command
open RunOnce.Command.CompileCommand
open RunOnce.Document
open RunOnce.Files
open RunOnce.Source
open RunOnce.Text

/-! ## The last of a kind -/

/-- Whether an element is the last one of its kind in a list. -/
def IsLast {α : Type} (kind : α → Prop) (elements : List α) (element : α) : Prop :=
  ∃ before after, elements = before ++ element :: after ∧ kind element ∧
    ∀ later ∈ after, ¬ kind later

section Last

variable {α β : Type} {elements : List α} {element : α}

theorem findSome?_reverse_eq_some_iff {pick : α → Option β} {value : β} :
    elements.reverse.findSome? pick = some value ↔
      ∃ element, IsLast (fun element => (pick element).isSome = true) elements element ∧
        pick element = some value := by
  rw [List.findSome?_eq_some_iff]
  constructor
  · rintro ⟨after, element, before, split, picked, others⟩
    refine ⟨element, ⟨before.reverse, after.reverse, ?_, by simp [picked], ?_⟩, picked⟩
    · simpa using congrArg List.reverse split
    · simpa using others
  · rintro ⟨element, ⟨before, after, rfl, _, others⟩, picked⟩
    exact ⟨after.reverse, element, before.reverse, by simp, picked, by simpa using others⟩

theorem find?_reverse_eq_some_iff {kind : α → Bool} :
    elements.reverse.find? kind = some element ↔ IsLast (kind · = true) elements element := by
  rw [List.find?_eq_some_iff_append]
  constructor
  · rintro ⟨here, after, before, split, others⟩
    refine ⟨before.reverse, after.reverse, ?_, here, ?_⟩
    · simpa using congrArg List.reverse split
    · simpa using others
  · rintro ⟨before, after, rfl, here, others⟩
    exact ⟨here, after.reverse, before.reverse, by simp, by simpa using others⟩

theorem IsLast.mem {kind : α → Prop} (last : IsLast kind elements element) :
    element ∈ elements := by
  obtain ⟨before, after, rfl, _⟩ := last
  simp

theorem IsLast.here {kind : α → Prop} (last : IsLast kind elements element) : kind element := by
  obtain ⟨_, _, _, here, _⟩ := last
  exact here

theorem exists_isLast {kind : α → Prop} [DecidablePred kind] (listed : element ∈ elements)
    (here : kind element) : ∃ last, IsLast kind elements last := by
  cases found : elements.reverse.find? fun element => decide (kind element) with
  | none =>
    have none := List.find?_eq_none.mp found element (List.mem_reverse.mpr listed)
    exact absurd (decide_eq_true here) none
  | some last => exact ⟨last, by simpa using find?_reverse_eq_some_iff.mp found⟩

end Last

/-! ## Options, variables and entries -/

namespace Field

/-- The option for a setting. -/
def choice? : Field → Option Choice
  | parameterOrder => some .parameterOrder
  | emitItemSchemas => some .itemSchemas
  | detectCycles => some .detectCycles
  | maxWorkers => some .workers
  | indentSize | defaultTargetProperty => none

/-- The name of the variable for a setting, which may be written in any case. -/
def variableName : Field → String
  | parameterOrder => "FLATBUILD_PARAMETER_ORDER"
  | emitItemSchemas => "FLATBUILD_EMIT_ITEM_SCHEMAS"
  | detectCycles => "FLATBUILD_DETECT_CYCLES"
  | maxWorkers => "FLATBUILD_MAX_WORKERS"
  | indentSize => "FLATBUILD_INDENT_SIZE"
  | defaultTargetProperty => "FLATBUILD_DEFAULT_TARGET_PROPERTY"

/-- Whether an option is one for a setting. -/
def OptedBy (field : Field) (option : Given) : Prop :=
  field.choice? = some option.choice

instance (field : Field) : DecidablePred field.OptedBy :=
  fun option => inferInstanceAs (Decidable (field.choice? = some option.choice))

/-- Whether a name is that of the variable for a setting. -/
def NamedBy (field : Field) (name : String) : Prop :=
  lower name = lower field.variableName

end Field

/-- The value that an option carries for its setting. -/
inductive Carries : Given → Value → Prop
  | parameterOrder (order : String) : Carries (.parameterOrder order) (.text order)
  | itemSchemas (written : Bool) : Carries (.itemSchemas written) (.bool written)
  | detectCycles (refused : Bool) : Carries (.detectCycles refused) (.bool refused)
  | workers {shown : String} {count : Nat} (read : readWorkers shown = .ok count) :
      Carries (.workers shown) (.int count)

/-- The value that is taken for a setting, or none if it keeps its default. -/
inductive Taken (given : List Given) (environment : List (String × String))
    (entries : Assoc (Option String)) (field : Field) : Option Value → Prop
  | option {option : Given} {value : Value} (last : IsLast field.OptedBy given option)
      (carries : Carries option value) : Taken given environment entries field (some value)
  | environment {name text : String} (unopted : ∀ option ∈ given, ¬ field.OptedBy option)
      (last : IsLast (field.NamedBy ·.1) environment (name, text)) :
      Taken given environment entries field (some (.text text))
  | file {name text : String} (unopted : ∀ option ∈ given, ¬ field.OptedBy option)
      (unset : ∀ setting ∈ environment, ¬ field.NamedBy setting.1)
      (last : IsLast (field.NamedBy ·.1) entries (name, some text)) :
      Taken given environment entries field (some (.text text))
  | default (unopted : ∀ option ∈ given, ¬ field.OptedBy option)
      (unset : ∀ setting ∈ environment, ¬ field.NamedBy setting.1)
      (missing : ∀ name text, ¬ IsLast (field.NamedBy ·.1) entries (name, some text)) :
      Taken given environment entries field none

variable {given : List Given} {environment : List (String × String)}
  {entries : Assoc (Option String)} {field : Field}

/-! ## What options carry -/

/-- The value that options give to a setting. -/
def opted? (given : List Given) : Field → Option Value
  | .parameterOrder => (orderOf given).bind fun order => some (.text order)
  | .emitItemSchemas => (itemSchemasOf given).bind fun written => some (.bool written)
  | .detectCycles => (detectCyclesOf given).bind fun refused => some (.bool refused)
  | .maxWorkers =>
    (workersOf given).bind fun count => (readWorkers count).toOption.map fun count => .int count
  | .indentSize | .defaultTargetProperty => none

/-- What the last option for a setting gives is the last thing that is picked. -/
theorem last?_eq_some_iff {α : Type} {pick : Given → Option α}
    (kind : ∀ option, field.OptedBy option ↔ (pick option).isSome = true) {picked : α} :
    last? given pick = some picked ↔
      ∃ option, IsLast field.OptedBy given option ∧ pick option = some picked := by
  have same : field.OptedBy = fun option => (pick option).isSome = true :=
    funext fun option => propext (kind option)
  rw [last?, List.getLast?_filterMap, findSome?_reverse_eq_some_iff, same]

theorem last?_bind_eq_some_iff {α : Type} {pick : Given → Option α} {meaning? : α → Option Value}
    (kind : ∀ option, field.OptedBy option ↔ (pick option).isSome = true)
    (carries : ∀ option picked value, pick option = some picked →
      (Carries option value ↔ meaning? picked = some value)) {value : Value} :
    (last? given pick).bind meaning? = some value ↔
      ∃ option, IsLast field.OptedBy given option ∧ Carries option value := by
  simp only [Option.bind_eq_some_iff, last?_eq_some_iff kind]
  constructor
  · rintro ⟨picked, ⟨option, last, found⟩, means⟩
    exact ⟨option, last, (carries option picked value found).mpr means⟩
  · rintro ⟨option, last, carrying⟩
    obtain ⟨picked, found⟩ := Option.isSome_iff_exists.mp ((kind option).mp last.here)
    exact ⟨picked, ⟨option, last, found⟩, (carries option picked value found).mp carrying⟩

theorem optedBy_parameterOrder_iff {option : Given} :
    Field.OptedBy .parameterOrder option ↔ ∃ order, option = .parameterOrder order := by
  cases option <;> simp [Field.OptedBy, Field.choice?, Given.choice]

theorem optedBy_emitItemSchemas_iff {option : Given} :
    Field.OptedBy .emitItemSchemas option ↔ ∃ written, option = .itemSchemas written := by
  cases option <;> simp [Field.OptedBy, Field.choice?, Given.choice]

theorem optedBy_detectCycles_iff {option : Given} :
    Field.OptedBy .detectCycles option ↔ ∃ refused, option = .detectCycles refused := by
  cases option <;> simp [Field.OptedBy, Field.choice?, Given.choice]

theorem optedBy_maxWorkers_iff {option : Given} :
    Field.OptedBy .maxWorkers option ↔ ∃ shown, option = .workers shown := by
  cases option <;> simp [Field.OptedBy, Field.choice?, Given.choice]

theorem opted?_eq_some_iff {value : Value} :
    opted? given field = some value ↔
      ∃ option, IsLast field.OptedBy given option ∧ Carries option value := by
  cases field with
  | parameterOrder | emitItemSchemas | detectCycles =>
    refine last?_bind_eq_some_iff (fun option => ?_) fun option picked value found => ?_
    · cases option <;> simp [Field.OptedBy, Field.choice?, Given.choice]
    · cases option <;> cases found
      exact ⟨by rintro ⟨_⟩; rfl, by rintro ⟨_⟩; constructor⟩
  | maxWorkers =>
    refine last?_bind_eq_some_iff (fun option => ?_) fun option picked value found => ?_
    · cases option <;> simp [Field.OptedBy, Field.choice?, Given.choice]
    · cases option <;> cases found
      constructor
      · rintro (_ | _ | _ | ⟨read⟩)
        simp [read, Except.toOption]
      · cases read : readWorkers picked with
        | error problem => simp [Except.toOption]
        | ok count =>
          rintro ⟨_⟩
          exact .workers read
  | indentSize | defaultTargetProperty => simp [opted?, IsLast, Field.OptedBy, Field.choice?]

/-! ## Options that are accepted -/

/-- A number of workers that an option takes is one that the setting takes. -/
theorem not_invalid_of_readWorkers {shown : String} {count : Nat}
    (read : readWorkers shown = .ok count) : ¬ Field.Invalid .maxWorkers (.int count) := by
  unfold readWorkers readRange at read
  split at read
  · cases read
  · rename_i value _
    split at read
    · cases read
      have above : 1 ≤ value.toNat := by omega
      have below : value.toNat ≤ 64 := by omega
      exact fun invalid => invalid value.toNat ⟨rfl, above, below⟩
    · cases read

/-- The last option for a setting carries a value that means something for it, if nothing is
wrong with the options. -/
theorem exists_carries {outputIsDirectory : Bool}
    (sound : ∀ option ∈ given, problem? given outputIsDirectory option.choice = none)
    {option : Given} (last : IsLast field.OptedBy given option) :
    ∃ value, Carries option value ∧ ¬ field.Invalid value := by
  have unproblematic := sound option last.mem
  have opted := last.here
  cases field with
  | parameterOrder =>
    obtain ⟨order, rfl⟩ := optedBy_parameterOrder_iff.mp opted
    have prevails : orderOf given = some order :=
      (last?_eq_some_iff fun option => by
        cases option <;> simp [Field.OptedBy, Field.choice?, Given.choice]).mpr ⟨_, last, rfl⟩
    have listed : order ∈ orderWords := by
      by_contra unlisted
      simp [Given.choice, problem?, prevails, readChoice, unlisted] at unproblematic
    refine ⟨.text order, .parameterOrder order, fun invalid => ?_⟩
    obtain rfl | rfl : order = "sorted" ∨ order = "declared" := by simpa [orderWords] using listed
    · exact invalid .sorted rfl
    · exact invalid .declared rfl
  | emitItemSchemas =>
    obtain ⟨written, rfl⟩ := optedBy_emitItemSchemas_iff.mp opted
    exact ⟨.bool written, .itemSchemas written, fun invalid => invalid written rfl⟩
  | detectCycles =>
    obtain ⟨refused, rfl⟩ := optedBy_detectCycles_iff.mp opted
    exact ⟨.bool refused, .detectCycles refused, fun invalid => invalid refused rfl⟩
  | maxWorkers =>
    obtain ⟨shown, rfl⟩ := optedBy_maxWorkers_iff.mp opted
    have prevails : workersOf given = some shown :=
      (last?_eq_some_iff fun option => by
        cases option <;> simp [Field.OptedBy, Field.choice?, Given.choice]).mpr ⟨_, last, rfl⟩
    cases read : readWorkers shown with
    | error problem => simp [Given.choice, problem?, prevails, read] at unproblematic
    | ok count => exact ⟨.int count, .workers read, not_invalid_of_readWorkers read⟩
  | indentSize | defaultTargetProperty => cases opted

/-- Options give nothing to a setting exactly if none is for it, if nothing is wrong with
them. -/
theorem opted?_eq_none_iff {outputIsDirectory : Bool}
    (sound : ∀ option ∈ given, problem? given outputIsDirectory option.choice = none) :
    opted? given field = none ↔ ∀ option ∈ given, ¬ field.OptedBy option := by
  constructor
  · intro none option listed opted
    obtain ⟨option, last⟩ := exists_isLast listed opted
    obtain ⟨value, carries, _⟩ := exists_carries sound last
    have given := opted?_eq_some_iff.mpr ⟨option, last, carries⟩
    simp [none] at given
  · intro unopted
    refine Option.eq_none_iff_forall_ne_some.mpr fun value opted => ?_
    obtain ⟨option, last, _⟩ := opted?_eq_some_iff.mp opted
    exact unopted option last.mem last.here

/-! ## What is looked up -/

/-- The sources of the settings when a project is compiled. -/
def sourcesOf (given : List Given) (environment : List (String × String))
    (entries : Assoc (Option String)) : Sources where
  arguments := settingsArguments given
  environment
  file := entries
  search := .ofArguments (settingsArguments given)

/-- The arguments are what options give to settings. -/
theorem settingsArguments_eq (given : List Given) :
    settingsArguments given =
      Field.all.filterMap fun field => (opted? given field).map (field.name, ·) := by
  rw [List.filterMap_eq_flatMap_toList]
  simp only [settingsArguments, Field.all, opted?]
  cases workersOf given with
  | none => cases orderOf given <;> cases itemSchemasOf given <;> cases detectCyclesOf given <;> rfl
  | some count =>
    simp only [Option.bind_some]
    cases readWorkers count <;> cases orderOf given <;> cases itemSchemasOf given <;>
      cases detectCyclesOf given <;> rfl

theorem mem_settingsArguments_iff {argument : String × Value} :
    argument ∈ settingsArguments given ↔
      ∃ field value, opted? given field = some value ∧ argument = (field.name, value) := by
  simp only [settingsArguments_eq, List.mem_filterMap, Field.mem_all, true_and,
    Option.map_eq_some_iff]
  exact exists_congr fun field => exists_congr fun value => and_congr_right fun _ => eq_comm

/-- An argument that names a setting directs nothing. -/
theorem direct_of_name (search : Search) (field : Field) (value : Value) :
    search.direct (field.name, value) = search := by
  cases field <;> cases value <;> rfl

/-- Options leave the search for settings as it is. -/
theorem ofArguments_settingsArguments (given : List Given) :
    Search.ofArguments (settingsArguments given) = {} := by
  rw [Search.ofArguments, settingsArguments_eq, List.foldl_filterMap]
  refine List.foldl_fixed' (fun field => ?_) Field.all
  cases opted? given field with
  | none => rfl
  | some value => exact direct_of_name _ field value

theorem lower_name : lower field.name = field.name := by
  cases field <;> decide +kernel

/-- The argument for a setting is what options give to it. -/
theorem argument?_sourcesOf :
    (sourcesOf given environment entries).argument? field.name = opted? given field := by
  have argued : ∀ argument, argument ∈ settingsArguments given →
      (lower argument.1 == field.name) = true →
      opted? given field = some argument.2 := by
    rintro argument listed named
    obtain ⟨other, value, opted, rfl⟩ := mem_settingsArguments_iff.mp listed
    rw [beq_iff_eq, lower_name] at named
    obtain rfl := Field.name_injective named
    exact opted
  change ((settingsArguments given).find? fun argument => lower argument.1 == field.name).map
    Prod.snd = _
  cases found : (settingsArguments given).find? fun argument => lower argument.1 == field.name with
  | some argument =>
    have named := List.find?_some found
    exact (argued argument (List.mem_of_find?_eq_some found) named).symm
  | none =>
    cases opted : opted? given field with
    | none => rfl
    | some value =>
      have listed : (field.name, value) ∈ settingsArguments given :=
        mem_settingsArguments_iff.mpr ⟨field, value, opted, rfl⟩
      have unnamed := List.find?_eq_none.mp found _ listed
      rw [lower_name, beq_self_eq_true] at unnamed
      exact absurd rfl unnamed

theorem lower_stem_append_name : lower ("FLATBUILD_" ++ field.name) = lower field.variableName := by
  cases field <;> decide +kernel

theorem lastEntry?_sourcesOf (listed : List (String × Option String)) :
    Sources.lastEntry? (sourcesOf given environment entries) listed field.name =
      (listed.reverse.find? fun entry => lower entry.1 == lower field.variableName).bind
        fun entry => entry.2.map .text := by
  have search : (sourcesOf given environment entries).search = {} :=
    ofArguments_settingsArguments given
  have meaning : Search.meaning {} = Value.text := rfl
  simp [search, Sources.lastEntry?, Search.names, meaning, lower_stem_append_name]

/-- The value that is looked up for a setting: that of options, else that of the environment,
else that of the environment file. -/
theorem effective?_sourcesOf :
    (sourcesOf given environment entries).effective? field.name =
      (opted? given field).or
        (((environment.reverse.find? fun setting =>
            lower setting.1 == lower field.variableName).map fun setting => .text setting.2).or
          ((entries.reverse.find? fun entry =>
            lower entry.1 == lower field.variableName).bind fun entry => entry.2.map .text)) := by
  have search : (sourcesOf given environment entries).search = {} :=
    ofArguments_settingsArguments given
  have options : (sourcesOf given environment entries).option? field.name = none := by
    rw [Sources.option?, search]
    rfl
  have known : ∀ listed : List (String × String),
      ((listed.map fun setting => (setting.1, some setting.2)).reverse.find? fun entry =>
          lower entry.1 == lower field.variableName).bind (fun entry => entry.2.map Value.text) =
        (listed.reverse.find? fun setting =>
          lower setting.1 == lower field.variableName).map fun setting => .text setting.2 := by
    intro listed
    rw [← List.map_reverse, List.find?_map, Option.bind_map, Option.map_eq_bind]
    rfl
  simp only [Sources.effective?, options, argument?_sourcesOf, lastEntry?_sourcesOf,
    Option.none_or]
  rw [known]
  simp [sourcesOf]

/-! ## What is taken is what is looked up -/

theorem namedBy_iff {name : String} :
    field.NamedBy name ↔ (lower name == lower field.variableName) = true :=
  beq_iff_eq.symm

theorem find?_named_eq_some_iff {α : Type} {listed : List (String × α)} {entry : String × α} :
    (listed.reverse.find? fun entry => lower entry.1 == lower field.variableName) = some entry ↔
      IsLast (field.NamedBy ·.1) listed entry := by
  simp only [find?_reverse_eq_some_iff, namedBy_iff]

theorem find?_named_eq_none_iff {α : Type} {listed : List (String × α)} :
    (listed.reverse.find? fun entry => lower entry.1 == lower field.variableName) = none ↔
      ∀ entry ∈ listed, ¬ field.NamedBy entry.1 := by
  simp [List.find?_eq_none, namedBy_iff]

/-- A value is taken exactly if it is the one that is looked up. -/
theorem taken_iff {outputIsDirectory : Bool}
    (sound : ∀ option ∈ given, problem? given outputIsDirectory option.choice = none)
    {value? : Option Value} :
    Taken given environment entries field value? ↔
      (sourcesOf given environment entries).effective? field.name = value? := by
  rw [effective?_sourcesOf]
  constructor
  · rintro (⟨last, carries⟩ | ⟨unopted, last⟩ | ⟨unopted, unset, last⟩ |
      ⟨unopted, unset, missing⟩)
    · rw [opted?_eq_some_iff.mpr ⟨_, last, carries⟩, Option.some_or]
    · rw [(opted?_eq_none_iff sound).mpr unopted, find?_named_eq_some_iff.mpr last]
      rfl
    · rw [(opted?_eq_none_iff sound).mpr unopted, find?_named_eq_none_iff.mpr unset,
        find?_named_eq_some_iff.mpr last]
      rfl
    · rw [(opted?_eq_none_iff sound).mpr unopted, find?_named_eq_none_iff.mpr unset]
      simp only [Option.map_none, Option.none_or, Option.bind_eq_none_iff]
      rintro ⟨name, _ | text⟩ found
      · rfl
      · exact absurd (find?_named_eq_some_iff.mp found) (missing name text)
  · rintro rfl
    cases opted : opted? given field with
    | some value =>
      obtain ⟨option, last, carries⟩ := opted?_eq_some_iff.mp opted
      exact .option last carries
    | none =>
      have unopted := (opted?_eq_none_iff sound).mp opted
      cases set : environment.reverse.find? fun setting =>
          lower setting.1 == lower field.variableName with
      | some setting => exact .environment unopted (find?_named_eq_some_iff.mp set)
      | none =>
        have unset := find?_named_eq_none_iff.mp set
        cases found : entries.reverse.find? fun entry =>
            lower entry.1 == lower field.variableName with
        | none =>
          refine .default unopted unset fun name text last => ?_
          rw [find?_named_eq_some_iff.mpr last] at found
          cases found
        | some entry =>
          obtain ⟨name, _ | text⟩ := entry
          · refine .default unopted unset fun other text last => ?_
            rw [find?_named_eq_some_iff.mpr last] at found
            cases found
          · exact .file unopted unset (find?_named_eq_some_iff.mp found)

/-! ## Settings when a project is compiled -/

theorem readSettings_settingsArguments :
    readSettings (settingsArguments given) environment entries [] =
      match Settings.read (sourcesOf given environment entries) with
      | .valid settings => .ok settings
      | .invalid issues => .error (.invalid issues) :=
  rfl

theorem answer_findSecrets_nil (search : Search) (names : List String) (tree : Tree) :
    answer (findSecrets search [] names) tree = .ok [] := by
  induction names with
  | nil => rfl
  | cons name names ih =>
    unfold findSecrets
    rw [answer_bind_of_keeps (keeps_findSecret _ _ _)]
    change answer (findSecrets search [] names >>= _) tree = _
    rw [answer_bind_of_keeps (keeps_findSecrets _ _ _), ih]
    rfl

/-- Settings are found from options, the environment and the environment file. -/
theorem answer_findSettings {tree : Tree}
    (found : answer (readEnvFiles "utf8" environment [".env"]) tree = .ok entries) :
    answer (findSettings (settingsArguments given) environment) tree =
      readSettings (settingsArguments given) environment entries [] := by
  unfold findSettings
  rw [ofArguments_settingsArguments, answer_bind_of_keeps (keeps_readEnvFiles _ _ _), found]
  dsimp only
  rw [answer_bind_of_keeps (keeps_secretDirectories _)]
  change answer (findSecrets {} [] settingNames >>= _) tree = _
  rw [answer_bind_of_keeps (keeps_findSecrets _ _ _), answer_findSecrets_nil]
  rfl

theorem readSettings_eq_ok_iff {settings : Settings} :
    readSettings (settingsArguments given) environment entries [] = .ok settings ↔
      ∀ field, (sourcesOf given environment entries).read field =
        .valid (settings.value field) := by
  rw [← Settings.read_eq_valid_iff, readSettings_settingsArguments]
  split <;> simp_all

theorem readSettings_eq_error_iff {error : SettingsError} :
    readSettings (settingsArguments given) environment entries [] = .error error ↔
      ∃ issues, Settings.read (sourcesOf given environment entries) = .invalid issues ∧
        error = .invalid issues := by
  rw [readSettings_settingsArguments]
  split <;> simp_all [eq_comm]

theorem exists_readSettings_eq_error_iff :
    (∃ error, readSettings (settingsArguments given) environment entries [] = .error error) ↔
      ∃ (field : Field) (value : Value),
        (sourcesOf given environment entries).effective? field.name = some value ∧
          field.Invalid value := by
  have settled : (∃ settings, Settings.read (sourcesOf given environment entries) =
      .valid settings) ↔ _ := exists_read_eq_valid_iff
  rw [readSettings_settingsArguments]
  cases ended : Settings.read (sourcesOf given environment entries) with
  | valid settings =>
    have meaningful := settled.mp ⟨settings, ended⟩
    simpa using meaningful
  | invalid issues =>
    refine ⟨fun _ => ?_, fun _ => ⟨_, rfl⟩⟩
    by_contra meaningful
    push Not at meaningful
    obtain ⟨settings, valid⟩ := settled.mpr meaningful
    rw [ended] at valid
    cases valid

/-- Whether the value that is taken for a setting means nothing for it. -/
def Spoilt (given : List Given) (environment : List (String × String))
    (entries : Assoc (Option String)) (field : Field) : Prop :=
  ∃ value, Taken given environment entries field (some value) ∧ field.Invalid value

/-- Each setting is what the value that is taken for it gives, whatever is taken for the
others. There are none exactly if some value that is taken means nothing, which is never one of
an option, and then the command ends with one issue for each such value. -/
theorem settings_taken_field_by_field {words : List String} {tree : Tree} {read : Words Given}
    {request : Request} (reads : readWords options true words = .ok read)
    (opens : opening words tree = .asked request)
    (found : answer (readEnvFiles "utf8" environment [".env"]) tree = .ok entries) :
    (∀ field, ∃! value?, Taken read.given environment entries field value?) ∧
      (∀ settings, answer (findSettings request.arguments environment) tree = .ok settings ↔
        ∀ field value?, Taken read.given environment entries field value? →
          field.Gives value? (settings.value field)) ∧
      (∀ (field : Field) value? meaning other, field.Gives value? meaning →
        field.Gives value? other → meaning = other) ∧
      (∀ field, (∃ option ∈ read.given, field.OptedBy option) →
        ¬ Spoilt read.given environment entries field) ∧
      ((∃ error, answer (findSettings request.arguments environment) tree = .error error) ↔
        ∃ field, Spoilt read.given environment entries field) ∧
      ∀ error, answer (findSettings request.arguments environment) tree = .error error →
        ∃ (issues : List Issue) (wrong : List Field), error = .invalid issues ∧
          answer (run environment words) tree = { ending := .gaveUp (.invalidSettings issues) } ∧
          wrong.Sublist Field.all ∧
          (∀ field, field ∈ wrong ↔ Spoilt read.given environment entries field) ∧
          issues.map Issue.place = wrong.map fun field => [.key field.name] := by
  obtain ⟨other, readsOther, _, _, rfl, sound⟩ := opening_eq_asked_iff.mp opens
  obtain rfl : read = other := Except.ok.inj (reads.symm.trans readsOther)
  have settles : answer (findSettings (requestOf read.given).arguments environment) tree =
      readSettings (settingsArguments read.given) environment entries [] :=
    answer_findSettings found
  have taken {field : Field} {value? : Option Value} :
      Taken read.given environment entries field value? ↔
        (sourcesOf read.given environment entries).effective? field.name = value? :=
    taken_iff sound
  refine ⟨fun field => ?_, fun settings => ?_, fun _ _ _ _ => Field.Gives.unique, ?_, ?_, ?_⟩
  · exact ⟨_, taken.mpr rfl, fun value? also => (taken.mp also).symm⟩
  · simp only [settles, readSettings_eq_ok_iff, Sources.read_eq_valid_iff, taken, forall_eq']
  · rintro field ⟨option, listed, opted⟩ ⟨value, chosen, invalid⟩
    obtain ⟨option, last⟩ := exists_isLast listed opted
    obtain ⟨carried, carries, meaningful⟩ := exists_carries sound last
    have same := (taken.mp (.option last carries)).symm.trans (taken.mp chosen)
    cases same
    exact meaningful invalid
  · simp only [settles, exists_readSettings_eq_error_iff, Spoilt, taken]
  · intro error fails
    obtain ⟨issues, unread, rfl⟩ := readSettings_eq_error_iff.mp (settles ▸ fails)
    obtain ⟨wrong, ordered, members, places⟩ :=
      exists_invalid_fields (sourcesOf read.given environment entries)
    refine ⟨issues, wrong, rfl, ?_, ordered, ?_, ?_⟩
    · rw [answer, perform_run, opens]
      dsimp only
      unfold execute
      rw [perform_bind_of_keeps (keeps_findSettings _ _), fails]
      rfl
    · simpa only [Spoilt, taken] using members
    · rw [unread] at places
      exact places

/-- Options for two settings. -/
def flagWords : List String :=
  ["--no-item-schemas", "--workers", "4"]

/-- Variables without meaning for three settings. -/
def sloppyEnvironment : List (String × String) :=
  [("FLATBUILD_EMIT_ITEM_SCHEMAS", "perhaps"), ("flatbuild_max_workers", "65"),
    ("FLATBUILD_INDENT_SIZE", "0")]

/-- A tree with an environment file that has a meaning for the indentation only. -/
def sloppyTree : Tree where
  entries :=
    [([".env"], .file "FLATBUILD_INDENT_SIZE=2\nFLATBUILD_PARAMETER_ORDER=random\n".toUTF8)]

/-- The entries of the environment file. -/
def sloppyEntries : Assoc (Option String) :=
  [("FLATBUILD_INDENT_SIZE", some "2"), ("FLATBUILD_PARAMETER_ORDER", some "random")]

/-- Two of the variables do no harm since there are options, and the third one does although
the environment file has a meaning for it. -/
theorem sloppyTree_settings_taken :
    ∃ read issues, readWords options true flagWords = .ok read ∧
      opening flagWords sloppyTree = .asked (requestOf read.given) ∧
      answer (readEnvFiles "utf8" sloppyEnvironment [".env"]) sloppyTree = .ok sloppyEntries ∧
      (∀ field, Spoilt read.given sloppyEnvironment sloppyEntries field ↔
        field = .parameterOrder ∨ field = .indentSize) ∧
      answer (run sloppyEnvironment flagWords) sloppyTree =
        { ending := .gaveUp (.invalidSettings issues) } ∧
      issues.map Issue.place = [[.key "parameter_order"], [.key "indent_size"]] := by
  have reads : readWords options true flagWords =
      .ok { given := [.itemSchemas false, .workers "4"] } := rfl
  have opens : opening flagWords sloppyTree =
      .asked (requestOf [.itemSchemas false, .workers "4"]) := rfl
  have found : answer (readEnvFiles "utf8" sloppyEnvironment [".env"]) sloppyTree =
      .ok sloppyEntries := by
    have listed : (answer (readEnvFiles "utf8" sloppyEnvironment [".env"]) sloppyTree).toOption =
        some sloppyEntries := by decide +kernel
    cases read : answer (readEnvFiles "utf8" sloppyEnvironment [".env"]) sloppyTree <;>
      simp_all [Except.toOption]
  obtain ⟨_, _, _, _, _, issued⟩ := settings_taken_field_by_field reads opens found
  let sources := sourcesOf [.itemSchemas false, .workers "4"] sloppyEnvironment sloppyEntries
  have told : (Settings.read sources).issues.map Issue.place =
      [[.key "parameter_order"], [.key "indent_size"]] := by decide +kernel
  cases unread : Settings.read sources with
  | valid settings =>
    rw [unread] at told
    cases told
  | invalid issues =>
    rw [unread] at told
    have fails := (answer_findSettings found).trans
      (readSettings_eq_error_iff.mpr ⟨issues, unread, rfl⟩)
    obtain ⟨_, wrong, ⟨⟩, ends, _, members, places⟩ := issued _ fails
    have distinct : Function.Injective fun field : Field => [Step.key field.name] :=
      fun field other same => Field.name_injective (by simpa using same)
    have same : wrong = [.parameterOrder, .indentSize] :=
      List.map_injective_iff.mpr distinct (places.symm.trans told)
    exact ⟨_, issues, reads, opens, found, fun field => by simp [← members field, same], ends,
      told⟩

end RunOnce.Settings
