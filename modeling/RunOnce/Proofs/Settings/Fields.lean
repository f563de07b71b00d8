import RunOnce.Proofs.Model.Admission
import RunOnce.Settings.Sources

/-!
# Settings field by field

Each setting is read from a value of its own and does not depend on the others. Settings are
read exactly if each of them is, and otherwise there is one issue for each setting whose value
means nothing for it, at the name of the setting.
-/

namespace RunOnce.Document

open RunOnce.Text

/-! ## Readings with one issue at most -/

namespace Checked

universe u

variable {α β : Type u}

/-- Whether all that can be wrong with a reading is one issue at what is read. -/
def IsSimple (x : Checked α) : Prop :=
  ∀ issues, x = .invalid issues → ∃ cause, issues = [⟨[], cause⟩]

theorem isSimple_valid (value : α) : IsSimple (.valid value) := by
  rintro issues ⟨⟩

theorem isSimple_issue (cause : Cause) : IsSimple (.issue cause : Checked α) := by
  rintro issues ⟨⟩
  exact ⟨cause, rfl⟩

theorem IsSimple.andThen {x : Checked α} {next : α → Checked β} (simple : x.IsSimple)
    (nextSimple : ∀ value, (next value).IsSimple) : (x.andThen next).IsSimple := by
  cases x with
  | valid value => exact nextSimple value
  | invalid issues =>
    rintro _ ⟨⟩
    exact simple issues rfl

end Checked

open Checked

theorem isSimple_readText (value : Value) : (readText value).IsSimple := by
  cases value with
  | text characters => exact isSimple_valid _
  | damagedText codes kept => exact isSimple_valid _
  | bytes content =>
    simp only [readText]
    split
    · exact isSimple_valid _
    · exact isSimple_issue _
  | _ => exact isSimple_issue _

theorem isSimple_readCharacters (value : Value) : (readCharacters value).IsSimple := by
  unfold readCharacters
  split
  · exact isSimple_issue _
  · exact isSimple_readText _

theorem isSimple_readBoolText (characters : String) : (readBoolText characters).IsSimple := by
  unfold readBoolText
  split
  · exact isSimple_valid _
  · exact isSimple_issue _

theorem isSimple_readBoolInt (n : Int) : (readBoolInt n).IsSimple := by
  unfold readBoolInt
  split
  · exact isSimple_valid _
  · split
    · exact isSimple_valid _
    · exact isSimple_issue _

theorem isSimple_readBool (value : Value) : (readBool value).IsSimple := by
  cases value with
  | bool truth => exact isSimple_valid _
  | int n =>
    simp only [readBool]
    split
    · exact isSimple_readBoolInt n
    · exact isSimple_issue _
  | float x =>
    simp only [readBool]
    split
    · split
      · exact isSimple_readBoolInt _
      · exact isSimple_issue _
    · exact isSimple_issue _
  | text characters => exact isSimple_readBoolText characters
  | bytes content =>
    simp only [readBool]
    cases textOfBytes? content with
    | none => exact isSimple_issue _
    | some characters => exact isSimple_readBoolText characters
  | _ => exact isSimple_issue _

theorem isSimple_readIntText (characters : String) : (readIntText characters).IsSimple := by
  unfold readIntText
  split
  · exact isSimple_issue _
  · split
    · exact isSimple_valid _
    · exact isSimple_issue _

theorem isSimple_readInt (value : Value) : (readInt value).IsSimple := by
  cases value with
  | int n => exact isSimple_valid _
  | bool truth => exact isSimple_valid _
  | float x =>
    simp only [readInt]
    split
    · exact isSimple_issue _
    · split
      · exact isSimple_issue _
      · split
        · exact isSimple_valid _
        · exact isSimple_issue _
  | text characters => exact isSimple_readIntText characters
  | bytes content =>
    simp only [readInt]
    cases textOfBytes? content with
    | none => exact isSimple_issue _
    | some characters => exact isSimple_readIntText characters
  | _ => exact isSimple_issue _

theorem isSimple_readIntBetween (low high : Nat) (value : Value) :
    (readIntBetween low high value).IsSimple := by
  apply (isSimple_readInt value).andThen
  intro n
  split
  · exact isSimple_issue _
  · split
    · exact isSimple_issue _
    · exact isSimple_valid _

theorem isSimple_readName (value : Value) : (readName value).IsSimple := by
  apply (isSimple_readCharacters value).andThen
  intro name
  split
  · exact isSimple_issue _
  · exact isSimple_valid _

theorem isSimple_readLiteral {α : Type} (words : List (String × α)) (value : Value) :
    (readLiteral words value).IsSimple := by
  cases value with
  | text word =>
    simp only [readLiteral]
    split
    · exact isSimple_valid _
    · exact isSimple_issue _
  | _ => exact isSimple_issue _

/-! ## Values that are read -/

/-- A parameter order is read exactly from its name. -/
theorem readLiteral_parameterOrders_eq_valid_iff {value : Value} {order : ParameterOrder} :
    readLiteral Settings.parameterOrders value = .valid order ↔ value = .text order.label := by
  cases value with
  | text word =>
    by_cases sorted : word = "sorted"
    · cases order <;> simp [readLiteral, Settings.parameterOrders, ParameterOrder.label, sorted]
    · by_cases declared : word = "declared"
      · cases order <;>
          simp [readLiteral, Settings.parameterOrders, ParameterOrder.label, declared]
      · have neither : ¬ "sorted" = word ∧ ¬ "declared" = word := ⟨Ne.symm sorted, Ne.symm declared⟩
        cases order <;>
          simp [readLiteral, Settings.parameterOrders, ParameterOrder.label, sorted, declared,
            neither, issue]
  | _ => simp [readLiteral, issue]

theorem readIntBetween_eq_valid_iff {low high : Nat} {value : Value} {n : Nat} :
    readIntBetween low high value = .valid n ↔
      readInt value = .valid (n : Int) ∧ low ≤ n ∧ n ≤ high := by
  rw [readIntBetween, andThen_eq_valid_iff]
  constructor
  · rintro ⟨read, valid, bounded⟩
    split at bounded
    · cases bounded
    · split at bounded
      · cases bounded
      · cases bounded
        have same : (read.toNat : Int) = read := by omega
        exact ⟨same ▸ valid, by omega, by omega⟩
  · rintro ⟨valid, above, below⟩
    refine ⟨n, valid, ?_⟩
    rw [if_neg (by omega), if_neg (by omega), Int.toNat_natCast]

theorem readName_eq_valid_iff {value : Value} {name : String} :
    readName value = .valid name ↔ readCharacters value = .valid name ∧ name ≠ "" := by
  rw [readName, andThen_eq_valid_iff]
  constructor
  · rintro ⟨read, valid, nonempty⟩
    split at nonempty
    · cases nonempty
    · cases nonempty
      exact ⟨valid, ‹_›⟩
  · rintro ⟨valid, nonempty⟩
    exact ⟨name, valid, if_neg nonempty⟩

end RunOnce.Document

namespace RunOnce.Settings

open RunOnce.Document

/-! ## The settings one by one -/

/-- One of the settings. -/
inductive Field
  | parameterOrder
  | emitItemSchemas
  | detectCycles
  | maxWorkers
  | indentSize
  | defaultTargetProperty
deriving DecidableEq, Repr

namespace Field

/-- All settings, in the order in which they are read. -/
def all : List Field :=
  [parameterOrder, emitItemSchemas, detectCycles, maxWorkers, indentSize, defaultTargetProperty]

theorem mem_all (field : Field) : field ∈ all := by
  cases field <;> decide

/-- The name of a setting. -/
def name : Field → String
  | parameterOrder => "parameter_order"
  | emitItemSchemas => "emit_item_schemas"
  | detectCycles => "detect_cycles"
  | maxWorkers => "max_workers"
  | indentSize => "indent_size"
  | defaultTargetProperty => "default_target_property"

example : all.map name = settingNames :=
  rfl

theorem name_injective : Function.Injective name := by
  intro field other same
  cases field <;> cases other <;> first | rfl | simp [name] at same

/-- What a setting can be. -/
abbrev Meaning : Field → Type
  | parameterOrder => ParameterOrder
  | emitItemSchemas | detectCycles => Bool
  | maxWorkers | indentSize => Nat
  | defaultTargetProperty => String

/-- Whether a value means something for a setting. -/
def Means : (field : Field) → Value → field.Meaning → Prop
  | parameterOrder, value, order => value = .text (ParameterOrder.label order)
  | emitItemSchemas, value, written => readBool value = .valid written
  | detectCycles, value, refused => readBool value = .valid refused
  | maxWorkers, value, count =>
    readInt value = .valid (Int.ofNat count) ∧ 1 ≤ count ∧ count ≤ 64
  | indentSize, value, size => readInt value = .valid (Int.ofNat size) ∧ 1 ≤ size ∧ size ≤ 16
  | defaultTargetProperty, value, name => readCharacters value = .valid name ∧ name ≠ ""

/-- Whether a value means nothing for a setting. -/
def Invalid (field : Field) (value : Value) : Prop :=
  ∀ meaning, ¬ field.Means value meaning

/-- Read one setting from a value. -/
def read : (field : Field) → Value → Checked field.Meaning
  | parameterOrder => readLiteral parameterOrders
  | emitItemSchemas => readBool
  | detectCycles => readBool
  | maxWorkers => readIntBetween 1 64
  | indentSize => readIntBetween 1 16
  | defaultTargetProperty => readName

theorem read_eq_valid_iff {field : Field} {value : Value} {meaning : field.Meaning} :
    field.read value = .valid meaning ↔ field.Means value meaning := by
  cases field with
  | parameterOrder => exact readLiteral_parameterOrders_eq_valid_iff
  | emitItemSchemas => exact .rfl
  | detectCycles => exact .rfl
  | maxWorkers => exact readIntBetween_eq_valid_iff
  | indentSize => exact readIntBetween_eq_valid_iff
  | defaultTargetProperty => exact readName_eq_valid_iff

theorem isSimple_read (field : Field) (value : Value) : (field.read value).IsSimple := by
  cases field with
  | parameterOrder => exact isSimple_readLiteral _ _
  | emitItemSchemas => exact isSimple_readBool _
  | detectCycles => exact isSimple_readBool _
  | maxWorkers => exact isSimple_readIntBetween _ _ _
  | indentSize => exact isSimple_readIntBetween _ _ _
  | defaultTargetProperty => exact isSimple_readName _

end Field

/-- What one of the settings is. -/
def value (settings : Settings) : (field : Field) → field.Meaning
  | .parameterOrder => settings.parameterOrder
  | .emitItemSchemas => settings.emitItemSchemas
  | .detectCycles => settings.detectCycles
  | .maxWorkers => settings.maxWorkers
  | .indentSize => settings.indentSize
  | .defaultTargetProperty => settings.defaultTargetProperty

/-- The setting that some value gives, or its default if there is none. -/
def Field.Gives (field : Field) : Option Value → field.Meaning → Prop
  | some value, meaning => field.Means value meaning
  | none, meaning => meaning = Settings.value {} field

/-- No value gives two things to one setting. -/
theorem Field.Gives.unique {field : Field} {value? : Option Value} {meaning other : field.Meaning}
    (gives : field.Gives value? meaning) (givesOther : field.Gives value? other) :
    meaning = other := by
  cases value? with
  | none => exact gives.trans givesOther.symm
  | some value =>
    have read := Field.read_eq_valid_iff.mpr gives
    rw [Field.read_eq_valid_iff.mpr givesOther] at read
    exact (Checked.valid.inj read).symm

namespace Sources

variable {sources : Sources}

/-- Read one of the settings from some sources. -/
def read (sources : Sources) (field : Field) : Checked field.Meaning :=
  sources.setting field.name field.read (Settings.value {} field)

theorem read_eq_valid_iff {field : Field} {meaning : field.Meaning} :
    sources.read field = .valid meaning ↔
      field.Gives (sources.effective? field.name) meaning := by
  unfold read setting
  cases sources.effective? field.name with
  | none => exact ⟨fun same => (Checked.valid.inj same).symm, fun same => congrArg _ same.symm⟩
  | some value => rw [Checked.under_eq_valid_iff, Field.read_eq_valid_iff]; rfl

/-- A setting without a meaning makes one issue, at its name. -/
theorem places_read (field : Field) :
    (sources.read field).issues = [] ∨
      (sources.read field).issues.map Issue.place = [[.key field.name]] := by
  unfold read setting
  cases sources.effective? field.name with
  | none => exact .inl rfl
  | some value =>
    cases ended : field.read value with
    | valid meaning => exact .inl (by simp [ended, Checked.under, Checked.issues])
    | invalid issues =>
      obtain ⟨cause, rfl⟩ := field.isSimple_read value issues ended
      exact .inr (by simp [ended, Checked.under, Checked.issues])

/-- There is an issue exactly if the value that is taken means nothing. -/
theorem issues_read_ne_nil_iff {field : Field} :
    (sources.read field).issues ≠ [] ↔
      ∃ value, sources.effective? field.name = some value ∧ field.Invalid value := by
  unfold read setting
  cases sources.effective? field.name with
  | none => simp [Checked.issues]
  | some value =>
    simp only [Option.some.injEq, exists_eq_left', Field.Invalid, ← Field.read_eq_valid_iff]
    cases ended : field.read value with
    | valid meaning => simp [Checked.under, Checked.issues]
    | invalid issues =>
      obtain ⟨cause, rfl⟩ := field.isSimple_read value issues ended
      simp [Checked.under, Checked.issues]

end Sources

/-- Settings are read exactly if each of them is. -/
theorem read_eq_valid_iff {sources : Sources} {settings : Settings} :
    Settings.read sources = .valid settings ↔
      ∀ field, sources.read field = .valid (settings.value field) := by
  constructor
  · intro valid
    obtain ⟨_, property, upToIndent, propertyRead, rfl⟩ := Checked.seq_eq_valid_iff.mp valid
    obtain ⟨_, indent, upToWorkers, indentRead, rfl⟩ := Checked.seq_eq_valid_iff.mp upToIndent
    obtain ⟨_, workers, upToCycles, workersRead, rfl⟩ := Checked.seq_eq_valid_iff.mp upToWorkers
    obtain ⟨_, cycles, upToSchemas, cyclesRead, rfl⟩ := Checked.seq_eq_valid_iff.mp upToCycles
    obtain ⟨_, schemas, upToOrder, schemasRead, rfl⟩ := Checked.seq_eq_valid_iff.mp upToSchemas
    obtain ⟨order, orderRead, rfl⟩ := Checked.map_eq_valid_iff.mp upToOrder
    intro field
    cases field <;> assumption
  · intro each
    have same : Settings.read sources =
        Settings.mk <$> sources.read .parameterOrder <*> sources.read .emitItemSchemas
          <*> sources.read .detectCycles <*> sources.read .maxWorkers
          <*> sources.read .indentSize <*> sources.read .defaultTargetProperty := rfl
    simp only [same, each]
    rfl

/-- There are settings unless some value that is taken means nothing. -/
theorem exists_read_eq_valid_iff {sources : Sources} :
    (∃ settings, Settings.read sources = .valid settings) ↔
      ∀ (field : Field) value, sources.effective? field.name = some value →
        ¬ field.Invalid value := by
  simp only [read_eq_valid_iff, Sources.read_eq_valid_iff]
  constructor
  · rintro ⟨settings, gives⟩ field value taken invalid
    have means := gives field
    rw [taken] at means
    exact invalid _ means
  · intro meaningful
    have each (field : Field) :
        ∃ meaning, field.Gives (sources.effective? field.name) meaning := by
      cases taken : sources.effective? field.name with
      | none => exact ⟨_, rfl⟩
      | some value =>
        obtain ⟨meaning, means⟩ := not_forall_not.mp (meaningful field value taken)
        exact ⟨meaning, means⟩
    choose meaning gives using each
    refine ⟨⟨meaning .parameterOrder, meaning .emitItemSchemas, meaning .detectCycles,
      meaning .maxWorkers, meaning .indentSize, meaning .defaultTargetProperty⟩, fun field => ?_⟩
    have given := gives field
    cases field <;> exact given

/-- The issues of settings are those of each of them. -/
theorem issues_read (sources : Sources) :
    (Settings.read sources).issues =
      Field.all.flatMap fun field => (sources.read field).issues := by
  change (Settings.mk <$> sources.read .parameterOrder <*> sources.read .emitItemSchemas
    <*> sources.read .detectCycles <*> sources.read .maxWorkers
    <*> sources.read .indentSize <*> sources.read .defaultTargetProperty).issues = _
  simp [Field.all]

/-- The issues of settings stand at the names of those that have issues. -/
theorem places_flatMap_read (sources : Sources) (fields : List Field) :
    (fields.flatMap fun field => (sources.read field).issues).map Issue.place =
      (fields.filter fun field => !(sources.read field).issues.isEmpty).map
        fun field => [.key field.name] := by
  induction fields with
  | nil => rfl
  | cons field rest ih =>
    rw [List.flatMap_cons, List.map_append, ih]
    rcases sources.places_read field with none | one
    · simp [none]
    · have some : (sources.read field).issues.isEmpty = false := by
        cases found : (sources.read field).issues with
        | nil => simp [found] at one
        | cons => rfl
      simp [one, some]

/-- There is one issue for each setting whose value means nothing, at its name and in the
order of the settings. -/
theorem exists_invalid_fields (sources : Sources) :
    ∃ wrong : List Field, wrong.Sublist Field.all ∧
      (∀ field, field ∈ wrong ↔
        ∃ value, sources.effective? field.name = some value ∧ field.Invalid value) ∧
      (Settings.read sources).issues.map Issue.place =
        wrong.map fun field => [.key field.name] := by
  refine ⟨Field.all.filter fun field => !(sources.read field).issues.isEmpty,
    List.filter_sublist, fun field => ?_, ?_⟩
  · rw [← Sources.issues_read_ne_nil_iff, List.mem_filter]
    simp [field.mem_all]
  · rw [issues_read, places_flatMap_read]

end RunOnce.Settings
