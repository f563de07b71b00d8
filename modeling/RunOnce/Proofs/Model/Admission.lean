import Mathlib.Data.List.Forall2
import RunOnce.Proofs.Model.Validated

/-!
# Which documents are admitted as projects

A document holds a project if each field is read on its own: every entry of its lists is
valid, and there is no other field. Such a document is admitted exactly if the names in each
of its lists are different, and then nothing of it is lost. If it is not admitted, there is
one issue for each list with a repeated name, and it tells of the first entry that repeats
an earlier one.
-/

namespace RunOnce.Document

/-! ## Lists in documents -/

/-- The items of a value that is read as a list. -/
def Value.items? : Value → Option (List Value)
  | .list items _ | .set items => some items
  | .pair first second => some [first, second]
  | _ => none

namespace Checked

universe u

variable {α β : Type u}

/-- All items are read exactly if each of them is, in order. -/
theorem each_eq_valid_iff {read : Value → Checked α} {position : Nat} {items : List Value}
    {entries : List α} :
    Checked.each read position items = .valid entries ↔
      List.Forall₂ (fun item entry => read item = .valid entry) items entries := by
  induction items generalizing position entries with
  | nil =>
    rw [Checked.each, List.forall₂_nil_left_iff, Checked.valid.injEq, eq_comm]
  | cons item rest ih =>
    have both : Checked.each read position (item :: rest) = .valid entries ↔
        ∃ entry others, read item = .valid entry ∧ Checked.each read (position + 1) rest =
          .valid others ∧ entry :: others = entries := by
      change List.cons <$> (read item).under (.index position) <*>
        Checked.each read (position + 1) rest = .valid entries ↔ _
      rw [seq_eq_valid_iff]
      constructor
      · rintro ⟨_, others, placed, later, rfl⟩
        obtain ⟨entry, first, rfl⟩ := map_eq_valid_iff.mp placed
        exact ⟨entry, others, under_eq_valid_iff.mp first, later, rfl⟩
      · rintro ⟨entry, others, first, later, rfl⟩
        exact ⟨_, others, map_eq_valid_iff.mpr ⟨entry, under_eq_valid_iff.mpr first, rfl⟩, later,
          rfl⟩
    rw [both, List.forall₂_cons_left_iff]
    simp only [ih, eq_comm]

/-! ## Issues of readings in a row -/

@[simp]
theorem issues_map (f : α → β) (x : Checked α) : (f <$> x).issues = x.issues := by
  cases x <;> rfl

@[simp]
theorem issues_seq (f : Checked (α → β)) (x : Checked α) :
    (f <*> x).issues = f.issues ++ x.issues := by
  cases f <;> cases x <;> simp [Seq.seq, Checked.seq, issues]

@[simp]
theorem issues_seqLeft (x : Checked α) (y : Checked β) :
    (x <* y).issues = x.issues ++ y.issues := by
  change (Function.const β <$> x <*> y).issues = _
  rw [issues_seq, issues_map]

end Checked

theorem readList_eq_valid_iff {α : Type} {read : Value → Checked α} {value : Value}
    {entries : List α} :
    readList read value = .valid entries ↔ ∃ items, value.items? = some items ∧
      List.Forall₂ (fun item entry => read item = .valid entry) items entries := by
  cases value <;> simp [readList, Value.items?, Checked.each_eq_valid_iff, Checked.issue]

namespace Fields

/-- Whether the items of a list field are read as entries, each on its own. A field that is
left out has no items. -/
def ReadsEach {α : Type} (fields : Fields) (name : String) (read : Value → Checked α)
    (entries : List α) : Prop :=
  ∃ items, (fields.get? name).elim (some []) Value.items? = some items ∧
    List.Forall₂ (fun item entry => read item = .valid entry) items entries

theorem optional_readList_eq_valid_iff {α : Type} {fields : Fields} {name : String}
    {read : Value → Checked α} {entries : List α} :
    fields.optional name (readList read) [] = .valid entries ↔
      fields.ReadsEach name read entries := by
  unfold optional ReadsEach
  cases fields.get? name with
  | none => simp [eq_comm]
  | some value => rw [Checked.under_eq_valid_iff, readList_eq_valid_iff, Option.elim_some]

/-- No key is refused exactly if each of them is one of the known names. -/
theorem onlyKnown_eq_valid_iff {fields : Fields} {known : List String} :
    fields.onlyKnown known = .valid () ↔
      ∀ field ∈ fields, ∃ name ∈ known, field.1 = .text name := by
  have none : fields.onlyKnown known = .valid () ↔
      fields.filterMap (fun field => strangerIssue? known field.1) = [] := by
    unfold onlyKnown
    cases fields.filterMap fun field => strangerIssue? known field.1 <;> simp
  rw [none, List.filterMap_eq_nil_iff]
  refine forall₂_congr fun field _ => ?_
  cases field.1 <;> simp [strangerIssue?]

/-- Keys that are known are texts without damage. -/
theorem not_any_isDamaged {fields : Fields} {known : List String}
    (allKnown : ∀ field ∈ fields, ∃ name ∈ known, field.1 = .text name) :
    ¬ (fields.any fun field => isDamaged field.1) = true := by
  simp only [List.any_eq_true, not_exists, not_and]
  intro field listed
  obtain ⟨name, _, text⟩ := allKnown field listed
  simp [text, isDamaged]

end Fields

end RunOnce.Document

namespace RunOnce.Model

open RunOnce.Document
open RunOnce.Text

/-! ## Lists with different names -/

/-- Whether a name is the first one in a list whose key stood earlier in it. -/
def FirstRepeat (key : String → String) (names : List String) (name : String) : Prop :=
  ∃ earlier later, names = earlier ++ name :: later ∧ (earlier.map key).Nodup ∧
    key name ∈ earlier.map key

theorem firstRepeated?_go_eq_some_iff {key : String → String} {seen names : List String}
    {name : String} :
    firstRepeated?.go key seen names = some name ↔
      ∃ earlier later, names = earlier ++ name :: later ∧ (earlier.map key).Nodup ∧
        (∀ other ∈ earlier, key other ∉ seen) ∧ (key name ∈ seen ∨ key name ∈ earlier.map key) := by
  induction names generalizing seen with
  | nil => simp [firstRepeated?.go]
  | cons head rest ih =>
    rw [firstRepeated?.go]
    by_cases old : key head ∈ seen
    · rw [if_pos old, Option.some.injEq]
      constructor
      · rintro rfl
        exact ⟨[], rest, rfl, List.nodup_nil, by simp, .inl old⟩
      · rintro ⟨_ | ⟨other, earlier⟩, later, split, _, fresh, _⟩
        · exact (List.cons.inj split).1
        · obtain rfl := (List.cons.inj split).1
          exact absurd old (fresh head List.mem_cons_self)
    · rw [if_neg old, ih]
      constructor
      · rintro ⟨earlier, later, rfl, distinct, fresh, repeats⟩
        refine ⟨head :: earlier, later, rfl, ?_, ?_, ?_⟩
        · refine List.nodup_cons.mpr ⟨?_, distinct⟩
          intro listed
          obtain ⟨other, member, same⟩ := List.mem_map.mp listed
          exact fresh other member (same ▸ List.mem_cons_self)
        · exact List.forall_mem_cons.mpr
            ⟨old, fun other member => (not_or.mp (List.mem_cons.not.mp (fresh other member))).2⟩
        · rw [List.mem_cons] at repeats
          rw [List.map_cons, List.mem_cons]
          tauto
      · rintro ⟨_ | ⟨other, earlier⟩, later, split, distinct, fresh, repeats⟩
        · obtain ⟨rfl, _⟩ := List.cons.inj split
          simp [old] at repeats
        · obtain ⟨rfl, rest⟩ := List.cons.inj split
          obtain ⟨unlisted, distinct⟩ := List.nodup_cons.mp distinct
          obtain ⟨_, fresh⟩ := List.forall_mem_cons.mp fresh
          refine ⟨earlier, later, rest, distinct, ?_, ?_⟩
          · intro other member
            rw [List.mem_cons, not_or]
            refine ⟨?_, fresh other member⟩
            intro same
            exact unlisted (List.mem_map.mpr ⟨other, member, same⟩)
          · rw [List.map_cons, List.mem_cons] at repeats
            rw [List.mem_cons]
            tauto

/-- The name that is found repeats an earlier one, and no name before it does. -/
theorem firstRepeated?_eq_some_iff {key : String → String} {names : List String}
    {name : String} : firstRepeated? key names = some name ↔ FirstRepeat key names name := by
  simp [firstRepeated?, firstRepeated?_go_eq_some_iff, FirstRepeat]

/-- The issue with a list field that has a repeated name. -/
def duplicateIssue (field noun name : String) : Issue :=
  ⟨[.key field], .inconsistent ("Duplicate " ++ noun ++ " '" ++ name ++ "'")⟩

section Distinct

variable {α : Type} {fields : Fields} {field noun : String} {read : Value → Checked α}
  {nameOf : α → String} {key : String → String} {entries : List α}

/-- A list with entries that are each valid is taken as it is, or refused over its first
repeated name. -/
theorem optional_readDistinct_of_readsEach (each : fields.ReadsEach field read entries) :
    fields.optional field (readDistinct read noun nameOf key) [] =
      match firstRepeated? key (entries.map nameOf) with
      | none => .valid entries
      | some name => .invalid [duplicateIssue field noun name] := by
  have listRead := Fields.optional_readList_eq_valid_iff.mpr each
  unfold Fields.optional at listRead ⊢
  cases found : fields.get? field with
  | none =>
    rw [found] at listRead
    cases listRead
    rfl
  | some value =>
    rw [found] at listRead
    simp only [readDistinct, Checked.under_eq_valid_iff.mp listRead, Checked.andThen]
    cases firstRepeated? key (entries.map nameOf) <;> rfl

/-- A list is taken exactly if its entries are each valid and have different names. -/
theorem optional_readDistinct_eq_valid_iff :
    fields.optional field (readDistinct read noun nameOf key) [] = .valid entries ↔
      fields.ReadsEach field read entries ∧ ((entries.map nameOf).map key).Nodup := by
  constructor
  · intro valid
    refine ⟨?_, nodup_of_optional_readDistinct valid⟩
    rw [← Fields.optional_readList_eq_valid_iff]
    unfold Fields.optional at valid ⊢
    cases found : fields.get? field with
    | none =>
      rw [found] at valid
      exact valid
    | some value =>
      rw [found] at valid
      obtain ⟨items, listRead, checked⟩ :=
        Checked.andThen_eq_valid_iff.mp (Checked.under_eq_valid_iff.mp valid)
      -- The check for repeated names gives the entries back, or an issue.
      cases repeated : firstRepeated? key (items.map nameOf) with
      | none =>
        rw [repeated] at checked
        cases checked
        exact Checked.under_eq_valid_iff.mpr listRead
      | some name =>
        rw [repeated] at checked
        cases checked
  · rintro ⟨each, distinct⟩
    rw [optional_readDistinct_of_readsEach each, (firstRepeated?_eq_none_iff key _).mpr distinct]

/-- Of a list with entries that are each valid, only the first repeated name is an issue. -/
theorem issues_optional_readDistinct (each : fields.ReadsEach field read entries) :
    (fields.optional field (readDistinct read noun nameOf key) []).issues =
      (firstRepeated? key (entries.map nameOf)).toList.map (duplicateIssue field noun) := by
  rw [optional_readDistinct_of_readsEach each]
  cases firstRepeated? key (entries.map nameOf) <;> rfl

end Distinct

/-! ## Names of targets -/

/-- Whether a name is a letter or an underscore and then letters, digits, underscores, dots
and hyphens, all of them ASCII. -/
def TargetNameShape (name : String) : Prop :=
  ∃ first rest, name.toList = first :: rest ∧
    ('A' ≤ first ∧ first ≤ 'Z' ∨ 'a' ≤ first ∧ first ≤ 'z' ∨ first = '_') ∧
    ∀ c ∈ rest, 'A' ≤ c ∧ c ≤ 'Z' ∨ 'a' ≤ c ∧ c ≤ 'z' ∨ '0' ≤ c ∧ c ≤ '9' ∨
      c = '_' ∨ c = '.' ∨ c = '-'

theorem isTargetName_eq_true_iff {name : String} :
    isTargetName name = true ↔ TargetNameShape name := by
  have letter : ∀ c : Char, c.isAlpha = true ↔ 'A' ≤ c ∧ c ≤ 'Z' ∨ 'a' ≤ c ∧ c ≤ 'z' := fun c =>
    Bool.or_eq_true_iff.trans (or_congr decide_eq_true_iff
      (Bool.and_eq_true_iff.trans (and_congr decide_eq_true_iff decide_eq_true_iff)))
  have digit : ∀ c : Char, c.isDigit = true ↔ '0' ≤ c ∧ c ≤ '9' := fun c =>
    Bool.and_eq_true_iff.trans (and_congr decide_eq_true_iff decide_eq_true_iff)
  have start : ∀ c : Char, isNameStart c = true ↔
      'A' ≤ c ∧ c ≤ 'Z' ∨ 'a' ≤ c ∧ c ≤ 'z' ∨ c = '_' := by
    intro c
    rw [isNameStart, Bool.or_eq_true_iff, letter, beq_iff_eq, or_assoc]
  have part : ∀ c : Char, isNamePart c = true ↔
      'A' ≤ c ∧ c ≤ 'Z' ∨ 'a' ≤ c ∧ c ≤ 'z' ∨ '0' ≤ c ∧ c ≤ '9' ∨
        c = '_' ∨ c = '.' ∨ c = '-' := by
    intro c
    have letterOrDigit : c.isAlphanum = true ↔ c.isAlpha = true ∨ c.isDigit = true :=
      Bool.or_eq_true_iff
    simp only [isNamePart, Bool.or_eq_true_iff, letterOrDigit, letter, digit, beq_iff_eq, or_assoc]
  unfold isTargetName TargetNameShape
  cases name.toList with
  | nil => simp
  | cons first rest => simp [start, part]

/-- A target that was read has a proper name. -/
theorem targetNameShape_of_read {value : Value} {target : Target}
    (valid : Target.read value = .valid target) : TargetNameShape target.name := by
  cases value with
  | mapping fields number =>
    rw [Target.read, readModel, readFields] at valid
    split at valid
    · cases valid
    · obtain ⟨read, _⟩ := Checked.seqLeft_eq_valid_iff.mp valid
      obtain ⟨_, _, upToAfter, _, rfl⟩ := Checked.seq_eq_valid_iff.mp read
      obtain ⟨_, _, upToBefore, _, rfl⟩ := Checked.seq_eq_valid_iff.mp upToAfter
      obtain ⟨_, _, upToDepends, _, rfl⟩ := Checked.seq_eq_valid_iff.mp upToBefore
      obtain ⟨_, _, upToCondition, _, rfl⟩ := Checked.seq_eq_valid_iff.mp upToDepends
      obtain ⟨_, _, upToName, _, rfl⟩ := Checked.seq_eq_valid_iff.mp upToCondition
      obtain ⟨name, nameRead, rfl⟩ := Checked.map_eq_valid_iff.mp upToName
      unfold Fields.required at nameRead
      split at nameRead
      · obtain ⟨text, _, checked⟩ :=
          Checked.andThen_eq_valid_iff.mp (Checked.under_eq_valid_iff.mp nameRead)
        split at checked
        · rename_i proper
          cases checked
          exact isTargetName_eq_true_iff.mp proper
        · cases checked
      · cases nameRead
  | _ => cases valid

/-- No line break, and no other blank, is part of a proper name. -/
theorem TargetNameShape.not_mem_newline {name : String} (shape : TargetNameShape name) :
    '\n' ∉ name.toList := by
  obtain ⟨first, rest, text, start, parts⟩ := shape
  rw [text, List.mem_cons, not_or]
  constructor
  · rintro rfl
    revert start
    decide
  · intro listed
    have part := parts _ listed
    revert part
    decide

/-! ## Looking up the only one -/

/-- What is found is all there is, if it can hold of one element only. -/
theorem toList_find?_eq_filter {α : Type} {holds : α → Bool} {elements : List α}
    (unique : elements.Pairwise fun a b => ¬(holds a = true ∧ holds b = true)) :
    (elements.find? holds).toList = elements.filter holds := by
  induction elements with
  | nil => rfl
  | cons element rest ih =>
    obtain ⟨apart, uniqueRest⟩ := List.pairwise_cons.mp unique
    by_cases here : holds element = true
    · have nowhereElse : rest.filter holds = [] := by
        rw [List.filter_eq_nil_iff]
        intro other listed there
        exact apart other listed ⟨here, there⟩
      simp [here, nowhereElse]
    · simp [here, ih uniqueRest]

/-- Elements with different keys are looked up by them. -/
theorem toList_find?_eq_filter_of_nodup {α : Type} {key : α → String} {elements : List α}
    (distinct : (elements.map key).Nodup) (wanted : String) :
    (elements.find? fun element => key element == wanted).toList =
      elements.filter fun element => key element == wanted := by
  apply toList_find?_eq_filter
  refine (List.pairwise_map.mp distinct).imp ?_
  rintro first second apart ⟨firstKey, secondKey⟩
  exact apart ((beq_iff_eq.mp firstKey).trans (beq_iff_eq.mp secondKey).symm)

/-! ## Projects -/

/-- A list of a project, with the names that have to be different in it. -/
structure NameList where
  field : String
  noun : String
  names : List String
  key : String → String

namespace NameList

/-- Whether the keys of the names are all different. -/
def IsDistinct (list : NameList) : Prop :=
  (list.names.map list.key).Nodup

instance (list : NameList) : Decidable list.IsDistinct :=
  inferInstanceAs (Decidable (list.names.map list.key).Nodup)

/-- The issue with a list that has a repeated name. -/
def issue? (list : NameList) : Option Issue :=
  (firstRepeated? list.key list.names).map (duplicateIssue list.field list.noun)

/-- Whether an issue tells of the first repeated name of a list. -/
def TellsOf (list : NameList) (issue : Issue) : Prop :=
  ∃ name, FirstRepeat list.key list.names name ∧
    issue = duplicateIssue list.field list.noun name

/-- There is one issue for each list with a repeated name. -/
theorem tellsOf_filterMap_issue? (lists : List NameList) :
    List.Forall₂ TellsOf (lists.filter fun list => ¬ list.IsDistinct)
      (lists.filterMap issue?) := by
  induction lists with
  | nil => exact .nil
  | cons list rest ih =>
    cases repeated : firstRepeated? list.key list.names with
    | none =>
      have distinct : list.IsDistinct := (firstRepeated?_eq_none_iff _ _).mp repeated
      simpa [distinct, issue?, repeated] using ih
    | some name =>
      have offending : ¬ list.IsDistinct := by
        rw [IsDistinct, ← firstRepeated?_eq_none_iff, repeated]
        exact Option.some_ne_none name
      have tells : list.TellsOf (duplicateIssue list.field list.noun name) :=
        ⟨name, firstRepeated?_eq_some_iff.mp repeated, rfl⟩
      simpa [offending, issue?, repeated] using And.intro tells ih

end NameList

namespace Project

/-- The lists of a project, in the order in which they are checked. -/
def nameLists (project : Project) : List NameList := [
  ⟨"properties", "property name", project.properties.map Property.name, lower⟩,
  ⟨"item_schemas", "item type", project.itemSchemas.map ItemSchema.itemType, id⟩,
  ⟨"targets", "target name", project.targets.map Target.name, id⟩]

/-- Whether the fields of a document, each read on its own, hold a project: no field is
unknown, and all entries of its lists are valid. -/
structure HeldBy (project : Project) (fields : Fields) : Prop where
  known : ∀ field ∈ fields,
    ∃ name ∈ ["name", "properties", "item_schemas", "targets", "default_targets"],
      field.1 = .text name
  name : fields.optional "name" readTextOrNull none = .valid project.name
  properties : fields.ReadsEach "properties" Property.read project.properties
  itemSchemas : fields.ReadsEach "item_schemas" ItemSchema.read project.itemSchemas
  targets : fields.ReadsEach "targets" Target.read project.targets
  defaultTargets :
    fields.optional "default_targets" readTextOrNull none = .valid project.defaultTargets

/-- Whether the entries of each list have different names: properties whatever the case, the
others exactly. -/
structure NamesDiffer (project : Project) : Prop where
  targets : (project.targets.map Target.name).Nodup
  itemSchemas : (project.itemSchemas.map ItemSchema.itemType).Nodup
  properties : (project.properties.map fun property => lower property.name).Nodup

variable {project : Project} {fields : Fields}

/-- Fields hold one project at most. -/
theorem HeldBy.unique {other : Project} (held : project.HeldBy fields)
    (otherHeld : other.HeldBy fields) : other = project := by
  have same : ∀ {α : Type} {field : String} {read : Value → Checked α} {first second : List α},
      fields.ReadsEach field read first → fields.ReadsEach field read second →
        second = first := by
    intro α field read first second firstRead secondRead
    rw [← Fields.optional_readList_eq_valid_iff] at firstRead secondRead
    exact Checked.valid.inj (secondRead.symm.trans firstRead)
  obtain ⟨name, properties, itemSchemas, targets, defaultTargets⟩ := project
  obtain ⟨otherName, otherProperties, otherSchemas, otherTargets, otherDefaults⟩ := other
  obtain rfl := same held.properties otherHeld.properties
  obtain rfl := same held.itemSchemas otherHeld.itemSchemas
  obtain rfl := same held.targets otherHeld.targets
  obtain rfl : otherName = name := Checked.valid.inj (otherHeld.name.symm.trans held.name)
  obtain rfl : otherDefaults = defaultTargets :=
    Checked.valid.inj (otherHeld.defaultTargets.symm.trans held.defaultTargets)
  rfl

/-- A document is admitted exactly if its fields hold a project whose names differ. -/
theorem read_eq_valid_iff {document : Value} :
    Project.read document = .valid project ↔
      ∃ fields number, document = .mapping fields number ∧ project.HeldBy fields ∧
        project.NamesDiffer := by
  have bare : ∀ {α : Type} {nameOf : α → String} {entries : List α},
      ((entries.map nameOf).map id).Nodup ↔ (entries.map nameOf).Nodup := by simp
  constructor
  · intro valid
    cases document with
    | mapping fields number =>
      rw [Project.read, readModel, readFields] at valid
      split at valid
      · cases valid
      · obtain ⟨read, _, allKnown⟩ := Checked.seqLeft_eq_valid_iff.mp valid
        obtain ⟨_, _, upToTargets, defaultsRead, rfl⟩ := Checked.seq_eq_valid_iff.mp read
        obtain ⟨_, _, upToSchemas, targetsRead, rfl⟩ := Checked.seq_eq_valid_iff.mp upToTargets
        obtain ⟨_, _, upToProperties, schemasRead, rfl⟩ :=
          Checked.seq_eq_valid_iff.mp upToSchemas
        obtain ⟨_, _, upToName, propertiesRead, rfl⟩ :=
          Checked.seq_eq_valid_iff.mp upToProperties
        obtain ⟨_, nameRead, rfl⟩ := Checked.map_eq_valid_iff.mp upToName
        obtain ⟨properties, propertiesDiffer⟩ :=
          optional_readDistinct_eq_valid_iff.mp propertiesRead
        obtain ⟨schemas, schemasDiffer⟩ := optional_readDistinct_eq_valid_iff.mp schemasRead
        obtain ⟨targets, targetsDiffer⟩ := optional_readDistinct_eq_valid_iff.mp targetsRead
        rw [List.map_map] at propertiesDiffer
        exact ⟨fields, number, rfl,
          ⟨Fields.onlyKnown_eq_valid_iff.mp allKnown, nameRead, properties, schemas, targets,
            defaultsRead⟩,
          ⟨bare.mp targetsDiffer, bare.mp schemasDiffer, propertiesDiffer⟩⟩
    | _ => cases valid
  · rintro ⟨fields, number, rfl, held, differ⟩
    have propertiesDiffer := differ.properties
    rw [← Function.comp_def, ← List.map_map] at propertiesDiffer
    rw [Project.read, readModel, readFields, if_neg (Fields.not_any_isDamaged held.known),
      Checked.seqLeft_eq_valid_iff]
    refine ⟨?_, (), Fields.onlyKnown_eq_valid_iff.mpr held.known⟩
    simp only [Checked.seq_eq_valid_iff, Checked.map_eq_valid_iff,
      optional_readDistinct_eq_valid_iff]
    exact ⟨_, _, ⟨_, _, ⟨_, _, ⟨_, _, ⟨_, held.name, rfl⟩, ⟨held.properties, propertiesDiffer⟩,
      rfl⟩, ⟨held.itemSchemas, bare.mpr differ.itemSchemas⟩, rfl⟩,
      ⟨held.targets, bare.mpr differ.targets⟩, rfl⟩, held.defaultTargets, rfl⟩

/-- The only issues with a document that holds a project are its repeated names. -/
theorem issues_read (held : project.HeldBy fields) (number : Option Nat) :
    (Project.read (.mapping fields number)).issues =
      project.nameLists.filterMap NameList.issue? := by
  have known := Fields.onlyKnown_eq_valid_iff.mpr held.known
  rw [Project.read, readModel, readFields, if_neg (Fields.not_any_isDamaged held.known)]
  rw [Checked.issues_seqLeft, Checked.issues_seq, Checked.issues_seq, Checked.issues_seq,
    Checked.issues_seq, Checked.issues_map, held.name, held.defaultTargets, known,
    issues_optional_readDistinct held.properties, issues_optional_readDistinct held.itemSchemas,
    issues_optional_readDistinct held.targets]
  -- A list adds the issue with its first repeated name, or nothing.
  simp only [nameLists, NameList.issue?, List.filterMap_cons, List.filterMap_nil]
  cases firstRepeated? lower (project.properties.map Property.name) <;>
    cases firstRepeated? id (project.itemSchemas.map ItemSchema.itemType) <;>
    cases firstRepeated? id (project.targets.map Target.name) <;> rfl

/-- What is said of one entry of a list field holds of all, if it holds of whatever is read
from an item. -/
theorem forall_mem_of_readsEach {α : Type} {field : String} {read : Value → Checked α}
    {entries : List α} {holds : α → Prop} (each : fields.ReadsEach field read entries)
    (ofRead : ∀ item entry, read item = .valid entry → holds entry) :
    ∀ entry ∈ entries, holds entry := by
  obtain ⟨items, listed, placed⟩ := each
  clear listed
  induction placed with
  | nil => simp
  | cons first _ ih => exact List.forall_mem_cons.mpr ⟨ofRead _ _ first, ih⟩

/-- A document that holds a project is admitted exactly if the names in each list differ. It
is then read as that project, with all entries in order. If not, there is one issue for each
list with a repeated name, over the first such name. In an admitted project, target names are
proper, and looking up a target or a property finds the only one of the name. -/
theorem admitted_iff_names_differ :
    (∀ (project : Project) (fields : Fields) (number : Option Nat), project.HeldBy fields →
      ((∃ admitted, Project.read (.mapping fields number) = .valid admitted) ↔
        project.NamesDiffer) ∧
      (∀ admitted, Project.read (.mapping fields number) = .valid admitted →
        admitted = project) ∧
      List.Forall₂ NameList.TellsOf (project.nameLists.filter fun list => ¬ list.IsDistinct)
        (Project.read (.mapping fields number)).issues) ∧
    ∀ (document : Value) (project : Project), Project.read document = .valid project →
      (∃ fields number, document = .mapping fields number ∧ project.HeldBy fields) ∧
      (∀ target ∈ project.targets,
        TargetNameShape target.name ∧ '\n' ∉ target.name.toList) ∧
      (∀ name, (project.getTarget? name).toList =
        project.targets.filter fun target => target.name == name) ∧
      ∀ name, (project.getProperty? name).toList =
        project.properties.filter fun property => lower property.name == lower name := by
  refine ⟨fun project fields number held => ⟨⟨?_, ?_⟩, ?_, ?_⟩, fun document project valid => ?_⟩
  · rintro ⟨admitted, valid⟩
    obtain ⟨_, _, same, admittedHeld, differ⟩ := read_eq_valid_iff.mp valid
    cases same
    exact held.unique admittedHeld ▸ differ
  · intro differ
    exact ⟨project, read_eq_valid_iff.mpr ⟨fields, number, rfl, held, differ⟩⟩
  · intro admitted valid
    obtain ⟨_, _, same, admittedHeld, _⟩ := read_eq_valid_iff.mp valid
    cases same
    exact held.unique admittedHeld
  · rw [issues_read held number]
    exact NameList.tellsOf_filterMap_issue? project.nameLists
  · obtain ⟨fields, number, rfl, held, differ⟩ := read_eq_valid_iff.mp valid
    refine ⟨⟨fields, number, rfl, held⟩, ?_, ?_, ?_⟩
    · refine forall_mem_of_readsEach held.targets fun item target itemRead => ?_
      have shape := targetNameShape_of_read itemRead
      exact ⟨shape, shape.not_mem_newline⟩
    · exact toList_find?_eq_filter_of_nodup differ.targets
    · intro name
      exact toList_find?_eq_filter_of_nodup differ.properties (lower name)

/-- Properties and targets, each with two names that are the same up to case. -/
def echoFields : Fields :=
  let named (name : String) : Value := .mapping [(.text "name", .text name)]
  [(.text "properties", .list [named "Out", named "OUT"]),
    (.text "targets", .list [named "Build", named "build"])]

/-- The project that the fields hold. -/
def echoProject : Project where
  properties := [⟨"Out", "", "", false, false⟩, ⟨"OUT", "", "", false, false⟩]
  targets := [⟨"Build", none, "", "", "", []⟩, ⟨"build", none, "", "", "", []⟩]

/-- Only the properties stand in the way, and the second one is told of as it is spelled.
Without them both targets are admitted, and each is found by its own name. -/
theorem echoProject_admitted_without_properties :
    (echoProject.HeldBy echoFields ∧
      (¬ ∃ admitted, Project.read (.mapping echoFields) = .valid admitted) ∧
      (Project.read (.mapping echoFields)).issues =
        [duplicateIssue "properties" "property name" "OUT"]) ∧
    Project.read (.mapping (echoFields.drop 1)) =
      .valid { echoProject with properties := [] } ∧
    (echoProject.getTarget? "build").toList = [⟨"build", none, "", "", "", []⟩] := by
  have held : echoProject.HeldBy echoFields := {
    known := by simp [echoFields]
    name := rfl
    properties := ⟨_, rfl, .cons rfl (.cons rfl .nil)⟩
    itemSchemas := ⟨_, rfl, .nil⟩
    targets := ⟨_, rfl, .cons rfl (.cons rfl .nil)⟩
    defaultTargets := rfl }
  have admitted : Project.read (.mapping (echoFields.drop 1)) =
      .valid { echoProject with properties := [] } := rfl
  refine ⟨⟨held, ?_, ?_⟩, admitted, ?_⟩
  · rw [(admitted_iff_names_differ.1 _ _ none held).1]
    exact fun differ => absurd differ.properties (by decide +kernel)
  · obtain ⟨_, _, tells⟩ := admitted_iff_names_differ.1 _ _ none held
    rw [show echoProject.nameLists.filter (fun list => ¬ list.IsDistinct) =
      [⟨"properties", "property name", ["Out", "OUT"], lower⟩] from rfl] at tells
    obtain ⟨_, _, ⟨name, repeated, rfl⟩, others, all⟩ := List.forall₂_cons_left_iff.mp tells
    have spelled : some name = some "OUT" := (firstRepeated?_eq_some_iff.mpr repeated).symm
    rw [all, List.forall₂_nil_left_iff.mp others, Option.some.inj spelled]
  · exact (admitted_iff_names_differ.2 _ _ admitted).2.2.1 "build"

end Project

end RunOnce.Model
