import Mathlib.Data.List.TakeWhile
import RunOnce.Command.CompileCommand
import RunOnce.Command.ValidateCommand
import RunOnce.Proofs.Compile.Overrides

/-!
# Which option for a property counts

Options that assign values to properties are gathered in a mapping that tells
spellings of a name apart, and only then are names compared without regard to
case. A spelling keeps the place of its first use there. So for a name the
spelling counts that was first used last, with the value of its last option, and
this need not be the last option for the name.
-/

namespace RunOnce.Command

open RunOnce.Compile
open RunOnce.Expansion
open RunOnce.Model
open RunOnce.Text

/-! ## Assignments -/

/-- Whether a text assigns a value to a name: the name stands before the first
equals sign, perhaps among blanks, and the value is all that follows. -/
def Assigns (given : String) (option : String × String) : Prop :=
  ∃ left : List Char, '=' ∉ left ∧ given.toList = left ++ '=' :: option.2.toList ∧
    option.1 = String.ofList (trim left) ∧ trim left ≠ []

/-- What is not part of the first stretch starts with its end. -/
theorem eq_of_dropWhile_eq_cons {mark first : Char} {characters rest : List Char}
    (left : characters.dropWhile (· ≠ mark) = first :: rest) : first = mark := by
  have stopped := List.head?_dropWhile_not (· ≠ mark) characters
  rw [left] at stopped
  simpa using stopped

theorem readAssignment_eq_ok_iff {given : String} {option : String × String} :
    readAssignment given = .ok option ↔ Assigns given option := by
  unfold readAssignment
  constructor
  · intro read
    dsimp only at read
    split at read
    · rename_i letter letters sign value named signed
      cases read
      have divided := List.takeWhile_append_dropWhile (p := (· ≠ '=')) (l := given.toList)
      rw [signed, eq_of_dropWhile_eq_cons signed] at divided
      refine ⟨given.toList.takeWhile (· ≠ '='), ?_, ?_, rfl, ?_⟩
      · intro listed
        simpa using List.mem_takeWhile_imp listed
      · rw [String.toList_ofList, divided]
      · rw [named]
        exact List.cons_ne_nil _ _
    · cases read
  · rintro ⟨left, plain, divided, named, nonempty⟩
    have unmarked : ∀ character ∈ left, decide (character ≠ '=') = true := by
      intro character listed
      simpa using ne_of_mem_of_not_mem listed plain
    have name : given.toList.takeWhile (· ≠ '=') = left := by
      rw [divided, List.takeWhile_append_of_pos unmarked]
      simp
    have value : given.toList.dropWhile (· ≠ '=') = '=' :: option.2.toList := by
      rw [divided, List.dropWhile_append_of_pos unmarked]
      simp
    obtain ⟨letter, letters, spelled⟩ := List.exists_cons_of_ne_nil nonempty
    simp only [name, value, spelled]
    rw [← spelled, ← named, String.ofList_toList]

theorem readAssignments_eq_ok_iff {given : List String} {options : List (String × String)} :
    readAssignments given = .ok options ↔ List.Forall₂ Assigns given options := by
  induction given generalizing options with
  | nil =>
    constructor
    · intro read
      cases read
      exact .nil
    · rintro (_ | _)
      rfl
  | cons first rest ih =>
    unfold readAssignments
    constructor
    · intro read
      obtain ⟨option, here, read⟩ := exceptBind_eq_ok_iff.mp read
      obtain ⟨others, there, read⟩ := exceptBind_eq_ok_iff.mp read
      cases read
      exact .cons (readAssignment_eq_ok_iff.mp here) (ih.mp there)
    · rintro (_ | ⟨assigns, others⟩)
      rw [readAssignment_eq_ok_iff.mpr assigns, ih.mpr others]
      rfl

/-! ## Spellings -/

/-- The spelling of a name that was first used last. -/
def newestSpelling? (spellings : List String) (name : String) : Option String :=
  spellings.eraseDups.reverse.find? (sameName · name)

/-- Whether a spelling of a name was not in use before, and all that follow it were
in use by then. -/
def IsNewest (spellings : List String) (name spelling : String) : Prop :=
  sameName spelling name = true ∧ ∃ earlier later,
    spellings = earlier ++ spelling :: later ∧ spelling ∉ earlier ∧
      ∀ other ∈ later, sameName other name = true → other = spelling ∨ other ∈ earlier

/-- A spelling stays the newest one as long as no other one turns up. -/
theorem IsNewest.concat {spellings : List String} {name spelling last : String}
    (newest : IsNewest spellings name spelling)
    (used : sameName last name = true → last ∈ spellings) :
    IsNewest (spellings ++ [last]) name spelling := by
  obtain ⟨same, earlier, later, rfl, unused, inUse⟩ := newest
  refine ⟨same, earlier, later ++ [last], by simp, unused, ?_⟩
  intro other listed otherSame
  obtain within | final := List.mem_append.mp listed
  · exact inUse other within otherSame
  · obtain rfl := List.mem_singleton.mp final
    obtain before | here := List.mem_append.mp (used otherSame)
    · exact .inr before
    · obtain rfl | within := List.mem_cons.mp here
      · exact .inl rfl
      · exact inUse other within otherSame

/-- The newest spelling turned up at the end, or it was the newest one before. -/
theorem IsNewest.of_concat {spellings : List String} {name spelling last : String}
    (newest : IsNewest (spellings ++ [last]) name spelling) :
    (last = spelling ∧ spelling ∉ spellings) ∨
      (IsNewest spellings name spelling ∧ (sameName last name = true → last ∈ spellings)) := by
  obtain ⟨same, earlier, later, parts, unused, inUse⟩ := newest
  -- The first use of the newest spelling is the last element or lies before it.
  obtain rfl | ⟨within, final, rfl⟩ := later.eq_nil_or_concat'
  · obtain ⟨rfl, ends⟩ := List.append_inj' parts rfl
    exact .inl ⟨List.singleton_inj.mp ends, unused⟩
  · rw [← List.cons_append, ← List.append_assoc] at parts
    obtain ⟨rfl, ends⟩ := List.append_inj' parts rfl
    obtain rfl := List.singleton_inj.mp ends
    refine .inr ⟨⟨same, earlier, within, rfl, unused, ?_⟩, ?_⟩
    · intro other listed otherSame
      exact inUse other (List.mem_append_left _ listed) otherSame
    · intro lastSame
      obtain rfl | before := inUse last (by simp) lastSame
      · simp
      · exact List.mem_append_left _ before

theorem newestSpelling?_concat (spellings : List String) (spelling name : String) :
    newestSpelling? (spellings ++ [spelling]) name =
      if sameName spelling name = true ∧ spelling ∉ spellings then some spelling
      else newestSpelling? spellings name := by
  unfold newestSpelling?
  rw [List.eraseDups_append]
  by_cases old : spelling ∈ spellings
  · simp [List.removeAll, old]
  · by_cases same : sameName spelling name = true <;>
      simp [List.removeAll, old, same, List.eraseDups_cons]

theorem newestSpelling?_eq_some_iff {spellings : List String} {name spelling : String} :
    newestSpelling? spellings name = some spelling ↔ IsNewest spellings name spelling := by
  induction spellings using List.reverseRecOn with
  | nil => simp [newestSpelling?, IsNewest]
  | append_singleton spellings last ih =>
    -- Only a spelling of the name that was not in use becomes the newest one.
    rw [newestSpelling?_concat]
    by_cases new : sameName last name = true ∧ last ∉ spellings
    · rw [if_pos new]
      constructor
      · rintro ⟨⟩
        exact ⟨new.1, spellings, [], rfl, new.2, by simp⟩
      · intro newest
        obtain ⟨rfl, _⟩ | ⟨_, used⟩ := newest.of_concat
        · rfl
        · exact absurd (used new.1) new.2
    · rw [if_neg new, ih]
      constructor
      · intro newest
        exact newest.concat fun same => by_contra fun unused => new ⟨same, unused⟩
      · intro newest
        obtain ⟨rfl, unused⟩ | ⟨before, _⟩ := newest.of_concat
        · exact absurd ⟨newest.1, unused⟩ new
        · exact before

/-! ## Options -/

/-- The last option for a name, in whatever spelling. -/
def lastOption? (options : List (String × String)) (name : String) : Option (String × String) :=
  Assoc.lastSetting? (sameName · name) options

/-- The last option in the newest spelling of a name. -/
def decidingOption? (options : List (String × String)) (name : String) :
    Option (String × String) :=
  (newestSpelling? (options.map Prod.fst) name).bind fun spelling =>
    Assoc.lastSetting? (· == spelling) options

/-- The option that decides on a name is the entry that counts for it in the
mapping. -/
theorem overrideOf?_ofList (options : List (String × String)) (name : String) :
    overrideOf? (Assoc.ofList options) name = (decidingOption? options name).map Prod.snd := by
  rw [overrideOf?_eq_lastSetting?, Assoc.lastSetting?_ofList]
  rfl

theorem decidingOption?_eq_none_iff {options : List (String × String)} {name : String} :
    decidingOption? options name = none ↔ lastOption? options name = none := by
  rw [decidingOption?, newestSpelling?, ← Assoc.lastSetting?_ofList, lastOption?,
    Assoc.lastSetting?_eq_none_iff, Assoc.lastSetting?_eq_none_iff, Assoc.keys_ofList]
  simp [Assoc.keys]

theorem decidingOption?_eq_last_iff {options : List (String × String)} {name : String}
    {last : String × String} (isLast : lastOption? options name = some last) :
    decidingOption? options name = some last ↔
      IsNewest (options.map Prod.fst) name last.1 := by
  rw [← newestSpelling?_eq_some_iff]
  constructor
  · intro decides
    obtain ⟨spelling, newest, found⟩ := Option.bind_eq_some_iff.mp decides
    have spelled : last.1 = spelling := by simpa using Assoc.isKind_of_lastSetting? found
    rw [newest, spelled]
  · intro newest
    apply Option.bind_eq_some_iff.mpr
    refine ⟨last.1, newest, Assoc.lastSetting?_of_imp isLast ?_ (by simp)⟩
    intro spelling spelled
    rw [beq_iff_eq.mp spelled]
    exact Assoc.isKind_of_lastSetting? isLast

/-! ## What the options do -/

variable {project : Project}

/-- Whether certain values are the ones that global properties give to names, and
prevail over the project's own: in expressions, in the initial values, and in the
property for the default target. -/
structure Prevail (project : Project) (settings : Settings) (globals : List (String × String))
    (value? : String → Option String) : Prop where
  expansions : ∀ name, (PropertyTable.ofProject project globals).get? name =
    (value? name).or ((project.getProperty? name).map Property.expandedValue)
  initialValues : ∀ compiled, (compile settings globals project).outcome = .ok compiled →
    compiled.program.initializerLines = project.emittedProperties.map fun property =>
      initializerLine property.name ((value? property.name).getD property.expandedValue)
  defaultTarget : project.defaultTargets.filter hasText = none → ∀ expander,
    (resolveDefaultTarget project expander settings globals).outcome =
      firstTarget settings.defaultTargetProperty
        ((value? settings.defaultTargetProperty).or
          ((project.getProperty? settings.defaultTargetProperty).map Property.expandedValue))

/-- The values that global properties give are those in the table of overrides. -/
theorem prevail_overrideOf? (validated : project.Validated) (settings : Settings)
    (globals : List (String × String)) :
    Prevail project settings globals (overrideOf? globals) where
  expansions := get?_ofProject_eq_override validated globals
  initialValues := fun _ assembled => initializerLines_assemble assembled
  defaultTarget := fun blank expander => outcome_resolveDefaultTarget_of_blank blank expander

/-- Compiling uses the mapping that the assignments leave behind. -/
theorem globals_requestOf {words : List CompileCommand.Given}
    {options : List (String × String)}
    (assign : List.Forall₂ Assigns (CompileCommand.assignmentsOf words) options) :
    (CompileCommand.requestOf words).globals = Assoc.ofList options := by
  rw [CompileCommand.requestOf, readProperties, readAssignments_eq_ok_iff.mpr assign]
  rfl

/-- Validating uses the mapping that the assignments leave behind. -/
theorem globals_readRequest {words : List ValidateCommand.Given}
    {options : List (String × String)} {request : ValidateCommand.Request}
    (assign : List.Forall₂ Assigns (ValidateCommand.assignmentsOf words) options)
    (read : ValidateCommand.readRequest words = .ok request) :
    request.globals = Assoc.ofList options := by
  unfold ValidateCommand.readRequest at read
  split at read
  · cases read
  · cases read
    rw [readProperties, readAssignments_eq_ok_iff.mpr assign]
    rfl

/-- Of the options for a name, the last one in its newest spelling counts. With
options that assign values, both commands use for each name the value of this
option, and the project's own value just if there is no option for the name. It
is the last option for the name exactly if no spelling of the name turns up for
the first time after the first use of the last option's spelling. -/
theorem newest_spelling_counts (validated : project.Validated) (settings : Settings)
    {given : List String} {options : List (String × String)}
    (assign : List.Forall₂ Assigns given options) :
    ∃ globals, readProperties given = .ok globals ∧
      (∀ words, CompileCommand.assignmentsOf words = given →
        (CompileCommand.requestOf words).globals = globals) ∧
      (∀ words request, ValidateCommand.assignmentsOf words = given →
        ValidateCommand.readRequest words = .ok request → request.globals = globals) ∧
      Prevail project settings globals (fun name =>
        (decidingOption? options name).map Prod.snd) ∧
      ∀ name,
        (decidingOption? options name = none ↔ lastOption? options name = none) ∧
        ∀ last, lastOption? options name = some last →
          (decidingOption? options name = some last ↔
            IsNewest (options.map Prod.fst) name last.1) := by
  refine ⟨Assoc.ofList options, ?_, ?_, ?_, ?_, ?_⟩
  · rw [readProperties, readAssignments_eq_ok_iff.mpr assign]
    rfl
  · rintro words rfl
    exact globals_requestOf assign
  · rintro words request rfl read
    exact globals_readRequest assign read
  · rw [← funext (overrideOf?_ofList options)]
    exact prevail_overrideOf? validated settings (Assoc.ofList options)
  · intro name
    exact ⟨decidingOption?_eq_none_iff, fun _ isLast => decidingOption?_eq_last_iff isLast⟩

/-- Options of which the last two share a spelling. -/
def settledSpelling : List String :=
  ["CONFIGURATION=Test", " Configuration =Release", "Configuration=Final"]

/-- The last option counts where its spelling is the newest one. -/
theorem settledSpelling_last_counts :
    configuredProject.Validated ∧
      List.Forall₂ Assigns settledSpelling
        [("CONFIGURATION", "Test"), ("Configuration", "Release"), ("Configuration", "Final")] ∧
      ∃ globals, readProperties settledSpelling = .ok globals ∧
        (PropertyTable.ofProject configuredProject globals).get? "configuration" =
          some "Final" := by
  have validated : configuredProject.Validated := ⟨configuredDocument, rfl⟩
  have assign : List.Forall₂ Assigns settledSpelling
      [("CONFIGURATION", "Test"), ("Configuration", "Release"), ("Configuration", "Final")] :=
    readAssignments_eq_ok_iff.mp (by decide)
  obtain ⟨globals, read, _, _, prevail, decides⟩ := newest_spelling_counts validated {} assign
  have newest : IsNewest ["CONFIGURATION", "Configuration", "Configuration"] "configuration"
      "Configuration" :=
    ⟨by decide, ["CONFIGURATION"], ["Configuration"], rfl, by decide, by decide⟩
  have last := ((decides "configuration").2 ("Configuration", "Final") (by decide)).mpr newest
  refine ⟨validated, assign, globals, read, ?_⟩
  rw [prevail.expansions, last]
  rfl

/-- Options of which the last one goes back to the spelling of the first. -/
def repeatedSpelling : List String :=
  ["Configuration=Test", "configuration=Release", "Configuration=Final"]

/-- A spelling that is used again does not overrule one that turned up in the
meantime: the last option for the name does not count. -/
theorem repeatedSpelling_overruled :
    configuredProject.Validated ∧
      ∃ options globals, List.Forall₂ Assigns repeatedSpelling options ∧
        readProperties repeatedSpelling = .ok globals ∧
        lastOption? options "Configuration" = some ("Configuration", "Final") ∧
        (PropertyTable.ofProject configuredProject globals).get? "Configuration" =
          some "Release" ∧
        ¬Prevail configuredProject {} globals fun name =>
          (lastOption? options name).map Prod.snd := by
  refine ⟨⟨configuredDocument, rfl⟩,
    [("Configuration", "Test"), ("configuration", "Release"), ("Configuration", "Final")],
    [("Configuration", "Final"), ("configuration", "Release")],
    readAssignments_eq_ok_iff.mp (by decide), by decide, by decide, by decide, ?_⟩
  intro prevail
  have wrong := prevail.expansions "Configuration"
  revert wrong
  decide

end RunOnce.Command
