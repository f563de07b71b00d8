import RunOnce.Proofs.Compile.Comments
import RunOnce.Proofs.Compile.Interference
import RunOnce.Proofs.Text.RoundTrip

/-!
# When the raw call of a task is shown

The raw call of a task is shown if it reads differently from the call that is made. Quotes
in values are written as they are, so calls with different values may read the same. For
that the first literal that changes has to take in, as part of a value, the seam between two
parameters: one of its two forms is the other one, a comma and more. As long as no literal
changes like this, a raw call is shown exactly if expansion changes some value, in whatever
order the parameters stand.
-/

namespace RunOnce.Compile

open RunOnce.Expansion
open RunOnce.Generated
open RunOnce.Journal
open RunOnce.Model
open RunOnce.Text

/-! ## Values that change -/

/-- Whether a value is not what it was before its expansion. -/
def Changes (expander : Expander) (raw : String) : Prop :=
  valueOrRaw expander raw ≠ raw

instance (expander : Expander) (raw : String) : Decidable (Changes expander raw) :=
  inferInstanceAs (Decidable (_ ≠ _))

/-- The first parameter whose value changes. -/
theorem exists_first_change {expander : Expander} {parameters : List (String × String)}
    (changes : ∃ parameter ∈ parameters, Changes expander parameter.2) :
    ∃ earlier name raw later, parameters = earlier ++ (name, raw) :: later ∧
      (∀ parameter ∈ earlier, ¬ Changes expander parameter.2) ∧ Changes expander raw := by
  have isSome : (parameters.find? fun parameter => Changes expander parameter.2).isSome := by
    simpa using changes
  obtain ⟨⟨name, raw⟩, found⟩ := Option.isSome_iff_exists.mp isSome
  obtain ⟨change, earlier, later, split, unchanged⟩ := List.find?_eq_some_iff_append.mp found
  exact ⟨earlier, name, raw, later, split, by simpa using unchanged, by simpa using change⟩

/-- Parameters whose values do not change stay as they are. -/
theorem withValues_eq_self {expander : Expander} {parameters : List (String × String)}
    (unchanged : ∀ parameter ∈ parameters, ¬ Changes expander parameter.2) :
    withValues expander parameters = parameters := by
  rw [withValues]
  conv_rhs => rw [← List.map_id parameters]
  apply List.map_congr_left
  intro parameter listed
  exact Prod.ext rfl (not_not.mp (unchanged parameter listed))

/-! ## Literals that go on -/

/-- Whether the literal of one value is that of another one, a comma and more. -/
def GoesOn (value longer : String) : Prop :=
  ∃ more, Literal.encode longer = Literal.encode value ++ ", " ++ more

theorem goesOn_iff_prefix {value longer : String} :
    GoesOn value longer ↔
      (Literal.encode value).toList ++ [',', ' '] <+: (Literal.encode longer).toList := by
  constructor
  · rintro ⟨more, literal⟩
    exact ⟨more.toList, by simp [literal]⟩
  · rintro ⟨more, literal⟩
    exact ⟨String.ofList more, by simp [← String.toList_inj, ← literal]⟩

instance (value longer : String) : Decidable (GoesOn value longer) :=
  decidable_of_iff _ goesOn_iff_prefix.symm

/-- Whether the literal of one value goes on after that of another one, with what follows
the other one up to what follows itself. -/
def TakesIn (value : String) (following : List (String × String)) (longer : String)
    (after : List (String × String)) : Prop :=
  ∃ more, Literal.encode longer = Literal.encode value ++ ", " ++ more ∧
    argumentsAfter following = ", " ++ more ++ argumentsAfter after

theorem TakesIn.goesOn {value longer : String} {following after : List (String × String)} :
    TakesIn value following longer after → GoesOn value longer := by
  rintro ⟨more, literal, _⟩
  exact ⟨more, literal⟩

/-- What follows an argument is nothing, or begins with a comma and a blank. -/
theorem toList_argumentsAfter_cases (arguments : List (String × String)) :
    (argumentsAfter arguments).toList = [] ∨
      ∃ rest, (argumentsAfter arguments).toList = ',' :: ' ' :: rest := by
  cases arguments with
  | nil => exact .inl rfl
  | cons argument later =>
    have text : argumentsAfter (argument :: later) =
        ", " ++ (argument.1 ++ ": " ++ Literal.encode argument.2 ++ argumentsAfter later) := by
      simp only [argumentsAfter, List.map_cons, String.join_cons, String.append_assoc]
    exact .inr ⟨_, by rw [text, String.toList_append]; rfl⟩

/-- What ends with a quote and begins like something after a comma and a blank begins with
both of them. -/
theorem exists_eq_comma_blank {extra rest back : List Char}
    (quoted : extra.getLast? = some '"') (follows : ',' :: ' ' :: rest = extra ++ back) :
    ∃ more, extra = ',' :: ' ' :: more := by
  match extra, quoted, follows with
  | [c], quoted, follows =>
    obtain ⟨rfl, _⟩ := List.cons.inj follows
    exact absurd quoted (by decide)
  | c :: d :: more, _, follows =>
    obtain ⟨rfl, next⟩ := List.cons.inj follows
    obtain ⟨rfl, _⟩ := List.cons.inj next
    exact ⟨more, rfl⟩

/-- Where one of two different literals goes on after the other, it goes on with a comma and
a blank: there is nothing else after a literal, and no literal ends with a comma. -/
theorem takesIn_of_append {value longer : String} {following after : List (String × String)}
    {extra : List Char} (different : value ≠ longer)
    (literal : (Literal.encode longer).toList = (Literal.encode value).toList ++ extra)
    (follows : (argumentsAfter following).toList = extra ++ (argumentsAfter after).toList) :
    TakesIn value following longer after := by
  have nonempty : extra ≠ [] := by
    rintro rfl
    rw [List.append_nil, String.toList_inj, Literal.encode_inj] at literal
    exact different literal.symm
  have quoted : extra.getLast? = some '"' := by
    rw [← List.getLast?_append_of_ne_nil _ nonempty, ← literal]
    exact Literal.getLast?_toList_encode longer
  have seam : ∃ more, extra = ',' :: ' ' :: more := by
    rcases toList_argumentsAfter_cases following with nothing | ⟨rest, text⟩
    · rw [nothing] at follows
      exact absurd (List.append_eq_nil_iff.mp follows.symm).1 nonempty
    · exact exists_eq_comma_blank quoted (text.symm.trans follows)
  obtain ⟨more, same⟩ := seam
  rw [same] at literal follows
  unfold TakesIn
  exact ⟨String.ofList more, by simp [← String.toList_inj, literal],
    by simp [← String.toList_inj, follows]⟩

/-- Different literals with arguments after them are the same text exactly if one of them
takes in what follows the other. -/
theorem literal_append_eq_iff {first second : String} {later others : List (String × String)}
    (different : first ≠ second) :
    Literal.encode first ++ argumentsAfter later = Literal.encode second ++ argumentsAfter others ↔
      TakesIn first later second others ∨ TakesIn second others first later := by
  constructor
  · intro same
    have texts := congrArg String.toList same
    rw [String.toList_append, String.toList_append, List.append_eq_append_iff] at texts
    rcases texts with ⟨extra, literal, follows⟩ | ⟨extra, literal, follows⟩
    · exact .inl (takesIn_of_append different literal follows)
    · exact .inr (takesIn_of_append (Ne.symm different) literal follows)
  · rintro (⟨more, literal, follows⟩ | ⟨more, literal, follows⟩) <;>
      simp only [literal, follows, String.append_assoc]

/-! ## Renderings that read the same -/

/-- Whether the first literal that changes, in its raw or in its expanded form, takes in
parameters that follow the other form, so that the text stays the same. -/
def Disguised (expander : Expander) (parameters : List (String × String)) : Prop :=
  ∃ earlier name raw later, parameters = earlier ++ (name, raw) :: later ∧
    (∀ parameter ∈ earlier, ¬ Changes expander parameter.2) ∧ Changes expander raw ∧
    (TakesIn raw later (valueOrRaw expander raw) (withValues expander later) ∨
      TakesIn (valueOrRaw expander raw) (withValues expander later) raw later)

/-- Whether one of the two literals of a value, raw and expanded, goes on after the other. -/
def RunsOn (expander : Expander) (raw : String) : Prop :=
  GoesOn raw (valueOrRaw expander raw) ∨ GoesOn (valueOrRaw expander raw) raw

instance (expander : Expander) (raw : String) : Decidable (RunsOn expander raw) :=
  inferInstanceAs (Decidable (_ ∨ _))

theorem Disguised.exists_runsOn {expander : Expander} {parameters : List (String × String)}
    (disguised : Disguised expander parameters) :
    ∃ parameter ∈ parameters, RunsOn expander parameter.2 := by
  obtain ⟨earlier, name, raw, later, rfl, _, _, takesIn⟩ := disguised
  exact ⟨(name, raw), by simp, takesIn.imp TakesIn.goesOn TakesIn.goesOn⟩

/-- Two renderings with the same parameters in front, and the same name, are the same if the
rest is. -/
theorem argumentsText_split_eq_iff {earlier later others : List (String × String)}
    {name first second : String} :
    argumentsText (earlier ++ (name, first) :: later) =
        argumentsText (earlier ++ (name, second) :: others) ↔
      Literal.encode first ++ argumentsAfter later =
        Literal.encode second ++ argumentsAfter others := by
  simp only [argumentsText_append_cons, String.append_assoc, String.append_right_inj]

/-- Two renderings are the same if no value changes, or if the first one that does is
disguised. -/
theorem argumentsText_withValues_eq_iff {expander : Expander}
    {parameters : List (String × String)} :
    argumentsText parameters = argumentsText (withValues expander parameters) ↔
      (∀ parameter ∈ parameters, ¬ Changes expander parameter.2) ∨
        Disguised expander parameters := by
  have first {earlier later : List (String × String)} {name raw : String}
      (unchanged : ∀ parameter ∈ earlier, ¬ Changes expander parameter.2)
      (change : Changes expander raw) :
      argumentsText (earlier ++ (name, raw) :: later) =
          argumentsText (withValues expander (earlier ++ (name, raw) :: later)) ↔
        TakesIn raw later (valueOrRaw expander raw) (withValues expander later) ∨
          TakesIn (valueOrRaw expander raw) (withValues expander later) raw later := by
    have split : withValues expander (earlier ++ (name, raw) :: later) =
        earlier ++ (name, valueOrRaw expander raw) :: withValues expander later := by
      conv_rhs => rw [← withValues_eq_self unchanged]
      simp [withValues]
    rw [split, argumentsText_split_eq_iff, literal_append_eq_iff (Ne.symm change)]
  constructor
  · intro same
    by_cases changes : ∃ parameter ∈ parameters, Changes expander parameter.2
    · obtain ⟨earlier, name, raw, later, rfl, unchanged, change⟩ := exists_first_change changes
      exact .inr ⟨earlier, name, raw, later, rfl, unchanged, change,
        (first unchanged change).mp same⟩
    · exact .inl (by simpa using changes)
  · rintro (unchanged | ⟨earlier, name, raw, later, rfl, unchanged, change, takesIn⟩)
    · rw [withValues_eq_self unchanged]
    · exact (first unchanged change).mpr takesIn

/-! ## Raw calls -/

/-- Renderings differ exactly if some value changes and no first change is disguised. -/
theorem differs_eq_true_iff {expander : Expander} {order : ParameterOrder} {task : Task}
    {parameters : Parameters}
    (rendered : (Parameters.ofTask expander order task : Traced Failure _).outcome =
      .ok parameters) :
    parameters.differs = true ↔
      (∃ parameter ∈ task.parameters, Changes expander parameter.2) ∧
        ¬ Disguised expander (arrange order task.parameters) := by
  rw [outcome_ofTask] at rendered
  cases rendered
  rw [Parameters.differs, bne_iff_ne, ne_eq, argumentsText_withValues_eq_iff, not_or]
  simp [mem_arrange]

/-- The raw call of a task is shown, right before the call that is made, exactly if its
parameters read differently after their expansion: some value changes, and the first literal
that does is not disguised by the parameters after it. If no literal of the task goes on
after its other form with a comma and more, this is so exactly if some value changes, in
whatever order the parameters stand. -/
theorem raw_call_shown_iff_change_shows (expander : Expander) (task : Task) :
    (∀ order : ParameterOrder, ∃ parameters : Parameters,
      (Parameters.ofTask expander order task : Traced Failure _).outcome = .ok parameters ∧
      (taskStatements expander order task : Traced Failure _).outcome =
        .ok ((if parameters.differs then
            [.comment (invocationText task.name parameters.raw)] else []) ++
          underCondition expander task.condition [.invoke task.name parameters.expanded]) ∧
      (parameters.differs = true ↔
        (∃ parameter ∈ task.parameters, Changes expander parameter.2) ∧
          ¬ Disguised expander (arrange order task.parameters))) ∧
    ((∀ parameter ∈ task.parameters, ¬ RunsOn expander parameter.2) →
      ∀ (order : ParameterOrder) (parameters : Parameters),
        (Parameters.ofTask expander order task : Traced Failure _).outcome = .ok parameters →
          (parameters.differs = true ↔
            ∃ parameter ∈ task.parameters, Changes expander parameter.2)) := by
  constructor
  · intro order
    have rendered := @outcome_ofTask Failure expander order task
    exact ⟨_, rendered, outcome_taskStatements expander order task, differs_eq_true_iff rendered⟩
  · intro endsThere order parameters rendered
    rw [differs_eq_true_iff rendered, and_iff_left]
    intro disguised
    obtain ⟨parameter, listed, runsOn⟩ := disguised.exists_runsOn
    exact endsThere parameter (mem_arrange.mp listed) runsOn

/-- Values with quotes, of which one changes. -/
def quotedTask : Task where
  name := "Exec"
  parameters := [("WorkingDirectory", "$(Root)"), ("Command", "say \"a\", \"b\"")]

def rootTable : PropertyTable :=
  ⟨[("Root", "/src")]⟩

theorem quotedTask_change_shows :
    (∀ parameter ∈ quotedTask.parameters, ¬ RunsOn rootTable.expand parameter.2) ∧
      ∃ sorted declared : Parameters,
        (Parameters.ofTask rootTable.expand .sorted quotedTask : Traced Failure _).outcome =
          .ok sorted ∧
        (Parameters.ofTask rootTable.expand .declared quotedTask : Traced Failure _).outcome =
          .ok declared ∧
        sorted.differs = true ∧ declared.differs = true := by
  have ends : ∀ parameter ∈ quotedTask.parameters, ¬ RunsOn rootTable.expand parameter.2 := by
    decide +kernel
  have changes : ∃ parameter ∈ quotedTask.parameters, Changes rootTable.expand parameter.2 :=
    ⟨("WorkingDirectory", "$(Root)"), by decide, by decide +kernel⟩
  obtain ⟨_, shown⟩ := raw_call_shown_iff_change_shows rootTable.expand quotedTask
  have sorted := @outcome_ofTask Failure rootTable.expand .sorted quotedTask
  have declared := @outcome_ofTask Failure rootTable.expand .declared quotedTask
  exact ⟨ends, _, _, sorted, declared, (shown ends _ _ sorted).mpr changes,
    (shown ends _ _ declared).mpr changes⟩

/-- A property whose name reads like the seam between two parameters, and values that look
like references. -/
def seamTable : PropertyTable :=
  ⟨[("x\", b: \"y", "$(x"), ("B", "y)\", b: \"$(B)")]⟩

def seamTask : Task where
  name := "Copy"
  parameters := [("b", "$(B)"), ("a", "$(x\", b: \"y)")]

/-- Both values change, and in sorted order the raw call is not shown. In the order of
declaration it is. -/
theorem seamTask_change_hidden :
    (∀ parameter ∈ seamTask.parameters, Changes seamTable.expand parameter.2) ∧
      ∃ sorted declared : Parameters,
        (Parameters.ofTask seamTable.expand .sorted seamTask : Traced Failure _).outcome =
          .ok sorted ∧
        (Parameters.ofTask seamTable.expand .declared seamTask : Traced Failure _).outcome =
          .ok declared ∧
        sorted.differs = false ∧ declared.differs = true := by
  have byName : arrange .sorted seamTask.parameters = seamTask.parameters.reverse := by
    have swapped : nameOrder ("b", "$(B)") ("a", "$(x\", b: \"y)") = false := by decide +kernel
    simp [arrange, seamTask, List.mergeSort, swapped]
  refine ⟨by decide +kernel, _, _, outcome_ofTask _ _ _, outcome_ofTask _ _ _, ?_, ?_⟩
  · rw [byName]
    decide +kernel
  · decide +kernel

end RunOnce.Compile
