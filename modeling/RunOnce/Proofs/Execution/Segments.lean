import RunOnce.Proofs.Execution.Course

/-!
# Courses of segments

A segment of a procedure has one course for each way its tests may come out. When these ways
are told apart by answers, the courses of a segment are a family over its answers. The family
of a longer segment is put together from those of its parts: one part after the other, the
parts for the elements of a list in turn, and the part inside a block.
-/

namespace RunOnce.Execution

open RunOnce.Generated

/-! ## Elements in turn -/

section

variable {α β γ ι : Type}

/-- What is given for the elements of a list in turn, for each with the answers at its
position. -/
def inTurn (given : ι → α → List β) (elements : List α) (answers : Nat → ι) : List β :=
  (elements.mapIdx fun position element => given (answers position) element).flatten

@[simp]
theorem inTurn_nil (given : ι → α → List β) (answers : Nat → ι) : inTurn given [] answers = [] :=
  rfl

theorem inTurn_cons (given : ι → α → List β) (element : α) (rest : List α)
    (answers : Nat → ι) :
    inTurn given (element :: rest) answers =
      given (answers 0) element ++ inTurn given rest fun position => answers (position + 1) := by
  rw [inTurn, List.mapIdx_cons, List.flatten_cons]
  rfl

theorem filterMap_inTurn (pick? : β → Option γ) (given : ι → α → List β) (elements : List α)
    (answers : Nat → ι) :
    (inTurn given elements answers).filterMap pick? =
      inTurn (fun answer element => (given answer element).filterMap pick?) elements answers := by
  induction elements generalizing answers with
  | nil => rfl
  | cons element rest ih => simp only [inTurn_cons, List.filterMap_append, ih]

@[simp]
theorem inTurn_const_nil (elements : List α) (answers : Nat → ι) :
    inTurn (fun _ _ => ([] : List β)) elements answers = [] := by
  induction elements generalizing answers with
  | nil => rfl
  | cons element rest ih => rw [inTurn_cons, List.nil_append, ih]

end

/-! ## Families of courses -/

/-- The statement that performs an action. -/
def Action.statement : Action → Statement
  | .assign name value => .assign name value
  | .invoke task arguments => .invoke task arguments

section

variable {ι κ : Type} {valuation : Valuation} {target : String}

/-- Whether the courses of a segment are those of a family: each of them comes before a
course of what follows the segment. -/
def HasCourses (valuation : Valuation) (target : String) (segment : List Statement)
    (course : ι → List Occurrence) : Prop :=
  ∀ rest occurrences, Course valuation target (segment ++ rest) occurrences ↔
    ∃ answers more, occurrences = course answers ++ more ∧ Course valuation target rest more

namespace HasCourses

variable {segment : List Statement} {course : ι → List Occurrence}

/-- Nothing comes after the courses of a whole procedure. -/
theorem course_iff (courses : HasCourses valuation target segment course)
    {occurrences : List Occurrence} :
    Course valuation target segment occurrences ↔ ∃ answers, occurrences = course answers := by
  have whole := courses [] occurrences
  rw [List.append_nil] at whole
  rw [whole]
  constructor
  · rintro ⟨answers, more, rfl, ended⟩
    cases ended
    exact ⟨answers, List.append_nil _⟩
  · rintro ⟨answers, rfl⟩
    exact ⟨answers, [], (List.append_nil _).symm, .done⟩

/-- Answers may be told apart in other ways, as long as none gets lost. -/
theorem reindex (courses : HasCourses valuation target segment course) (renamed : κ → ι)
    (onto : Function.Surjective renamed) :
    HasCourses valuation target segment fun answers => course (renamed answers) := by
  intro rest occurrences
  rw [courses]
  constructor
  · rintro ⟨answers, more, same, later⟩
    obtain ⟨answers, rfl⟩ := onto answers
    exact ⟨answers, more, same, later⟩
  · rintro ⟨answers, more, same, later⟩
    exact ⟨renamed answers, more, same, later⟩

theorem nil [Nonempty ι] : HasCourses valuation target [] fun _ : ι => [] := by
  intro rest occurrences
  simp

theorem append (first : HasCourses valuation target segment course) {others : List Statement}
    {otherCourse : κ → List Occurrence}
    (second : HasCourses valuation target others otherCourse) :
    HasCourses valuation target (segment ++ others) fun answers : ι × κ =>
      course answers.1 ++ otherCourse answers.2 := by
  intro rest occurrences
  rw [List.append_assoc, first]
  constructor
  · rintro ⟨front, middle, rfl, later⟩
    obtain ⟨back, more, rfl, after⟩ := (second rest middle).mp later
    exact ⟨(front, back), more, (List.append_assoc ..).symm, after⟩
  · rintro ⟨⟨front, back⟩, more, rfl, later⟩
    exact ⟨front, _, List.append_assoc .., (second rest _).mpr ⟨back, more, rfl, later⟩⟩

/-- The segments for the elements of a list are run through in turn. -/
theorem flatMap {α : Type} [Nonempty ι] {segmentOf : α → List Statement}
    {courseOf : ι → α → List Occurrence}
    (each : ∀ element, HasCourses valuation target (segmentOf element) fun answers =>
      courseOf answers element)
    (elements : List α) :
    HasCourses valuation target (elements.flatMap segmentOf) (inTurn courseOf elements) := by
  induction elements with
  | nil => exact nil
  | cons element rest ih =>
    -- Answers for all positions are answers for the first one and for those after it.
    have divided : Function.Surjective fun answers : Nat → ι =>
        (answers 0, fun position => answers (position + 1)) := by
      rintro ⟨first, later⟩
      exact ⟨fun position => position.casesOn first later, rfl⟩
    have both := ((each element).append ih).reindex _ divided
    have divides : inTurn courseOf (element :: rest) = fun answers =>
        courseOf (answers 0) element ++ inTurn courseOf rest fun position =>
          answers (position + 1) :=
      funext (inTurn_cons courseOf element rest)
    rw [List.flatMap_cons, divides]
    exact both

/-- Comments make no difference. -/
theorem comment (courses : HasCourses valuation target segment course) (text : String) :
    HasCourses valuation target (.comment text :: segment) course := by
  intro rest occurrences
  rw [← courses]
  constructor
  · rintro (_ | _)
    assumption
  · exact .comment

theorem blank (courses : HasCourses valuation target segment course) :
    HasCourses valuation target (.blank :: segment) course := by
  intro rest occurrences
  rw [← courses]
  constructor
  · rintro (_ | _)
    assumption
  · exact .blank

theorem remark (courses : HasCourses valuation target segment course) (text : String) :
    HasCourses valuation target (.remark text :: segment) course := by
  intro rest occurrences
  rw [← courses]
  constructor
  · rintro (_ | _)
    assumption
  · exact .remark

/-- The calls of a sequence are reached in turn. -/
theorem calls [Nonempty ι] (names : List String) :
    HasCourses valuation target (names.map .callOnce) fun _ : ι =>
      names.map (.attempted target) := by
  induction names with
  | nil => exact nil
  | cons name others ih =>
    intro rest occurrences
    constructor
    · rintro (_ | _)
      rename_i more later
      obtain ⟨answers, after, rfl, ended⟩ := (ih rest more).mp later
      exact ⟨answers, after, rfl, ended⟩
    · rintro ⟨answers, more, rfl, later⟩
      exact .call ((ih rest _).mpr ⟨answers, more, rfl, later⟩)

theorem marked [Nonempty ι] (name : String) :
    HasCourses valuation target [.markRun name] fun _ : ι => [.marked name] := by
  intro rest occurrences
  constructor
  · rintro (_ | _)
    rename_i more later
    exact ⟨Classical.ofNonempty, more, rfl, later⟩
  · rintro ⟨_, more, rfl, later⟩
    exact .mark later

theorem acted [Nonempty ι] (action : Action) :
    HasCourses valuation target [action.statement] fun _ : ι => [.acted target action] := by
  have once : ∀ rest occurrences, Course valuation target (action.statement :: rest) occurrences ↔
      ∃ more, occurrences = .acted target action :: more ∧ Course valuation target rest more := by
    intro rest occurrences
    constructor
    · intro acts
      cases action <;> cases acts <;> exact ⟨_, rfl, ‹_›⟩
    · rintro ⟨more, rfl, later⟩
      cases action with
      | assign name value => exact .assign later
      | invoke task arguments => exact .invoke later
  intro rest occurrences
  rw [List.singleton_append, once]
  simp

/-- What stands in a block happens if the test holds. -/
theorem guarded [Nonempty ι] (courses : HasCourses valuation target segment course)
    (test : String) :
    HasCourses valuation target [.guarded test segment] fun answers : Bool × ι =>
      .tested target test answers.1 :: if answers.1 then course answers.2 else [] := by
  intro rest occurrences
  constructor
  · intro whole
    cases whole with
    | pass later =>
      obtain ⟨answers, more, rfl, after⟩ := (courses rest _).mp later
      exact ⟨(true, answers), more, rfl, after⟩
    | refuse later =>
      obtain ⟨answers⟩ := ‹Nonempty ι›
      exact ⟨(false, answers), _, rfl, later⟩
  · rintro ⟨⟨holds, answers⟩, more, rfl, later⟩
    cases holds with
    | true => exact .pass ((courses rest _).mpr ⟨answers, more, rfl, later⟩)
    | false => exact .refuse later

end HasCourses

end

end RunOnce.Execution
