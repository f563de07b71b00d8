import RunOnce.Proofs.Text.OpenBlocks
import RunOnce.Text.Literal

/-!
# What a writer has written

The text of a writer is what the steps of its history added one after the other: a line adds
its text between an indentation and a line feed, a block its text alone, and nothing that is
written is changed later.

Work on a writer may fail. A failure leaves every block around it until something passes over
it. So however work comes to an end, it has left all blocks that it entered, and the histories
of work are exactly the balanced ones.
-/

namespace RunOnce.Text.Writer

/-! ## The text -/

/-- The text only grows. -/
theorem exists_text_run (writer : Writer) (history : List Step) :
    ∃ later, (writer.run history).text = writer.text ++ later := by
  induction history generalizing writer with
  | nil => exact ⟨"", by simp [run]⟩
  | cons step rest ih =>
    obtain ⟨later, grown⟩ := ih (writer.apply step)
    exact ⟨writer.appended step ++ later, by rw [← String.append_assoc]; exact grown⟩

/-- What a step adds to a text when so many blocks are open. -/
inductive Adds (size : Int) (depth : Nat) : Step → String → Prop
  /-- A line is indented by its depth; a size that is not positive gives no indentation. -/
  | line {text : String} {spaces : Nat} (filled : text ≠ "")
      (indented : (spaces : Int) = depth * max size 0) :
      Adds size depth (.line text) (String.ofList (List.replicate spaces ' ') ++ text ++ "\n")
  | emptyLine : Adds size depth (.line "") "\n"
  | block (text : String) : Adds size depth (.block text) text
  | enter : Adds size depth .enter ""
  | leave (departure : Departure) : Adds size depth (.leave departure) ""

/-- What the steps of a history add to a text, each with the blocks open that are open when
it comes. -/
inductive Written (size : Int) : List Step → List String → Prop
  | nil : Written size [] []
  | next {history : List Step} {added : List String} {step : Step} {text : String} {depth : Nat}
      (earlier : Written size history added) (nested : (openPlaces history).encard = depth)
      (adds : Adds size depth step text) : Written size (history ++ [step]) (added ++ [text])

theorem adds_appended (size : Int) (history : List Step) (step : Step) :
    Adds size ((ofSize size).run history).level step
      (((ofSize size).run history).appended step) := by
  cases step with
  | line text =>
    by_cases empty : text = ""
    · subst empty
      exact .emptyLine
    · rw [appended, Line.render, if_neg empty, indentation, size_run]
      exact .line empty (by simp [ofSize])
  | block text => exact .block text
  | enter => exact .enter
  | leave departure => exact .leave departure

theorem exists_written (size : Int) (history : List Step) :
    ∃ added, Written size history added ∧ ((ofSize size).run history).text = String.join added := by
  induction history using List.reverseRecOn with
  | nil => exact ⟨[], .nil, rfl⟩
  | append_singleton history step ih =>
    obtain ⟨added, written, text⟩ := ih
    refine ⟨added ++ [((ofSize size).run history).appended step],
      .next written (encard_openPlaces size history) (adds_appended size history step), ?_⟩
    rw [run_append, String.join_append, ← text]
    simp [run, apply]

/-- What is written, as a line or as a block, stands in the text as it is, and at most spaces
come in front of it. -/
theorem exists_text_verbatim (writer : Writer) {step : Step} {text : String}
    (writes : step = .line text ∨ step = .block text) (after : List Step) :
    ∃ spaces later, (∀ c ∈ spaces.toList, c = ' ') ∧
      (writer.run (step :: after)).text = writer.text ++ spaces ++ text ++ later := by
  obtain ⟨later, grown⟩ := exists_text_run (writer.apply step) after
  have added : ∃ spaces behind, (∀ c ∈ spaces.toList, c = ' ') ∧
      writer.appended step = spaces ++ text ++ behind := by
    obtain rfl | rfl := writes
    · by_cases empty : text = ""
      · exact ⟨"", "\n", by simp, by simp [appended, Line.render, empty]⟩
      · refine ⟨indentation writer.size writer.level, "\n", ?_, ?_⟩
        · simp [indentation, List.mem_replicate]
        · simp [appended, Line.render, empty]
    · exact ⟨"", "", by simp, by simp [appended]⟩
  obtain ⟨spaces, behind, blank, same⟩ := added
  refine ⟨spaces, behind ++ later, blank, ?_⟩
  calc (writer.run (step :: after)).text
      = writer.text ++ writer.appended step ++ later := grown
    _ = writer.text ++ spaces ++ text ++ (behind ++ later) := by
        simp only [same, String.append_assoc]

/-! ## Work -/

/-- Work on a writer. -/
inductive Work
  | line (text : String)
  | block (text : String)
  /-- Fail for a reason. -/
  | fail (reason : String)
  /-- Work in a block of its own. -/
  | indented (body : List Work)
  /-- Work whose failure is passed over. -/
  | attempt (body : List Work)

namespace Work

/-- What work does to a writer, and how it comes to an end. -/
structure Course where
  history : List Step
  ending : Departure

mutual

/-- The course of work. A block is left the way the work in it ends. -/
def course : Work → Course
  | line text => ⟨[.line text], .completed⟩
  | block text => ⟨[.block text], .completed⟩
  | fail reason => ⟨[], .interrupted reason⟩
  | indented body =>
    ⟨.enter :: ((courseOfAll body).history ++ [.leave (courseOfAll body).ending]),
      (courseOfAll body).ending⟩
  | attempt body => ⟨(courseOfAll body).history, .completed⟩

/-- The course of one piece of work after the other, up to the first failure. -/
def courseOfAll : List Work → Course
  | [] => ⟨[], .completed⟩
  | work :: rest =>
    match course work with
    | ⟨history, .completed⟩ =>
      ⟨history ++ (courseOfAll rest).history, (courseOfAll rest).ending⟩
    | ⟨history, .interrupted reason⟩ => ⟨history, .interrupted reason⟩

end

theorem courseOfAll_cons_of_completed {work : Work} {history : List Step}
    (completed : course work = ⟨history, .completed⟩) (rest : List Work) :
    courseOfAll (work :: rest) =
      ⟨history ++ (courseOfAll rest).history, (courseOfAll rest).ending⟩ := by
  rw [courseOfAll, completed]

theorem courseOfAll_cons_of_interrupted {work : Work} {history : List Step} {reason : String}
    (interrupted : course work = ⟨history, .interrupted reason⟩) (rest : List Work) :
    courseOfAll (work :: rest) = ⟨history, .interrupted reason⟩ := by
  rw [courseOfAll, interrupted]

theorem courseOfAll_singleton {work : Work} {history : List Step}
    (completed : course work = ⟨history, .completed⟩) :
    courseOfAll [work] = ⟨history, .completed⟩ := by
  rw [courseOfAll_cons_of_completed completed, courseOfAll, List.append_nil]

/-- Work that does not fail is followed by what comes after it. -/
theorem courseOfAll_append {first : List Work} {history : List Step}
    (completed : courseOfAll first = ⟨history, .completed⟩) (second : List Work) :
    courseOfAll (first ++ second) =
      ⟨history ++ (courseOfAll second).history, (courseOfAll second).ending⟩ := by
  induction first generalizing history with
  | nil =>
    obtain ⟨rfl, -⟩ := Course.mk.inj completed
    rfl
  | cons work rest ih =>
    rw [List.cons_append]
    cases here : course work with
    | mk done ending =>
      cases ending with
      | completed =>
        rw [courseOfAll_cons_of_completed here] at completed ⊢
        obtain ⟨rfl, ending⟩ := Course.mk.inj completed
        have restCourse : courseOfAll rest = ⟨(courseOfAll rest).history, .completed⟩ := by
          rw [← ending]
        rw [ih restCourse]
        simp only [List.append_assoc]
      | interrupted reason =>
        rw [courseOfAll_cons_of_interrupted here] at completed
        cases completed

mutual

/-- However work comes to an end, it has left the blocks that it entered. -/
theorem balanced_course (work : Work) : Balanced work.course.history := by
  cases work with
  | line text => exact .line text .nil
  | block text => exact .block text .nil
  | fail reason => exact .nil
  | indented body => exact .within _ (balanced_courseOfAll body) .nil
  | attempt body => exact balanced_courseOfAll body

theorem balanced_courseOfAll (work : List Work) : Balanced (courseOfAll work).history := by
  cases work with
  | nil => exact .nil
  | cons first rest =>
    have begun := balanced_course first
    cases here : course first with
    | mk done ending =>
      rw [here] at begun
      cases ending with
      | completed =>
        rw [courseOfAll_cons_of_completed here]
        exact begun.append (balanced_courseOfAll rest)
      | interrupted reason =>
        rwa [courseOfAll_cons_of_interrupted here]

end

/-- Work in a block after which nothing fails, however the block is left. -/
theorem exists_work_in_block {inside : List Step} {body : List Work}
    (course : courseOfAll body = ⟨inside, .completed⟩) (departure : Departure) :
    ∃ work : Work, work.course = ⟨.enter :: (inside ++ [.leave departure]), .completed⟩ := by
  cases departure with
  | completed => exact ⟨.indented body, by rw [Work.course, course]⟩
  | interrupted reason =>
    have failing : courseOfAll (body ++ [.fail reason]) = ⟨inside, .interrupted reason⟩ := by
      rw [courseOfAll_append course, courseOfAll_cons_of_interrupted rfl, List.append_nil]
    refine ⟨.attempt [.indented (body ++ [.fail reason])], ?_⟩
    rw [Work.course, courseOfAll_cons_of_interrupted (by rw [Work.course, failing])]

theorem exists_work_append {first later : List Step}
    (begun : ∃ work : Work, work.course = ⟨first, .completed⟩)
    (continued : ∃ work, courseOfAll work = ⟨later, .completed⟩) :
    ∃ work, courseOfAll work = ⟨first ++ later, .completed⟩ := by
  obtain ⟨work, course⟩ := begun
  obtain ⟨rest, restCourse⟩ := continued
  exact ⟨work :: rest, by rw [courseOfAll_cons_of_completed course, restCourse]⟩

/-- Exactly the balanced histories are those of work that does not fail as a whole. -/
theorem balanced_iff_exists_work {history : List Step} :
    Balanced history ↔ ∃ work, courseOfAll work = ⟨history, .completed⟩ := by
  constructor
  · intro balanced
    induction balanced with
    | nil => exact ⟨[], by rw [courseOfAll]⟩
    | line text _ ih => exact exists_work_append ⟨.line text, by rw [course]⟩ ih
    | block text _ ih => exact exists_work_append ⟨.block text, by rw [course]⟩ ih
    | within departure _ _ inBody inRest =>
      obtain ⟨body, within⟩ := inBody
      simpa using exists_work_append (exists_work_in_block within departure) inRest
  · rintro ⟨work, course⟩
    have balanced := balanced_courseOfAll work
    rwa [course] at balanced

end Work

/-- How a writer stands after any history. Its level is the number of the blocks that are
still open. It is the number of blocks entered less that of blocks left as long as some work
lasts, which may fail in a block, and zero when the work has come to an end. Its text is what
the steps have added one after the other, each line at the depth of its place, and a literal
in it, of one line or of several, is not touched: spaces stand only in front of the line or
the block that holds it. -/
theorem level_and_text_after_any_history (size : Int) (history : List Step) :
    (openPlaces history).encard = ((ofSize size).run history).level ∧
    (∀ work rest, (Work.courseOfAll work).history = history ++ rest →
      (((ofSize size).run history).level : Int) = surplus history ∧
      (rest = [] → ((ofSize size).run history).level = 0)) ∧
    (∃ added, Written size history added ∧
      ((ofSize size).run history).text = String.join added) ∧
    ∀ before step after front value back, history = before ++ step :: after →
      (step = .line (front ++ Literal.encode value ++ back) ∨
        step = .block (front ++ Literal.encode value ++ back)) →
      ∃ spaces later, (∀ c ∈ spaces.toList, c = ' ') ∧
        ((ofSize size).run history).text =
          ((ofSize size).run before).text ++ spaces ++ front ++ Literal.encode value ++ later := by
  refine ⟨encard_openPlaces size history, ?_, exists_written size history, ?_⟩
  · intro work rest course
    have balanced := Work.balanced_courseOfAll work
    rw [course] at balanced
    have counted : (((ofSize size).run history).level : Int) =
        (ofSize size).level + surplus history :=
      level_run fun past started => Int.add_nonneg (Int.natCast_nonneg _)
        (balanced.surplus_nonneg (started.trans (List.prefix_append _ _)))
    have level : (((ofSize size).run history).level : Int) = surplus history := by
      simpa [ofSize] using counted
    refine ⟨level, ?_⟩
    rintro rfl
    rw [List.append_nil] at balanced
    exact balanced.level_run (ofSize size)
  · rintro before step after front value back rfl writes
    obtain ⟨spaces, later, blank, text⟩ :=
      exists_text_verbatim ((ofSize size).run before) writes after
    refine ⟨spaces, back ++ later, blank, ?_⟩
    rw [run_append, text]
    simp only [String.append_assoc]

/-- A line with a literal that spans two lines. -/
def noteLine : String :=
  "Note = " ++ Literal.encode "a\n  b" ++ ";"

/-- Work that fails in the inner one of two blocks, with the failure passed over around
both. -/
def interruptedWork : List Work :=
  [.line "void Build()",
    .attempt [.indented [.line "", .indented [.line noteLine, .fail "boom"], .line "Skipped();"]],
    .line "End();"]

/-- What has happened when the literal is written. -/
def interruptedHistory : List Step :=
  [.line "void Build()", .enter, .line "", .enter, .line noteLine]

/-- Two blocks are open when the literal is written, and none when the work has come to an
end; the second line of the literal keeps its two spaces. -/
theorem interruptedWork_level_and_text :
    (Work.courseOfAll interruptedWork).history = interruptedHistory ++
      [.leave (.interrupted "boom"), .leave (.interrupted "boom"), .line "End();"] ∧
    (openPlaces interruptedHistory).encard = 2 ∧
    surplus interruptedHistory = 2 ∧
    ((ofSize 2).run (Work.courseOfAll interruptedWork).history).level = 0 ∧
    ∃ spaces later, (∀ c ∈ spaces.toList, c = ' ') ∧
      ((ofSize 2).run interruptedHistory).text =
        "void Build()\n\n" ++ spaces ++ "Note = " ++ Literal.encode "a\n  b" ++ later := by
  have course : (Work.courseOfAll interruptedWork).history = interruptedHistory ++
      [.leave (.interrupted "boom"), .leave (.interrupted "boom"), .line "End();"] := by
    decide +kernel
  obtain ⟨stillOpen, lasting, _, untouched⟩ := level_and_text_after_any_history 2 interruptedHistory
  obtain ⟨_, ended, _, _⟩ :=
    level_and_text_after_any_history 2 (Work.courseOfAll interruptedWork).history
  obtain ⟨counted, _⟩ := lasting interruptedWork _ course
  have level : ((ofSize 2).run interruptedHistory).level = 2 := by decide +kernel
  rw [level] at stillOpen counted
  refine ⟨course, stillOpen, counted.symm, ?_, ?_⟩
  · exact (ended interruptedWork [] (List.append_nil _).symm).2 rfl
  · have before : ((ofSize 2).run (interruptedHistory.take 4)).text = "void Build()\n\n" := by
      decide +kernel
    have literal := untouched (interruptedHistory.take 4) (.line noteLine) [] "Note = " "a\n  b" ";"
      rfl (Or.inl rfl)
    rwa [before] at literal

end RunOnce.Text.Writer
