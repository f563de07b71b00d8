import Mathlib.Data.List.Count
import Mathlib.Data.List.Nodup
import RunOnce.Generated.Basic

/-!
# What a program defines

A program declares flags and procedures, each with a line of its own. No other
line of a program looks like one of these, so flags and procedures can be counted
on the lines: a program has as many lines for the flag of a target as it has such
flags, and as many first lines of a target's procedure as it has such procedures.
The flags come before everything else.
-/

namespace RunOnce.Generated

open RunOnce.Model
open RunOnce.Text

/-- The line that declares the flag of a target, which is false at first. -/
def flagLine (target : String) : Line :=
  ⟨0, "bool " ++ runFlag target ++ " = false;"⟩

/-- The first line of a target's procedure. -/
def headerLine (target : String) : Line :=
  ⟨0, "void " ++ target ++ "()"⟩

theorem flagLine_injective : Function.Injective flagLine := by
  intro first second same
  simpa [flagLine, runFlag, String.append_assoc] using same

theorem headerLine_injective : Function.Injective headerLine := by
  intro first second same
  simpa [headerLine, String.append_assoc] using same

theorem headerLine_ne_flagLine (first second : String) : headerLine first ≠ flagLine second := by
  intro same
  have letters := congrArg (fun line : Line => line.text.toList) same
  simp [headerLine, flagLine] at letters

/-! ## Other lines -/

/-- Whether a line defines neither a flag nor a procedure. -/
def DefinesNothing (line : Line) : Prop :=
  ∀ target, line ≠ flagLine target ∧ line ≠ headerLine target

theorem definesNothing_of_nested {line : Line} (nested : 0 < line.level) :
    DefinesNothing line := by
  intro target
  constructor
  · rintro rfl
    exact absurd nested (Nat.lt_irrefl 0)
  · rintro rfl
    exact absurd nested (Nat.lt_irrefl 0)

/-- The text of a defining line starts with a letter of its own. -/
theorem definesNothing_of_head? {line : Line} (noFlag : line.text.toList.head? ≠ some 'b')
    (noProcedure : line.text.toList.head? ≠ some 'v') : DefinesNothing line := by
  intro target
  constructor
  · rintro rfl
    simp [flagLine] at noFlag
  · rintro rfl
    simp [headerLine] at noProcedure

theorem definesNothing_initializer (name value : String) :
    DefinesNothing ⟨0, "var " ++ name ++ " = " ++ value ++ ";"⟩ := by
  intro target
  constructor <;>
  · intro same
    have letters := congrArg (fun line : Line => line.text.toList) same
    simp [flagLine, headerLine] at letters

/-- A call of the default target ends unlike any definition. -/
theorem definesNothing_entryLine (program : Program) : DefinesNothing program.entryLine := by
  intro target
  constructor <;>
  · intro same
    have letters := congrArg (fun line : Line => line.text.toList.reverse) same
    simp [Program.entryLine, flagLine, headerLine] at letters

theorem definesNothing_of_mem_recordLines {schema : ItemSchema} {line : Line}
    (listed : line ∈ recordLines schema) : DefinesNothing line := by
  simp only [recordLines, List.cons_append, List.mem_cons, List.mem_append, List.mem_map,
    List.not_mem_nil, or_false] at listed
  rcases listed with rfl | rfl | ⟨field, _, rfl⟩ | rfl | rfl
  · exact definesNothing_of_head? (by simp) (by simp)
  · exact definesNothing_of_head? (by simp) (by simp)
  · exact definesNothing_of_nested Nat.one_pos
  · exact definesNothing_of_head? (by simp) (by simp)
  · exact definesNothing_of_head? (by simp) (by simp)

mutual

/-- The lines of a statement are nested as deep as the statement, or deeper. -/
theorem Statement.level_le_of_mem_lines {level : Nat} {statement : Statement} {line : Line}
    (listed : line ∈ statement.lines level) : level ≤ line.level := by
  cases statement with
  | guarded test body =>
    simp only [Statement.lines, List.cons_append, List.mem_cons, List.mem_append,
      List.not_mem_nil, or_false] at listed
    rcases listed with rfl | rfl | inner | rfl
    · exact Nat.le_refl level
    · exact Nat.le_refl level
    · exact Nat.le_of_succ_le (level_le_of_mem_linesOfAll inner)
    · exact Nat.le_refl level
  | _ =>
    simp only [Statement.lines, List.mem_singleton] at listed
    subst listed
    exact Nat.le_refl level

theorem Statement.level_le_of_mem_linesOfAll {level : Nat} {statements : List Statement}
    {line : Line} (listed : line ∈ Statement.linesOfAll level statements) :
    level ≤ line.level := by
  cases statements with
  | nil => cases listed
  | cons statement rest =>
    rcases List.mem_append.mp listed with first | later
    · exact level_le_of_mem_lines first
    · exact level_le_of_mem_linesOfAll later

end

theorem definesNothing_of_mem_tail_lines {procedure : Procedure} {line : Line}
    (listed : line ∈ procedure.lines.tail) : DefinesNothing line := by
  simp only [Procedure.lines, List.cons_append, List.tail_cons, List.mem_cons, List.mem_append,
    List.not_mem_nil, or_false] at listed
  rcases listed with rfl | inner | rfl | rfl
  · exact definesNothing_of_head? (by simp) (by simp)
  · exact definesNothing_of_nested (Statement.level_le_of_mem_linesOfAll inner)
  · exact definesNothing_of_head? (by simp) (by simp)
  · exact definesNothing_of_head? (by simp) (by simp)

/-! ## Counting definitions -/

theorem count_flagLine_of_definesNothing {lines : List Line}
    (nothing : ∀ line ∈ lines, DefinesNothing line) (target : String) :
    lines.count (flagLine target) = 0 :=
  List.count_eq_zero.mpr fun listed => (nothing _ listed target).1 rfl

theorem count_headerLine_of_definesNothing {lines : List Line}
    (nothing : ∀ line ∈ lines, DefinesNothing line) (target : String) :
    lines.count (headerLine target) = 0 :=
  List.count_eq_zero.mpr fun listed => (nothing _ listed target).2 rfl

/-- The lines between the flags and the procedures. -/
def middleLines (program : Program) : List Line :=
  program.initializerLines ++ [⟨0, ""⟩] ++ program.records.flatMap recordLines

theorem programLines_eq (program : Program) :
    program.lines =
      program.flagLines ++ (middleLines program ++
        (program.procedures.flatMap Procedure.lines ++ [program.entryLine])) := by
  simp only [Program.lines, middleLines, List.append_assoc]

theorem flagLines_eq (program : Program) : program.flagLines = program.flags.map flagLine :=
  rfl

theorem definesNothing_of_mem_middleLines {program : Program} {line : Line}
    (listed : line ∈ middleLines program) : DefinesNothing line := by
  simp only [middleLines, Program.initializerLines, List.mem_append, List.mem_map, List.mem_flatMap,
    List.mem_singleton] at listed
  rcases listed with (⟨initializer, _, rfl⟩ | rfl) | ⟨schema, _, inner⟩
  · exact definesNothing_initializer _ _
  · exact definesNothing_of_head? (by simp) (by simp)
  · exact definesNothing_of_mem_recordLines inner

theorem headerLine_not_mem_flagLines (program : Program) (target : String) :
    headerLine target ∉ program.flagLines := by
  intro listed
  rw [flagLines_eq] at listed
  obtain ⟨other, _, same⟩ := List.mem_map.mp listed
  exact headerLine_ne_flagLine target other same.symm

/-- The lines of procedures declare no flags. -/
theorem count_flagLine_procedures (procedures : List Procedure) (target : String) :
    (procedures.flatMap Procedure.lines).count (flagLine target) = 0 := by
  apply List.count_eq_zero.mpr
  intro listed
  obtain ⟨procedure, _, inner⟩ := List.mem_flatMap.mp listed
  rcases List.mem_cons.mp inner with header | later
  · exact headerLine_ne_flagLine procedure.target target header.symm
  · exact (definesNothing_of_mem_tail_lines later target).1 rfl

/-- Each procedure has one first line. -/
theorem count_headerLine_procedures (procedures : List Procedure) (target : String) :
    (procedures.flatMap Procedure.lines).count (headerLine target) =
      (procedures.map Procedure.target).count target := by
  induction procedures with
  | nil => rfl
  | cons procedure rest ih =>
    have header : procedure.lines = headerLine procedure.target :: procedure.lines.tail := rfl
    have nothing : procedure.lines.tail.count (headerLine target) = 0 :=
      count_headerLine_of_definesNothing (fun _ => definesNothing_of_mem_tail_lines) target
    rw [List.flatMap_cons, List.count_append, ih, header, List.count_cons, nothing, List.map_cons,
      List.count_cons]
    simp only [beq_iff_eq, headerLine_injective.eq_iff]
    omega

/-- A program has as many lines for the flag of a target as it has such flags. -/
theorem count_flagLine (program : Program) (target : String) :
    program.lines.count (flagLine target) = program.flags.count target := by
  have entry : [program.entryLine].count (flagLine target) = 0 :=
    count_flagLine_of_definesNothing (by simpa using definesNothing_entryLine program) target
  rw [programLines_eq, List.count_append, List.count_append, List.count_append,
    count_flagLine_of_definesNothing (fun _ => definesNothing_of_mem_middleLines) target,
    count_flagLine_procedures, entry, flagLines_eq,
    List.count_map_of_injective _ _ flagLine_injective]
  omega

/-- A program has as many first lines of a target's procedure as it has such
procedures. -/
theorem count_headerLine (program : Program) (target : String) :
    program.lines.count (headerLine target) =
      (program.procedures.map Procedure.target).count target := by
  have flags := List.count_eq_zero.mpr (headerLine_not_mem_flagLines program target)
  have entry : [program.entryLine].count (headerLine target) = 0 :=
    count_headerLine_of_definesNothing (by simpa using definesNothing_entryLine program) target
  rw [programLines_eq, List.count_append, List.count_append, List.count_append, flags,
    count_headerLine_of_definesNothing (fun _ => definesNothing_of_mem_middleLines) target,
    count_headerLine_procedures, entry]
  omega

/-- Whether a program defines a target once: it has one line for the flag, which is
false at first, and one procedure, and no procedure before the flag. -/
structure DefinesOnce (program : Program) (target : String) : Prop where
  flag : program.lines.count (flagLine target) = 1
  procedure : program.lines.count (headerLine target) = 1
  flagFirst : ∃ before after, program.lines = before ++ flagLine target :: after ∧
    ∀ other, headerLine other ∉ before

theorem definesOnce_of_nodup {program : Program} {target : String}
    (distinctFlags : program.flags.Nodup) (flagged : target ∈ program.flags)
    (distinct : (program.procedures.map Procedure.target).Nodup)
    (written : target ∈ program.procedures.map Procedure.target) :
    DefinesOnce program target where
  flag := by
    rw [count_flagLine]
    exact List.count_eq_one_of_mem distinctFlags flagged
  procedure := by
    rw [count_headerLine]
    exact List.count_eq_one_of_mem distinct written
  flagFirst := by
    have listed : flagLine target ∈ program.flagLines := List.mem_map_of_mem flagged
    obtain ⟨before, after, divided⟩ := List.append_of_mem listed
    refine ⟨before, after ++ (middleLines program ++
      (program.procedures.flatMap Procedure.lines ++ [program.entryLine])), ?_, ?_⟩
    · rw [programLines_eq, divided, List.append_assoc, List.cons_append]
    · intro other early
      exact headerLine_not_mem_flagLines program other
        (divided ▸ List.mem_append_left _ early)

end RunOnce.Generated
