import RunOnce.Compile.DefaultTarget
import RunOnce.Compile.Procedure
import RunOnce.Expansion.PropertyTable
import RunOnce.Ordering.Cycle
import RunOnce.Text.StandIn

/-!
# Assembling programs

Compiles all targets of a project and lays the program out. Failures are found
in a fixed order: the default target, the lists of targets to run before and
after, then, if asked for, the call graph, then each target in turn.
-/

namespace RunOnce.Compile

open RunOnce.Expansion
open RunOnce.Generated
open RunOnce.Journal
open RunOnce.Model
open RunOnce.Ordering
open RunOnce.Text

/-- A compiled project. -/
structure Compiled where
  program : Program
  /-- The text of the program. -/
  text : String
  /-- The compiled targets, in order of declaration. -/
  targets : List String
  defaultTarget : String
  /-- The digest of the file that the project was read from. -/
  sourceHash : Option String := none
  /-- What codes of the text that are no characters are kept as. -/
  standIns : StandIns := {}
deriving Repr

/-- Whether the text can be encoded: only characters can. -/
def Compiled.isEncodable (compiled : Compiled) : Bool :=
  compiled.standIns.areAbsentFrom compiled.text

/-- The initial values of a project's properties, which global properties
override. -/
def initializers (project : Project) (globals : List (String × String)) : List (String × String) :=
  project.emittedProperties.map fun property =>
    (property.name, (overrideOf? globals property.name).getD property.expandedValue)

/-- The program of a project, under any expander. -/
def assembleProgram (expander : Expander) (settings : Settings) (globals : List (String × String))
    (project : Project) : Traced Failure Program := do
  let entry ← resolveDefaultTarget project expander settings globals
  let producers ← Producers.ofTargets expander project.targets
  if settings.detectCycles then
    checkAcyclic expander producers project.targets
  let context : Context := ⟨expander, producers, settings.parameterOrder⟩
  let compiled ← procedures context project.targets
  Traced.report
    (.programAssembled project.targets.length project.emittedProperties.length entry)
  pure {
    flags := declaredNames project.targets
    initializers := initializers project globals
    records := if settings.emitItemSchemas then project.itemSchemas else []
    procedures := compiled
    entry := entry }

/-- Compile a project under any expander. -/
def assemble (expander : Expander) (settings : Settings) (globals : List (String × String))
    (project : Project) : Traced Failure Compiled := do
  let program ← assembleProgram expander settings globals project
  pure {
    program := program
    text := program.text settings.indentSize
    targets := declaredNames project.targets
    defaultTarget := program.entry }

/-- Compile a project with the values of its own properties. -/
def compile (settings : Settings) (globals : List (String × String)) (project : Project) :
    Traced Failure Compiled :=
  assemble (PropertyTable.ofProject project globals).expand settings globals project

/-- Compile a project under a given expander, or else with the values of its own
properties. -/
def compileWith (expander? : Option Expander) (settings : Settings)
    (globals : List (String × String)) (project : Project) : Traced Failure Compiled :=
  match expander? with
  | some expander => assemble expander settings globals project
  | none => compile settings globals project

end RunOnce.Compile
