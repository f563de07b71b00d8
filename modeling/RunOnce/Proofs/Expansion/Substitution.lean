import Mathlib.Data.List.Forall2
import RunOnce.Expansion.PropertyTable
import RunOnce.Proofs.Assoc
import RunOnce.Proofs.Outcome

/-!
# What is put in for a reference

An expression expands to its plain text with the values of its references put in
between, so all that matters of a table is which value it has for a name. A table
made from a project has the value of the last global property of the name, and
the project's own value where there is none: each global property in turn takes
the place of whatever the table has for its name, in any case.
-/

namespace RunOnce.Text

@[simp]
theorem sameName_refl (name : String) : sameName name name = true := by
  simp [sameName]

theorem sameName_comm (a b : String) : sameName a b = sameName b a := by
  simp [sameName, Bool.beq_comm]

/-- Names that are the same as a third one are the same. -/
theorem sameName_trans {a b c : String} (first : sameName a b = true)
    (second : sameName b c = true) : sameName a c = true := by
  simp only [sameName, beq_iff_eq] at first second ⊢
  exact first.trans second

/-- To be the same as a name is to be the same as any other spelling of it. -/
theorem sameName_congr {a b : String} (same : sameName a b = true) (name : String) :
    sameName name a = sameName name b := by
  simp only [sameName, beq_iff_eq] at same ⊢
  rw [same]

end RunOnce.Text

namespace RunOnce.Expansion

open RunOnce.Model
open RunOnce.Text

/-! ## Texts that expand -/

/-- Whether a text stands for a piece of an expression: plain text for itself, a
reference for the value of its name. -/
inductive Fills (value? : String → Option String) : Piece → String → Prop
  | plain (characters : List Char) :
      Fills value? (.plain characters) (String.ofList characters)
  | reference {offset : Nat} {name : List Char} {value : String}
      (named : String.ofList (trim name) ≠ "")
      (found : value? (String.ofList (trim name)) = some value) :
      Fills value? (.reference offset name) value

namespace PropertyTable

theorem expandPiece_eq_ok_iff {table : PropertyTable} {piece : Piece} {part : String} :
    table.expandPiece piece = .ok part ↔ Fills table.get? piece part := by
  cases piece with
  | plain characters =>
    constructor
    · intro expanded
      cases expanded
      exact .plain characters
    · rintro (_ | _)
      rfl
  | unterminated offset rest =>
    constructor
    · intro expanded
      cases expanded
    · rintro (_ | _)
  | reference offset name =>
    unfold expandPiece
    constructor
    · intro expanded
      by_cases unnamed : String.ofList (trim name) = ""
      · simp [unnamed] at expanded
      · cases found : table.get? (String.ofList (trim name)) with
        | none => simp [unnamed, found] at expanded
        | some value =>
          simp only [unnamed, if_false, found, Except.ok.injEq] at expanded
          exact .reference unnamed (expanded ▸ found)
    · rintro (_ | ⟨named, found⟩)
      simp [named, found]

theorem expandPieces_eq_ok_iff {table : PropertyTable} {parts : List Piece} {result : String} :
    table.expandPieces parts = .ok result ↔
      ∃ texts, List.Forall₂ (Fills table.get?) parts texts ∧ result = String.join texts := by
  induction parts generalizing result with
  | nil =>
    constructor
    · intro expanded
      cases expanded
      exact ⟨[], .nil, rfl⟩
    · rintro ⟨_, (_ | _), rfl⟩
      rfl
  | cons piece rest ih =>
    unfold expandPieces
    constructor
    · intro expanded
      obtain ⟨text, first, expanded⟩ := exceptBind_eq_ok_iff.mp expanded
      obtain ⟨following, others, expanded⟩ := exceptBind_eq_ok_iff.mp expanded
      cases expanded
      obtain ⟨texts, filled, rfl⟩ := ih.mp others
      exact ⟨text :: texts, .cons (expandPiece_eq_ok_iff.mp first) filled,
        String.join_cons.symm⟩
    · rintro ⟨_, (_ | ⟨filled, others⟩), rfl⟩
      rw [expandPiece_eq_ok_iff.mpr filled, ih.mpr ⟨_, others, rfl⟩, String.join_cons]
      rfl

/-- An expression expands exactly to the texts that stand for its pieces. -/
theorem expand_eq_ok_iff {table : PropertyTable} {raw result : String} :
    table.expand raw = .ok result ↔
      ∃ texts, List.Forall₂ (Fills table.get?) (pieces 0 raw.toList) texts ∧
        result = String.join texts :=
  expandPieces_eq_ok_iff

/-! ## Values of names -/

theorem get?_eq_lastSetting? (table : PropertyTable) (name : String) :
    table.get? name = (Assoc.lastSetting? (sameName · name) table.entries).map Prod.snd :=
  rfl

/-- All spellings of a name have the same value. -/
theorem get?_congr (table : PropertyTable) {a b : String} (same : sameName a b = true) :
    table.get? a = table.get? b := by
  simp only [get?_eq_lastSetting?, sameName_congr same]

/-- A new value takes the place of what was there for its name, and of nothing
else. -/
theorem get?_replace (values : Assoc String) (key value name : String) :
    (⟨replace values key value⟩ : PropertyTable).get? name =
      if sameName key name then some value else (⟨values⟩ : PropertyTable).get? name := by
  have fresh :
      key ∉ Assoc.keys (values.filter fun entry => !sameName entry.1 key) := by
    simp only [Assoc.keys, List.mem_map, List.mem_filter, not_exists, not_and]
    rintro entry ⟨_, different⟩ rfl
    simp at different
  rw [replace, Assoc.set_of_not_mem_keys fresh, get?_eq_lastSetting?, get?_eq_lastSetting?,
    Assoc.lastSetting?_concat]
  by_cases same : sameName key name = true
  · simp [same]
  · rw [if_neg same, if_neg same, Assoc.lastSetting?_filter]
    -- Entries of this name cannot have been removed: they would share the new one's name.
    intro entry _ named
    by_contra removed
    have replaced : sameName key entry.1 = true := by
      rw [sameName_comm]
      simpa using removed
    exact same (sameName_trans replaced named)

/-- Global properties come before the project's own values, and the last one of a
name before the others. -/
theorem get?_ofProject (project : Project) (globals : List (String × String)) (name : String) :
    (ofProject project globals).get? name =
      ((Assoc.lastSetting? (sameName · name) globals).map Prod.snd).or
        ((⟨ownValues project⟩ : PropertyTable).get? name) := by
  unfold ofProject
  induction globals using List.reverseRecOn with
  | nil => rfl
  | append_singleton globals setting ih =>
    rw [List.foldl_concat, get?_replace, ih, Assoc.lastSetting?_concat]
    by_cases same : sameName setting.1 name = true <;> simp [same]

/-- A property that can hold of one element only is found from either end. -/
theorem find?_reverse_of_unique {α : Type} {holds : α → Bool} {elements : List α}
    (unique : elements.Pairwise fun a b => ¬(holds a = true ∧ holds b = true)) :
    elements.reverse.find? holds = elements.find? holds := by
  induction elements with
  | nil => rfl
  | cons element rest ih =>
    obtain ⟨apart, uniqueRest⟩ := List.pairwise_cons.mp unique
    rw [List.reverse_cons, List.find?_append, ih uniqueRest]
    by_cases here : holds element = true
    · have nowhereElse : rest.find? holds = none := by
        rw [List.find?_eq_none]
        intro other listed there
        exact apart other listed ⟨here, there⟩
      simp [here, nowhereElse]
    · simp [here]

/-- The own value of a name is that of the project's property of this name. -/
theorem get?_ownValues {project : Project}
    (distinct : ((project.properties.map Property.name).map lower).Nodup) (name : String) :
    (⟨ownValues project⟩ : PropertyTable).get? name =
      (project.getProperty? name).map Property.expandedValue := by
  have different : ((project.properties.map
      fun property => (property.name, property.expandedValue)).map Prod.fst).Nodup := by
    rw [List.map_map]
    exact List.Nodup.of_map lower distinct
  have unique : project.properties.Pairwise fun first second =>
      ¬(sameName first.name name = true ∧ sameName second.name name = true) := by
    rw [List.map_map] at distinct
    refine (List.pairwise_map.mp distinct).imp ?_
    rintro first second apart ⟨firstNamed, secondNamed⟩
    apply apart
    rw [sameName_comm] at secondNamed
    simpa [sameName] using sameName_trans firstNamed secondNamed
  rw [ownValues, Assoc.ofList_of_nodup different, Project.getProperty?, get?,
    ← find?_reverse_of_unique unique, ← List.map_reverse, List.find?_map, Option.map_map]
  rfl

end PropertyTable

end RunOnce.Expansion
