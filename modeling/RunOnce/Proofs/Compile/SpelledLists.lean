import RunOnce.Proofs.Compile.CallStructure
import RunOnce.Proofs.Compile.Written
import RunOnce.Proofs.Expansion.Grammar
import RunOnce.Proofs.Model.Admission
import RunOnce.Proofs.Ordering.TargetList
import RunOnce.Proofs.Text.Lines

/-!
# Lists that spell target names

Proper target names may be listed in any layout: with blanks around each of them, and with
empty or blank places between, before and after them. No character of a proper name is a
blank, a semicolon or a dollar sign, so such a list holds no reference, stands for itself in
every table of properties, and is read as the names in their order. A target calls exactly
the names that the list of its dependencies spells, and is indexed under exactly those that
its other lists spell.
-/

namespace RunOnce.Text

theorem trim_padded {before core after : List Char} (ahead : ∀ c ∈ before, isBlank c = true)
    (solid : ∀ c ∈ core, isBlank c = false) (behind : ∀ c ∈ after, isBlank c = true) :
    trim (before ++ core ++ after) = core := by
  have behindReversed : ∀ c ∈ after.reverse, isBlank c = true := by simpa using behind
  rw [trim, List.append_assoc, List.dropWhile_append_of_pos ahead]
  cases core with
  | nil =>
    rw [List.nil_append, List.dropWhile_eq_nil_iff.mpr behind]
    rfl
  | cons first rest =>
    have last : (first :: rest).reverse.dropWhile isBlank = (first :: rest).reverse := by
      refine List.dropWhile_eq_self_iff.mpr fun nonempty => ?_
      rw [solid _ (List.mem_reverse.mp (List.getElem_mem nonempty))]
      exact Bool.false_ne_true
    rw [List.cons_append, List.dropWhile_cons_of_neg (by simp [solid]), ← List.cons_append,
      List.reverse_append, List.dropWhile_append_of_pos behindReversed, last,
      List.reverse_reverse]

/-- Parts without a separator are the parts of the text in which they are joined by it. -/
theorem splitOn_intercalate {α : Type} [DecidableEq α] {separator : α} {parts : List (List α)}
    (nonempty : parts ≠ []) (undivided : ∀ part ∈ parts, separator ∉ part) :
    splitOn separator ([separator].intercalate parts) = parts := by
  induction parts with
  | nil => exact absurd rfl nonempty
  | cons part rest ih =>
    obtain ⟨here, later⟩ := List.forall_mem_cons.mp undivided
    cases rest with
    | nil => rw [List.intercalate_singleton, splitOn_of_not_mem here]
    | cons next others =>
      rw [List.intercalate_cons_cons, List.append_assoc, List.singleton_append,
        splitOn_append_cons, splitOn_of_not_mem here, ih (List.cons_ne_nil _ _) later]
      rfl

end RunOnce.Text

namespace RunOnce.Model

open RunOnce.Text

variable {name : String} {c : Char}

/-- The characters of target names lie between the hyphen and the last small letter, and the
semicolon is none of them. -/
theorem TargetNameShape.bounds (shape : TargetNameShape name) (listed : c ∈ name.toList) :
    45 ≤ c.toNat ∧ c.toNat ≤ 122 ∧ c.toNat ≠ 59 := by
  obtain ⟨first, rest, text, start, parts⟩ := shape
  have kind : (65 ≤ c.toNat ∧ c.toNat ≤ 90) ∨ (97 ≤ c.toNat ∧ c.toNat ≤ 122) ∨
      (48 ≤ c.toNat ∧ c.toNat ≤ 57) ∨ c = '_' ∨ c = '.' ∨ c = '-' := by
    rw [text] at listed
    rcases List.mem_cons.mp listed with rfl | later
    · exact start.imp_right (.imp_right fun underscore => .inr (.inl underscore))
    · exact parts c later
  rcases kind with upper | lower | digit | rfl | rfl | rfl
  · omega
  · omega
  · omega
  · decide
  · decide
  · decide

/-- No character of a target name is blank. -/
theorem TargetNameShape.isBlank_eq_false (shape : TargetNameShape name)
    (listed : c ∈ name.toList) : isBlank c = false := by
  obtain ⟨low, high, _⟩ := shape.bounds listed
  simp only [isBlank, blankRanges, Ranges.contains, List.any_cons, List.any_nil, Bool.or_false,
    Bool.or_eq_false_iff, Bool.and_eq_false_iff, decide_eq_false_iff_not]
  omega

end RunOnce.Model

namespace RunOnce.Expansion.PropertyTable

/-- A text without a dollar sign stands for itself. -/
theorem expand_of_not_mem (table : PropertyTable) {raw : String} (plain : '$' ∉ raw.toList) :
    table.expand raw = .ok raw := by
  have unopened : ¬ ['$', '('] <:+: raw.toList :=
    fun here => plain (here.subset List.mem_cons_self)
  have opened : breakOpening raw.toList = (raw.toList, none) :=
    breakOpening_eq_iff.mpr ⟨(List.append_nil _).symm, unopened⟩
  rw [expand, pieces_of_plain opened, expandPieces_plain, String.ofList_toList]

end RunOnce.Expansion.PropertyTable

namespace RunOnce.Ordering

open RunOnce.Expansion
open RunOnce.Journal
open RunOnce.Model
open RunOnce.Text

/-! ## Layouts of lists -/

/-- Whether a text is a name with blanks around it. -/
def IsPadded (name part : String) : Prop :=
  ∃ before after, part.toList = before ++ name.toList ++ after ∧
    (∀ c ∈ before, isBlank c = true) ∧ ∀ c ∈ after, isBlank c = true

/-- Whether the parts of a list spell names in order: each of them is the next name with
blanks around it, or else it is blank. -/
inductive Spells : List String → List String → Prop
  | nil : Spells [] []
  | blank {names parts : List String} {part : String} (blank : hasText part = false)
      (rest : Spells names parts) : Spells names (part :: parts)
  | name {names parts : List String} {name part : String} (padded : IsPadded name part)
      (rest : Spells names parts) : Spells (name :: names) (part :: parts)

variable {names parts : List String}

/-- A blank part is the empty name with blanks around it. -/
theorem isPadded_of_not_hasText {part : String} (blank : hasText part = false) :
    IsPadded "" part := by
  refine ⟨part.toList, [], by simp, ?_, List.forall_mem_nil _⟩
  simpa [hasText] using blank

theorem IsPadded.trim_eq {name part : String} (padded : IsPadded name part)
    (solid : ∀ c ∈ name.toList, isBlank c = false) : trim part.toList = name.toList := by
  obtain ⟨before, after, text, ahead, behind⟩ := padded
  rw [text, trim_padded ahead solid behind]

/-- A character that is not blank is in a part only if it is in its name. -/
theorem IsPadded.not_mem {name part : String} (padded : IsPadded name part) {c : Char}
    (visible : isBlank c = false) (absent : c ∉ name.toList) : c ∉ part.toList := by
  obtain ⟨before, after, text, ahead, behind⟩ := padded
  have notBlank : ¬ isBlank c = true := Bool.eq_false_iff.mp visible
  simp only [text, List.mem_append, not_or]
  exact ⟨⟨fun here => notBlank (ahead c here), absent⟩, fun here => notBlank (behind c here)⟩

theorem Spells.not_mem (spells : Spells names parts) {c : Char} (visible : isBlank c = false)
    (absent : ∀ name ∈ names, c ∉ name.toList) : ∀ part ∈ parts, c ∉ part.toList := by
  induction spells with
  | nil => exact List.forall_mem_nil _
  | blank blank rest ih =>
    have here := (isPadded_of_not_hasText blank).not_mem visible List.not_mem_nil
    exact List.forall_mem_cons.mpr ⟨here, ih absent⟩
  | name padded rest ih =>
    obtain ⟨absentHere, absentLater⟩ := List.forall_mem_cons.mp absent
    exact List.forall_mem_cons.mpr ⟨padded.not_mem visible absentHere, ih absentLater⟩

/-- What is left of the parts after trimming are the names. -/
theorem Spells.filterMap_trim (spells : Spells names parts)
    (proper : ∀ name ∈ names, TargetNameShape name) :
    ((parts.map String.toList).map trim).filterMap (fun name =>
      if name.isEmpty then none else some (String.ofList name)) = names := by
  induction spells with
  | nil => rfl
  | blank blank rest ih =>
    have trimmed := (isPadded_of_not_hasText blank).trim_eq (List.forall_mem_nil _)
    rw [List.map_cons, List.map_cons, trimmed, List.filterMap_cons_none rfl, ih proper]
  | @name names parts name part padded rest ih =>
    obtain ⟨properHere, properLater⟩ := List.forall_mem_cons.mp proper
    have trimmed := padded.trim_eq fun c listed => properHere.isBlank_eq_false listed
    have nonempty : name.toList ≠ [] := by
      obtain ⟨first, rest, text, _⟩ := properHere
      exact text ▸ List.cons_ne_nil first rest
    simpa [trimmed, nonempty] using ih properLater

/-- A list that spells proper names is read as these names. -/
theorem Spells.splitTargetList_eq (spells : Spells names parts)
    (proper : ∀ name ∈ names, TargetNameShape name) :
    splitTargetList (";".intercalate parts) = names := by
  have undivided : ∀ part ∈ parts, ';' ∉ part.toList :=
    spells.not_mem (by decide) fun name listed within =>
      ((proper name listed).bounds within).2.2 rfl
  cases parts with
  | nil =>
    cases spells
    rfl
  | cons part rest =>
    have parts : splitOn ';' (";".intercalate (part :: rest)).toList =
        (part :: rest).map String.toList := by
      rw [String.toList_intercalate]
      exact splitOn_intercalate (by simp) (List.forall_mem_map.mpr undivided)
    rw [splitTargetList, parts, spells.filterMap_trim proper]

/-- A list that spells proper names stands for itself in every table. -/
theorem Spells.expand_eq (spells : Spells names parts)
    (proper : ∀ name ∈ names, TargetNameShape name) (table : PropertyTable) :
    table.expand (";".intercalate parts) = .ok (";".intercalate parts) := by
  have absent : ∀ part ∈ parts, '$' ∉ part.toList :=
    spells.not_mem (by decide) fun name listed within =>
      absurd ((proper name listed).bounds within).1 (by decide)
  apply table.expand_of_not_mem
  rw [String.toList_intercalate, ← List.count_eq_zero]
  refine (count_intercalate (by decide) _).trans (List.count_eq_zero.mpr ?_)
  simpa [List.mem_flatten] using absent

/-- There are no names in a blank list. -/
theorem splitTargetList_of_not_hasText {list : String} (blank : hasText list = false) :
    splitTargetList list = [] := by
  refine splitTargetList_eq_nil_iff.mpr fun c within => .inr ?_
  simpa [hasText] using List.any_eq_false.mp blank c within

/-- Wherever a list that spells proper names decides calls, it is read as these names. -/
theorem Spells.expandTargetList_eq (spells : Spells names parts)
    (proper : ∀ name ∈ names, TargetNameShape name) (table : PropertyTable)
    (target field : String) :
    (expandTargetList table.expand target field (";".intercalate parts)).outcome =
      .ok names := by
  have read := spells.splitTargetList_eq proper
  unfold expandTargetList
  split
  · rw [spells.expand_eq proper table]
    exact congrArg Except.ok read
  · rename_i blank
    rw [splitTargetList_of_not_hasText (Bool.eq_false_iff.mpr blank)] at read
    exact congrArg Except.ok read

end RunOnce.Ordering

namespace RunOnce.Compile

open RunOnce.Expansion
open RunOnce.Generated
open RunOnce.Journal
open RunOnce.Model
open RunOnce.Ordering
open RunOnce.Text

variable {names parts : List String}

/-- A target with a list that spells proper names lists these names. -/
theorem listed_of_spells (spells : Spells names parts)
    (proper : ∀ name ∈ names, TargetNameShape name) (table : PropertyTable)
    (field : OrderingField) {target : Target} (lists : field.raw target = ";".intercalate parts) :
    Expands table.expand field target ∧ listed table.expand field target = names := by
  have read := spells.expandTargetList_eq proper table target.name field.label
  rw [← lists] at read
  exact (and_congr_right' eq_comm).mp ((expandTargetList_eq_ok_iff field).mp read)

theorem requesters_append_cons (expander : Expander) (field : OrderingField)
    (earlier : List Target) (target : Target) (later : List Target) (name : String) :
    requesters expander field (earlier ++ target :: later) name =
      requesters expander field earlier name ++
        List.replicate ((listed expander field target).count name) target.name ++
        requesters expander field later name := by
  simp [requesters]

/-- A list that spells proper names expands to itself in every table and is read as these
names. A target that depends on it compiles unless its condition keeps it from that; its
procedure calls exactly these names, in order, before any other target. A target with such a
list of targets to run before or after is entered under exactly these names, as often as the
list has them, behind the targets declared earlier and ahead of those declared later. -/
theorem spelled_names_are_called_and_indexed (spells : Spells names parts)
    (proper : ∀ name ∈ names, isTargetName name = true) (table : PropertyTable) :
    table.expand (";".intercalate parts) = .ok (";".intercalate parts) ∧
    splitTargetList (";".intercalate parts) = names ∧
    (∀ target field, (expandTargetList table.expand target field
      (";".intercalate parts)).outcome = .ok names) ∧
    (∀ (producers : Producers) (order : ParameterOrder) (target : Target),
      target.dependsOnTargets = ";".intercalate parts →
      ((∃ result, (procedure ⟨table.expand, producers, order⟩ target).outcome = .ok result) ↔
        ConditionExpands table.expand target) ∧
      ∀ result, (procedure ⟨table.expand, producers, order⟩ target).outcome = .ok result →
        ∃ skip later, result.body = skip ++ callSection "DependsOnTargets" names ++ later ∧
          callsInAll skip = [] ∧
          callsInAll later = producers.before target.name ++ producers.after target.name) ∧
    ∀ (earlier later : List Target) (target : Target) (producers : Producers),
      (Producers.ofTargets table.expand (earlier ++ target :: later)).outcome = .ok producers →
      (target.beforeTargets = ";".intercalate parts → ∀ name, producers.before name =
        requesters table.expand .before earlier name ++
          List.replicate (names.count name) target.name ++
          requesters table.expand .before later name) ∧
      (target.afterTargets = ";".intercalate parts → ∀ name, producers.after name =
        requesters table.expand .after earlier name ++
          List.replicate (names.count name) target.name ++
          requesters table.expand .after later name) := by
  have shapes : ∀ name ∈ names, TargetNameShape name :=
    fun name listed => isTargetName_eq_true_iff.mp (proper name listed)
  refine ⟨spells.expand_eq shapes table, spells.splitTargetList_eq shapes,
    spells.expandTargetList_eq shapes table, fun producers order target depends => ?_,
    fun earlier later target producers built => ⟨fun before name => ?_, fun after name => ?_⟩⟩
  · obtain ⟨expands, same⟩ := listed_of_spells spells shapes table .dependsOn depends
    constructor
    · simp only [procedure_eq_ok_iff, exists_and_left, exists_eq, and_true]
      exact and_iff_left expands
    · intro result compiled
      have sections := exists_sections_of_procedure compiled
      rwa [same] at sections
  · obtain ⟨_, same⟩ := listed_of_spells spells shapes table .before before
    rw [((Producers.ofTargets_eq_ok built).2 name).1, requesters_append_cons, same]
  · obtain ⟨_, same⟩ := listed_of_spells spells shapes table .after after
    rw [((Producers.ofTargets_eq_ok built).2 name).2, requesters_append_cons, same]

/-- A list with an em space, a no-break space and a tab around its names, with an empty and a
blank place between them, and with a name twice. -/
def looseParts : List String :=
  ["\u2003Build ", "", "\u00a0a.b-c\t", "  ", "Build"]

/-- A target that uses the list in two places. -/
def looseTarget : Target where
  name := "All"
  dependsOnTargets := ";".intercalate looseParts
  beforeTargets := ";".intercalate looseParts

theorem spells_looseParts : Spells ["Build", "a.b-c", "Build"] looseParts := by
  have build : IsPadded "Build" "\u2003Build " :=
    ⟨['\u2003'], [' '], rfl, List.forall_mem_singleton.mpr (by decide),
      List.forall_mem_singleton.mpr (by decide)⟩
  have dotted : IsPadded "a.b-c" "\u00a0a.b-c\t" :=
    ⟨['\u00a0'], ['\t'], rfl, List.forall_mem_singleton.mpr (by decide),
      List.forall_mem_singleton.mpr (by decide)⟩
  have bare : IsPadded "Build" "Build" :=
    ⟨[], [], rfl, List.forall_mem_nil _, List.forall_mem_nil _⟩
  exact .name build (.blank (by decide) (.name dotted (.blank (by decide) (.name bare .nil))))

theorem looseTarget_called_and_indexed :
    (∀ name ∈ ["Build", "a.b-c", "Build"], isTargetName name = true) ∧
    ∃ producers result,
      (Producers.ofTargets (PropertyTable.mk [("Build", "a;b")]).expand [looseTarget]).outcome =
        .ok producers ∧
      (procedure ⟨(PropertyTable.mk [("Build", "a;b")]).expand, producers, .sorted⟩
        looseTarget).outcome = .ok result ∧
      callsInAll result.body = ["Build", "a.b-c", "Build"] ∧
      producers.before "Build" = ["All", "All"] ∧ producers.before "Ghost" = [] := by
  have proper : ∀ name ∈ ["Build", "a.b-c", "Build"], isTargetName name = true := by decide
  obtain ⟨expands, _, _, calls, indexed⟩ :=
    spelled_names_are_called_and_indexed spells_looseParts proper ⟨[("Build", "a;b")]⟩
  have expand : ∀ target ∈ [looseTarget],
      Expands (PropertyTable.mk [("Build", "a;b")]).expand .before target ∧
        Expands (PropertyTable.mk [("Build", "a;b")]).expand .after target := by
    simpa [Expands, looseTarget, OrderingField.raw, hasText] using fun _ _ _ => ⟨_, expands⟩
  obtain ⟨producers, built⟩ := Producers.exists_ofTargets expand
  obtain ⟨compiles, sections⟩ := calls producers .sorted looseTarget rfl
  obtain ⟨result, compiled⟩ := compiles.mpr (by simp [ConditionExpands, looseTarget])
  obtain ⟨skip, later, body, skipCalls, laterCalls⟩ := sections result compiled
  have before := (indexed [] [] looseTarget producers built).1 rfl
  have noAll : producers.before "All" = [] := (before "All").trans (by decide)
  have noneAfter : producers.after "All" = [] :=
    ((Producers.ofTargets_eq_ok built).2 "All").2.trans (by decide)
  refine ⟨proper, producers, result, built, compiled, ?_, (before "Build").trans (by decide),
    (before "Ghost").trans (by decide)⟩
  rw [body, callsInAll_append, callsInAll_append, callsInAll_callSection, skipCalls, laterCalls,
    show looseTarget.name = "All" from rfl, noAll, noneAfter]
  rfl

end RunOnce.Compile
