import Mathlib.Data.List.DropRight
import RunOnce.Ordering.TargetList
import RunOnce.Proofs.Text.Lines
import RunOnce.Proofs.Text.Tabs

/-!
# Names in target lists

A list of targets is cut at semicolons, the parts are trimmed, and what is empty then is
passed over. So a name that is listed is not empty, has no blanks around it and holds no
semicolon. Two lists with a semicolon between them are read one after the other, and a list
without semicolons is one name or, if it is blank, none.
-/

namespace RunOnce.Text

/-! ## Trimmed text -/

/-- Trimming only leaves characters out. -/
theorem trim_sublist (cs : List Char) : (trim cs).Sublist cs := by
  have front : trim cs <+: cs.dropWhile isBlank := List.rdropWhile_prefix isBlank _
  exact front.sublist.trans (List.dropWhile_suffix isBlank).sublist

/-- There is no blank at the front of a trimmed text. -/
theorem dropWhile_isBlank_trim (cs : List Char) : (trim cs).dropWhile isBlank = trim cs := by
  have front : trim cs <+: cs.dropWhile isBlank := List.rdropWhile_prefix isBlank _
  cases kept : trim cs with
  | nil => rfl
  | cons c rest =>
    rw [kept] at front
    obtain ⟨dropped, same⟩ := front
    -- The first character of a trimmed text is one at which the dropping stopped.
    have stopped := List.head?_dropWhile_not isBlank cs
    rw [← same] at stopped
    exact List.dropWhile_cons_of_neg (Bool.eq_false_iff.mp stopped)

theorem trim_trim (cs : List Char) : trim (trim cs) = trim cs := by
  calc trim (trim cs) = ((trim cs).dropWhile isBlank).rdropWhile isBlank := rfl
    _ = (trim cs).rdropWhile isBlank := by rw [dropWhile_isBlank_trim]
    _ = trim cs := List.rdropWhile_idempotent isBlank (cs.dropWhile isBlank)

/-- Nothing is left of a text exactly if it is blank. -/
theorem trim_eq_nil_iff {cs : List Char} : trim cs = [] ↔ ∀ c ∈ cs, isBlank c = true := by
  constructor
  · intro empty
    have ahead : ∀ c ∈ cs.dropWhile isBlank, isBlank c = true :=
      List.rdropWhile_eq_nil_iff.mp empty
    -- The first character that is not dropped would not be blank.
    cases kept : cs.dropWhile isBlank with
    | nil => exact List.dropWhile_eq_nil_iff.mp kept
    | cons c rest =>
      have stopped := List.head?_dropWhile_not isBlank cs
      rw [kept] at stopped ahead
      exact absurd (ahead c List.mem_cons_self) (Bool.eq_false_iff.mp stopped)
  · intro blank
    rw [trim, List.dropWhile_eq_nil_iff.mpr blank]
    rfl

/-- A part of a text does not hold the separator. -/
theorem separator_not_mem_of_mem_splitOn {α : Type} [DecidableEq α] {separator : α}
    {cs part : List α} (listed : part ∈ splitOn separator cs) : separator ∉ part := by
  intro within
  have among := List.mem_flatten.mpr ⟨part, listed, within⟩
  rw [flatten_splitOn] at among
  simpa using (List.mem_filter.mp among).2

end RunOnce.Text

namespace RunOnce.Ordering

open RunOnce.Text

/-! ## Listed names -/

/-- What a name in a list of targets is like: there is something to it, there are no
blanks around it, and it holds no semicolon. -/
structure ListedName (name : String) : Prop where
  nonempty : name ≠ ""
  trimmed : strip name = name
  undivided : ';' ∉ name.toList

/-- The names of a list are its trimmed parts, as far as these are not empty. -/
theorem mem_splitTargetList_iff {list name : String} :
    name ∈ splitTargetList list ↔
      name ≠ "" ∧ ∃ part ∈ splitOn ';' list.toList, name.toList = trim part := by
  simp only [splitTargetList, List.mem_filterMap, List.mem_map]
  constructor
  · rintro ⟨_, ⟨part, listed, rfl⟩, kept⟩
    split at kept
    · cases kept
    · rename_i nonempty
      cases kept
      refine ⟨?_, part, listed, String.toList_ofList⟩
      intro empty
      apply nonempty
      rw [← String.toList_ofList (l := trim part), empty]
      rfl
  · rintro ⟨nonempty, part, listed, same⟩
    have kept : (trim part).isEmpty = false := by
      rw [← same]
      simpa using nonempty
    refine ⟨_, ⟨part, listed, rfl⟩, ?_⟩
    rw [kept, ← same, String.ofList_toList]
    rfl

theorem listedName_of_mem {list name : String} (listed : name ∈ splitTargetList list) :
    ListedName name := by
  obtain ⟨nonempty, part, among, same⟩ := mem_splitTargetList_iff.mp listed
  refine ⟨nonempty, ?_, ?_⟩
  · rw [strip, same, trim_trim, ← same, String.ofList_toList]
  · rw [same]
    intro within
    exact separator_not_mem_of_mem_splitOn among ((trim_sublist part).subset within)

/-! ## Lists put together -/

/-- Two lists with a semicolon between them are read one after the other. -/
theorem splitTargetList_append (front back : String) :
    splitTargetList (front ++ ";" ++ back) = splitTargetList front ++ splitTargetList back := by
  have text : (front ++ ";" ++ back).toList = front.toList ++ ';' :: back.toList := by
    simp [String.toList_append]
  rw [splitTargetList, text, splitOn_append_cons, List.map_append, List.filterMap_append]
  rfl

/-- A text without semicolons is read as one name, or as none if it is blank. -/
theorem splitTargetList_of_not_mem {text : String} (undivided : ';' ∉ text.toList) :
    splitTargetList text = if strip text = "" then [] else [strip text] := by
  rw [splitTargetList, splitOn_of_not_mem undivided, List.map_singleton]
  by_cases blank : trim text.toList = []
  · simp [strip, blank]
  · simp [strip, blank]

theorem splitTargetList_of_listedName {name : String} (listed : ListedName name) :
    splitTargetList name = [name] := by
  rw [splitTargetList_of_not_mem listed.undivided, listed.trimmed, if_neg listed.nonempty]

/-- Names that may be listed are read from the list that they are joined to. -/
theorem splitTargetList_intercalate {names : List String}
    (listed : ∀ name ∈ names, ListedName name) :
    splitTargetList (";".intercalate names) = names := by
  induction names with
  | nil => rfl
  | cons name rest ih =>
    obtain ⟨here, later⟩ := List.forall_mem_cons.mp listed
    cases rest with
    | nil => exact splitTargetList_of_listedName here
    | cons next others =>
      rw [String.intercalate_cons_cons, splitTargetList_append, splitTargetList_of_listedName here,
        ih later]
      rfl

/-- No names are read exactly from blanks and semicolons. -/
theorem splitTargetList_eq_nil_iff {list : String} :
    splitTargetList list = [] ↔ ∀ c ∈ list.toList, c = ';' ∨ isBlank c = true := by
  have blankParts : splitTargetList list = [] ↔
      ∀ part ∈ splitOn ';' list.toList, ∀ c ∈ part, isBlank c = true := by
    simp [splitTargetList, trim_eq_nil_iff]
  rw [blankParts]
  constructor
  · intro blank c within
    refine or_iff_not_imp_left.mpr fun other => ?_
    -- All of a text but its separators is in its parts.
    have among : c ∈ (splitOn ';' list.toList).flatten := by
      rw [flatten_splitOn]
      exact List.mem_filter.mpr ⟨within, decide_eq_true other⟩
    obtain ⟨part, listed, inside⟩ := List.mem_flatten.mp among
    exact blank part listed c inside
  · intro only part listed c inside
    have among : c ∈ (splitOn ';' list.toList).flatten :=
      List.mem_flatten.mpr ⟨part, listed, inside⟩
    rw [flatten_splitOn] at among
    obtain ⟨within, other⟩ := List.mem_filter.mp among
    exact (only c within).resolve_left (of_decide_eq_true other)

/-- How lists of targets are read. The names of two lists with a semicolon between them are
those of the first and then those of the second. A list without semicolons is read as one
name, which is the list without the blanks around it, or as no name if that is nothing. So
whatever is read is not empty, holds no semicolon, has no blanks around it, and is read
again from the names joined with semicolons; and nothing is read exactly from a list of
semicolons and blanks. -/
theorem target_lists_are_read_part_by_part :
    (∀ front back, splitTargetList (front ++ ";" ++ back) =
      splitTargetList front ++ splitTargetList back) ∧
    ∀ list,
      (';' ∉ list.toList →
        splitTargetList list = if strip list = "" then [] else [strip list]) ∧
      (∀ name ∈ splitTargetList list, name ≠ "" ∧ ';' ∉ name.toList ∧ strip name = name) ∧
      splitTargetList (";".intercalate (splitTargetList list)) = splitTargetList list ∧
      (splitTargetList list = [] ↔ ∀ c ∈ list.toList, c = ';' ∨ isBlank c = true) := by
  refine ⟨splitTargetList_append, fun list => ⟨splitTargetList_of_not_mem, ?_, ?_,
    splitTargetList_eq_nil_iff⟩⟩
  · intro name listed
    obtain ⟨nonempty, trimmed, undivided⟩ := listedName_of_mem listed
    exact ⟨nonempty, undivided, trimmed⟩
  · exact splitTargetList_intercalate fun name => listedName_of_mem

/-- A list with repeated semicolons, a place of nothing but an em space, and blanks inside a
name as well as around it. -/
theorem gappedList_is_read_part_by_part :
    splitTargetList ";;\u2003; Build all\t;" = ["Build all"] ∧
      ';' ∉ "Build all".toList ∧ strip "Build all" = "Build all" ∧
      splitTargetList ";;\u2003" = [] ∧
      splitTargetList (";;\u2003" ++ ";" ++ " Build all\t;") = ["Build all"] := by
  obtain ⟨together, laws⟩ := target_lists_are_read_part_by_part
  have listed : splitTargetList ";;\u2003; Build all\t;" = ["Build all"] := by decide +kernel
  obtain ⟨_, names, _⟩ := laws ";;\u2003; Build all\t;"
  obtain ⟨_, undivided, trimmed⟩ := names "Build all" (by rw [listed]; exact List.mem_cons_self)
  have blank : (";;\u2003".toList.all fun c => c == ';' || isBlank c) = true := by decide +kernel
  have nothing : splitTargetList ";;\u2003" = [] :=
    (laws ";;\u2003").2.2.2.mpr fun c within => by simpa using List.all_eq_true.mp blank c within
  have last : splitTargetList " Build all\t;" = ["Build all"] := by decide +kernel
  exact ⟨listed, undivided, trimmed, nothing, by rw [together, nothing, last]; rfl⟩

end RunOnce.Ordering
