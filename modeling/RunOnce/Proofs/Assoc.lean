import Mathlib.Data.List.Induction
import Mathlib.Data.List.Nodup
import RunOnce.Assoc

/-!
# The mapping that settings leave behind

A sequence of settings leaves a mapping behind in which each key has the value of
its last setting, at the place of its first one. So of several keys of a kind,
the one that stands last in the mapping is the one that was first set last, and
not the one that was last set.
-/

namespace RunOnce.Assoc

universe u

variable {α : Type u}

/-! ## The last setting of a kind -/

/-- The last setting whose key is of a kind. -/
def lastSetting? (isKind : String → Bool) (settings : List (String × α)) :
    Option (String × α) :=
  settings.reverse.find? fun setting => isKind setting.1

theorem lastSetting?_concat (isKind : String → Bool) (settings : List (String × α))
    (setting : String × α) :
    lastSetting? isKind (settings ++ [setting]) =
      if isKind setting.1 then some setting else lastSetting? isKind settings := by
  by_cases kind : isKind setting.1 = true <;> simp [lastSetting?, kind]

theorem lastSetting?_append (isKind : String → Bool) (earlier later : List (String × α)) :
    lastSetting? isKind (earlier ++ later) =
      (lastSetting? isKind later).or (lastSetting? isKind earlier) := by
  simp [lastSetting?]

/-- The last setting of a kind has a key of that kind. -/
theorem isKind_of_lastSetting? {isKind : String → Bool} {settings : List (String × α)}
    {setting : String × α} (last : lastSetting? isKind settings = some setting) :
    isKind setting.1 = true := by
  have kind := List.find?_some last
  exact kind

theorem lastSetting?_eq_none_iff {isKind : String → Bool} {settings : List (String × α)} :
    lastSetting? isKind settings = none ↔ ∀ key ∈ keys settings, isKind key ≠ true := by
  simp [lastSetting?, keys]

/-- The last setting of a kind is also the last one of a narrower kind that it is
of. -/
theorem lastSetting?_of_imp {isKind isNarrower : String → Bool} {settings : List (String × α)}
    {setting : String × α} (last : lastSetting? isKind settings = some setting)
    (narrower : ∀ key, isNarrower key = true → isKind key = true)
    (here : isNarrower setting.1 = true) :
    lastSetting? isNarrower settings = some setting := by
  induction settings using List.reverseRecOn with
  | nil => cases last
  | append_singleton settings final ih =>
    rw [lastSetting?_concat] at last ⊢
    by_cases kind : isKind final.1 = true
    · rw [if_pos kind] at last
      cases last
      rw [if_pos here]
    · rw [if_neg kind] at last
      rw [if_neg (kind ∘ narrower final.1), ih last]

/-- Renaming keys is the same as asking for another kind of key. -/
theorem lastSetting?_map_key (isKind : String → Bool) (rename : String → String)
    (settings : List (String × α)) :
    lastSetting? isKind (settings.map fun setting => (rename setting.1, setting.2)) =
      (lastSetting? (isKind ∘ rename) settings).map
        fun setting => (rename setting.1, setting.2) := by
  simp only [lastSetting?, ← List.map_reverse, List.find?_map]
  rfl

/-- Settings of another kind may be left out. -/
theorem lastSetting?_filter {isKind : String → Bool} {keep : String × α → Bool}
    {settings : List (String × α)}
    (kept : ∀ setting ∈ settings, isKind setting.1 = true → keep setting = true) :
    lastSetting? isKind (settings.filter keep) = lastSetting? isKind settings := by
  induction settings using List.reverseRecOn with
  | nil => rfl
  | append_singleton settings setting ih =>
    have keptBefore := fun other listed => kept other (List.mem_append_left _ listed)
    rw [List.filter_append, lastSetting?_append, lastSetting?_append, ih keptBefore]
    by_cases keeps : keep setting = true
    · simp [keeps]
    · have otherKind : isKind setting.1 ≠ true := fun kind => keeps (kept setting (by simp) kind)
      simp [lastSetting?, keeps, otherKind]

/-! ## Keys -/

/-- Setting a new key adds it at the end. -/
theorem set_of_not_mem_keys {entries : Assoc α} {key : String} (fresh : key ∉ entries.keys)
    (value : α) : entries.set key value = entries ++ [(key, value)] := by
  induction entries with
  | nil => rfl
  | cons entry rest ih =>
    obtain ⟨k, other⟩ := entry
    simp only [keys, List.map_cons, List.mem_cons, not_or] at fresh
    have later := ih fresh.2
    simp only [set, update, if_neg (Ne.symm fresh.1)] at later ⊢
    rw [later]
    rfl

/-- An update adds its key at the end, unless it is there already. -/
theorem keys_update (entries : Assoc α) (key : String) (change : Option α → α) :
    (update key change entries).keys =
      if key ∈ entries.keys then entries.keys else entries.keys ++ [key] := by
  induction entries with
  | nil => simp [update, keys]
  | cons entry rest ih =>
    obtain ⟨k, value⟩ := entry
    by_cases same : k = key
    · simp [update, keys, same]
    · have different : key ≠ k := Ne.symm same
      simp only [keys] at ih
      by_cases old : key ∈ rest.map Prod.fst <;>
        simp [update, keys, same, different, ih, old]

/-- An update changes one entry at most. -/
theorem mem_update {entries : Assoc α} {key : String} {change : Option α → α}
    {entry : String × α} (listed : entry ∈ update key change entries) :
    entry ∈ entries ∨ ∃ old, entry = (key, change old) := by
  induction entries with
  | nil => exact .inr ⟨none, List.mem_singleton.mp listed⟩
  | cons first rest ih =>
    obtain ⟨k, value⟩ := first
    rw [update] at listed
    split at listed
    · rename_i same
      subst same
      rcases List.mem_cons.mp listed with changed | later
      · exact .inr ⟨some value, changed⟩
      · exact .inl (List.mem_cons_of_mem _ later)
    · rcases List.mem_cons.mp listed with rfl | later
      · exact .inl List.mem_cons_self
      · exact (ih later).imp_left (List.mem_cons_of_mem _)

/-- A key that is set again keeps its place. -/
theorem keys_set_of_mem {entries : Assoc α} {key : String} (old : key ∈ entries.keys)
    (value : α) : (entries.set key value).keys = entries.keys := by
  rw [set, keys_update, if_pos old]

/-- Among different keys, the value of a key is the one in its entry. -/
theorem get?_eq_some_iff_mem {entries : Assoc α} (distinct : entries.keys.Nodup) {key : String}
    {value : α} : entries.get? key = some value ↔ (key, value) ∈ entries := by
  induction entries with
  | nil => simp
  | cons entry rest ih =>
    obtain ⟨k, other⟩ := entry
    obtain ⟨unlisted, distinctRest⟩ := List.nodup_cons.mp distinct
    rw [get?_cons]
    by_cases same : k = key
    · subst k
      have absent : (key, value) ∉ rest := by
        intro listed
        exact unlisted (List.mem_map.mpr ⟨_, listed, rfl⟩)
      simp [absent, eq_comm]
    · have different : key ≠ k := Ne.symm same
      simp [same, different, ih distinctRest]

/-! ## Sequences of settings -/

theorem ofList_concat (settings : List (String × α)) (setting : String × α) :
    ofList (settings ++ [setting]) = set (ofList settings) setting.1 setting.2 := by
  simp [ofList]

/-- A key has the value of its last setting. -/
theorem get?_ofList (settings : List (String × α)) (key : String) :
    get? (ofList settings) key = (lastSetting? (· == key) settings).map Prod.snd := by
  induction settings using List.reverseRecOn with
  | nil => rfl
  | append_singleton settings setting ih =>
    rw [ofList_concat, get?_set, lastSetting?_concat, ih]
    by_cases same : setting.1 = key <;> simp [same]

/-- The keys stand in the order in which they were first set. -/
theorem keys_ofList (settings : List (String × α)) :
    keys (ofList settings) = (settings.map Prod.fst).eraseDups := by
  induction settings using List.reverseRecOn with
  | nil => rfl
  | append_singleton settings setting ih =>
    rw [ofList_concat, List.map_append, List.eraseDups_append, ← ih]
    by_cases old : setting.1 ∈ keys (ofList settings)
    · have listed : setting.1 ∈ settings.map Prod.fst := by
        rwa [ih, List.mem_eraseDups] at old
      rw [keys_set_of_mem old]
      simp [List.removeAll, listed]
    · have unlisted : setting.1 ∉ settings.map Prod.fst := by
        rwa [ih, List.mem_eraseDups] at old
      rw [set_of_not_mem_keys old]
      simp [List.removeAll, unlisted, keys, List.eraseDups_cons]

theorem nodup_keys_ofList (settings : List (String × α)) : (keys (ofList settings)).Nodup := by
  induction settings using List.reverseRecOn with
  | nil => exact List.nodup_nil
  | append_singleton settings setting ih =>
    rw [ofList_concat]
    by_cases old : setting.1 ∈ keys (ofList settings)
    · rwa [keys_set_of_mem old]
    · rw [set_of_not_mem_keys old]
      simp only [keys, List.map_append, List.map_cons, List.map_nil]
      exact List.nodup_append.mpr ⟨ih, List.nodup_singleton _, by
        rintro key listed _ last rfl
        exact old (List.mem_singleton.mp last ▸ listed)⟩

/-- Settings with different keys are the mapping that they leave behind. -/
theorem ofList_of_nodup {settings : List (String × α)}
    (distinct : (settings.map Prod.fst).Nodup) : ofList settings = settings := by
  induction settings using List.reverseRecOn with
  | nil => rfl
  | append_singleton settings setting ih =>
    rw [List.map_append, List.nodup_append] at distinct
    obtain ⟨distinctBefore, _, apart⟩ := distinct
    have fresh : setting.1 ∉ keys (ofList settings) := by
      rw [ih distinctBefore]
      intro listed
      exact apart _ listed _ (by simp) rfl
    rw [ofList_concat, set_of_not_mem_keys fresh, ih distinctBefore]

/-- The last entry of a kind is that of the last key of this kind, with the value
of that key's last setting. -/
theorem lastSetting?_ofList (isKind : String → Bool) (settings : List (String × α)) :
    lastSetting? isKind (ofList settings) =
      ((settings.map Prod.fst).eraseDups.reverse.find? isKind).bind fun key =>
        lastSetting? (· == key) settings := by
  rw [← keys_ofList, keys, ← List.map_reverse, List.find?_map]
  cases last : (ofList settings).reverse.find? (isKind ∘ Prod.fst) with
  | none => exact last
  | some entry =>
    have listed : entry ∈ ofList settings :=
      List.mem_reverse.mp (List.mem_of_find?_eq_some last)
    -- Keys are distinct, so the entry can be looked up again by its key.
    have value := (get?_eq_some_iff_mem (nodup_keys_ofList settings)).mpr listed
    rw [get?_ofList] at value
    obtain ⟨setting, found, same⟩ := Option.map_eq_some_iff.mp value
    have key : setting.1 = entry.1 := by simpa using isKind_of_lastSetting? found
    change (ofList settings).reverse.find? (isKind ∘ Prod.fst) =
      lastSetting? (· == entry.1) settings
    rw [last, found, Prod.ext key same]

end RunOnce.Assoc
